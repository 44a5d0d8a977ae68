import Nixfleet.Host.Facts
import Nixfleet.Lib.Machine

set_option autoImplicit false

/-!
# Runs of the host machine

The host machine reads events, each with the policy in force, and keeps its record when `step`
refuses one. A run from `new_pending` may mix local and remote events. Two facts about every
run: a record in `Converged` is verified and never changes again (`run_verified`), and a
failure that the agent sees is handled by its policy, except from `Deferred` (`run_failure`).
-/

namespace Nixfleet

/-- An event, with the policy that `step` is given. -/
structure HostInput where
  event : Event
  policy : RolloutPolicy

/-- Events under one policy. -/
def underPolicy (policy : RolloutPolicy) (events : List Event) : List HostInput :=
  events.map fun e => ⟨e, policy⟩

/-- An accepted event, with the effects of its transition. -/
structure AcceptedEvent where
  event : Event
  effects : List Effect

/-- One call of `step`; the record stays when it refuses the event. -/
def hostRunStep (s : HostRolloutState) (i : HostInput) : HostRolloutState × List AcceptedEvent :=
  match hostStep s i.event i.policy with
  | .ok (next, effects) => (next, [⟨i.event, effects⟩])
  | .error _ => (s, [])

/-- The host machine; it puts out the accepted events. -/
def hostMachine : Machine HostRolloutState HostInput AcceptedEvent := ⟨hostRunStep⟩

/-- A `Local*` event, which the agent synthesizes. -/
def Event.isLocal : Event → Bool
  | .localActivate .. | .localActivationStarted .. | .localActivationCompleted ..
  | .localActivationDeferred .. | .localActivationFailed .. | .localProbeTopologyDeclared ..
  | .localProbeObservedFirst .. | .localProbeResult .. | .localProbeFailureFirst ..
  | .localSustainedFailureCrossed .. | .localRollbackCompleted .. | .localConvergedReached .. =>
      true
  | _ => false

section Step

variable {s next : HostRolloutState} {i : HostInput} {effects : List Effect}

theorem hostRunStep_of_ok (h : hostStep s i.event i.policy = .ok (next, effects)) :
    hostRunStep s i = (next, [⟨i.event, effects⟩]) := by
  simp only [hostRunStep, h]

theorem hostRunStep_of_error {err : TransitionError}
    (h : hostStep s i.event i.policy = .error err) : hostRunStep s i = (s, []) := by
  simp only [hostRunStep, h]

/-- What every accepted event preserves, a step of the machine preserves. -/
theorem hostRunStep_invariant {P : HostRolloutState → Prop}
    (hstep : ∀ s next e p effects, P s → hostStep s e p = .ok (next, effects) → P next)
    (s : HostRolloutState) (i : HostInput) (hs : P s) : P (hostRunStep s i).1 := by
  cases h : hostStep s i.event i.policy with
  | error err =>
      rw [hostRunStep_of_error h]
      exact hs
  | ok out =>
      rw [hostRunStep_of_ok h]
      exact hstep s out.1 i.event i.policy out.2 hs h

end Step

/-! ## Convergence -/

/-- What the convergence check establishes. -/
structure HostRolloutState.Verified (s : HostRolloutState) : Prop where
  current : s.currentClosure = some s.targetClosure
  soaked : ∃ t, s.convergedAt = some t ∧ ∀ soakDue, s.soakDueAt = some soakDue → soakDue ≤ t
  passing : s.EnforcePass

theorem hostStep_converged {s next : HostRolloutState} {e : Event} {p : RolloutPolicy}
    {effects : List Effect} (h : hostStep s e p = .ok (next, effects))
    (hc : next.state = .converged) : next.Verified := by
  obtain ⟨hs, t, c, n, he, -, -⟩ := (hostStep_spec h).due hc
  unfold hostStep at h
  split at h
  · cases h
  · rcases he with rfl | rfl
    all_goals
      simp only [hs, soakingHandle, Except.bind_eq_ok, Except.ok.injEq, Prod.mk.injEq] at h
      obtain ⟨_, hv, rfl, -⟩ := h
      obtain ⟨hcurrent, hdue, hpass⟩ := verifyConvergedInvariants_eq_ok.mp hv
      exact ⟨congrArg some hcurrent, ⟨t, rfl, hdue⟩, hpass⟩

/-- `converged::handle` accepts nothing. -/
theorem hostRunStep_of_converged {s : HostRolloutState} (h : s.state = .converged)
    (i : HostInput) : hostRunStep s i = (s, []) := by
  unfold hostRunStep hostStep
  split
  · rename_i heq
    split at heq
    · cases heq
    · simp [h] at heq
  · rfl

theorem run_of_converged {s : HostRolloutState} (h : s.state = .converged)
    (is : List HostInput) : hostMachine.run s is = s := by
  induction is with
  | nil => rfl
  | cons i is ih =>
      have hstep : hostMachine.step s i = (s, []) := hostRunStep_of_converged h i
      rw [Machine.run_cons, hstep]
      exact ih

section Runs

variable (rid : RolloutId) (host : HostId) (channel : ChannelId) (target : ClosureHash)
  (dispatchedAt soakDueAt : Time)

/-- **Converged records.** A run that reaches `Converged` has verified the closure, the soak
time and the enforced probes, and whatever comes after leaves the record as it is. -/
theorem run_verified (is : List HostInput)
    (hc : (hostMachine.run (.newPending rid host channel target dispatchedAt soakDueAt) is).state =
      .converged) :
    (hostMachine.run (.newPending rid host channel target dispatchedAt soakDueAt) is).Verified ∧
      ∀ js, hostMachine.run (.newPending rid host channel target dispatchedAt soakDueAt)
          (is ++ js) =
        hostMachine.run (.newPending rid host channel target dispatchedAt soakDueAt) is := by
  constructor
  · refine hostMachine.run_invariant_of_step
      (P := fun s => s.state = .converged → s.Verified) ?_ ?_ is hc
    · exact hostRunStep_invariant fun s next e p effects _ h hnext => hostStep_converged h hnext
    · exact nofun
  · intro js
    rw [hostMachine.run_append, run_of_converged hc]

end Runs

/-- A policy without waves. -/
def plainPolicy (onHealthFailure : OnHealthFailure) : RolloutPolicy :=
  ⟨"all-at-once", [], onHealthFailure⟩

/-- A dispatch at time `0`, to be soaked until time `5`. -/
def freshRecord : HostRolloutState := .newPending (.new "stable" "r1") "host" "stable" "new" 0 5

/-- An activation, a passing probe and the end of the soak time. -/
def convergingEvents : List Event :=
  [.localActivate "old" "new" 1 5 1, .localActivationCompleted "new" 0 2 2,
   .localProbeResult "http" .enforce .pass 3 none none 3, .localConvergedReached 5 "new" 4]

def convergingRun : List HostInput := underPolicy (plainPolicy .halt) convergingEvents

theorem convergingRun_verified :
    (hostMachine.run freshRecord convergingRun).Verified ∧
      ∀ js, hostMachine.run freshRecord (convergingRun ++ js) =
        hostMachine.run freshRecord convergingRun :=
  run_verified (.new "stable" "r1") "host" "stable" "new" 0 5 convergingRun (by decide)

/-! ## Failures of the agent -/

/-- The failure is handled by the policy that applies to it: the policy is recorded, and the
effects hold its rollback and no other. -/
def FailureHandled (s next : HostRolloutState) (i : HostInput) (effects : List Effect) : Prop :=
  ∃ policy, i.event.failurePolicy? i.policy = some policy ∧ next.policyApplied = some policy ∧
    effects.filterMap Effect.rollback? = s.rollbackOf policy

section Failure

variable {s next : HostRolloutState} {i : HostInput} {effects : List Effect}

/-- A record fails from where an activation or a soak can go wrong. -/
theorem HostMove.of_failed {src : HostState} (h : HostMove src .failed) :
    src = .activating ∨ src = .soaking ∨ src = .deferred := by
  cases h <;> simp

/-- Of the local events only the two failures lead to `Failed`. -/
theorem hostStep_failurePolicy {e : Event} {p : RolloutPolicy}
    (h : hostStep s e p = .ok (next, effects)) (hlocal : e.isLocal = true)
    (hfailed : next.state = .failed) : ∃ policy, e.failurePolicy? p = some policy := by
  have hafter := hostStep_after h
  rw [hfailed] at hafter
  generalize s.state = src at hafter
  unfold HostState.after at hafter
  split at hafter <;> cases hafter
  -- the arrows to `Failed`: the local ones carry a policy
  all_goals first
    | exact ⟨_, rfl⟩
    | cases hlocal

end Failure

section Runs

variable (rid : RolloutId) (host : HostId) (channel : ChannelId) (target : ClosureHash)
  (dispatchedAt soakDueAt : Time)

/-- **Failures of the agent.** In every run, a local failure from `Activating` or `Soaking`
records its policy and fires the one rollback that the policy asks for; one from `Deferred`
fires none. -/
theorem run_failure (is : List HostInput) {i : HostInput} {next : HostRolloutState}
    {effects : List Effect}
    (h : hostStep (hostMachine.run
      (.newPending rid host channel target dispatchedAt soakDueAt) is) i.event i.policy =
        .ok (next, effects))
    (hlocal : i.event.isLocal = true) (hfailed : next.state = .failed) :
    let s := hostMachine.run (.newPending rid host channel target dispatchedAt soakDueAt) is
    (s.state = .activating ∨ s.state = .soaking) ∧ FailureHandled s next i effects ∨
      s.state = .deferred ∧ effects.filterMap Effect.rollback? = [] := by
  intro s
  obtain ⟨policy, hpolicy⟩ := hostStep_failurePolicy h hlocal hfailed
  have hrollbacks := hostStep_rollbacks h
  have handled (hs : s.state ≠ .deferred) : FailureHandled s next i effects := by
    refine ⟨policy, hpolicy, (hostStep_failure h hpolicy).2 hs, ?_⟩
    rw [hrollbacks, if_neg hs, hpolicy]
    rfl
  rcases HostMove.of_failed (hfailed ▸ (hostStep_spec h).move) with hs | hs | hs
  · exact .inl ⟨.inl hs, handled (by rw [hs]; decide)⟩
  · exact .inl ⟨.inr hs, handled (by rw [hs]; decide)⟩
  · refine .inr ⟨hs, ?_⟩
    rw [hrollbacks, if_pos hs]

end Runs

/-- An activation that fails at once, under `rollback-and-halt`. -/
theorem activationFailed_handled :
    let s := hostMachine.run freshRecord
      (underPolicy (plainPolicy .rollbackAndHalt) [.localActivate "old" "new" 1 5 1])
    let i : HostInput := ⟨.localActivationFailed 1 "" 3 2, plainPolicy .rollbackAndHalt⟩
    ∃ next effects, hostStep s i.event i.policy = .ok (next, effects) ∧
      ((s.state = .activating ∨ s.state = .soaking) ∧ FailureHandled s next i effects ∨
        s.state = .deferred ∧ effects.filterMap Effect.rollback? = []) := by
  intro s i
  refine ⟨_, _, rfl, ?_⟩
  exact run_failure (.new "stable" "r1") "host" "stable" "new" 0 5
    (underPolicy (plainPolicy .rollbackAndHalt) [.localActivate "old" "new" 1 5 1]) rfl rfl rfl

/-- An activation that waits for a reboot, as the agent reports it. -/
def deferredInputs : List HostInput :=
  underPolicy (plainPolicy .rollbackAndHalt)
    [.localActivate "old" "new" 1 5 1, .localActivationDeferred "systemd" 2 2]

/-- The failure of the boot into the new closure. -/
def bootFailure : HostInput :=
  ⟨.localActivationFailed 1 "boot failed" 3 3, plainPolicy .rollbackAndHalt⟩

/-- The failure from `Deferred` records no policy and rolls nothing back. -/
theorem bootFailure_not_handled :
    let s := hostMachine.run freshRecord deferredInputs
    ∃ next effects, hostStep s bootFailure.event bootFailure.policy = .ok (next, effects) ∧
      bootFailure.event.isLocal = true ∧ next.state = .failed ∧ s.state ≠ .failed ∧
      ¬ FailureHandled s next bootFailure effects := by
  intro s
  refine ⟨_, _, rfl, rfl, rfl, by decide, ?_⟩
  rintro ⟨policy, -, hrecorded, -⟩
  cases hrecorded

end Nixfleet
