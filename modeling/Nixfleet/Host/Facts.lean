import Nixfleet.Host.Step
import Nixfleet.Lib.Except

set_option autoImplicit false

/-!
# What one host transition does

`hostStep_spec` says once what an accepted event changes: the state moves along `HostMove`,
the sequence number becomes the event's, the identity and the deadline of the dispatch stay,
and the acknowledgement time and the closure to go back to are recorded by the acknowledgement
only. Every later fact about host records is read off it.
-/

namespace Nixfleet

/-- The moves of the host machine. -/
inductive HostMove : HostState → HostState → Prop
  | acked : HostMove .pending .activating
  | started : HostMove .activating .activating
  | staged : HostMove .activating .deferred
  | completed : HostMove .activating .soaking
  | rebooted : HostMove .deferred .soaking
  | probed : HostMove .soaking .soaking
  | converged : HostMove .soaking .converged
  | activationFailed : HostMove .activating .failed
  | bootFailed : HostMove .deferred .failed
  | soakFailed : HostMove .soaking .failed
  | reverted : HostMove .failed .reverted

/-- The fields that no event changes. -/
structure SameDispatch (s s' : HostRolloutState) : Prop where
  rolloutId : s'.rolloutId = s.rolloutId
  hostname : s'.hostname = s.hostname
  channel : s'.channel = s.channel
  targetClosure : s'.targetClosure = s.targetClosure
  dispatchedAt : s'.dispatchedAt = s.dispatchedAt
  soakDueAt : s'.soakDueAt = s.soakDueAt

/-- What an accepted event does to a record. -/
structure HostStepSpec (s s' : HostRolloutState) (e : Event) : Prop where
  same : SameDispatch s s'
  move : HostMove s.state s'.state
  seq : s'.lastEventSeq = e.seq
  acked : s'.dispatchAckedAt = s.dispatchAckedAt ∨ s.state = .pending
  closure : s'.currentClosureAtDispatch = s.currentClosureAtDispatch ∨ s.state = .pending
  due : s'.state = .converged → s.state = .soaking ∧
    ∃ t c n, (e = .localConvergedReached t c n ∨ e = .remoteConverged t c n) ∧
      s'.convergedAt = some t ∧ ∀ soakDue, s.soakDueAt = some soakDue → soakDue ≤ t

/-- Every probe that was reported in mode `enforce` passes. -/
def HostRolloutState.EnforcePass (s : HostRolloutState) : Prop :=
  ∀ name p, s.probes.lookup name = some p → p.mode = .enforce → p.status = .pass

/-- What the convergence check asks for. -/
theorem verifyConvergedInvariants_eq_ok {s : HostRolloutState} {c : ClosureHash} {t : Time} :
    verifyConvergedInvariants s c t = .ok () ↔
      c = s.targetClosure ∧ (∀ soakDue, s.soakDueAt = some soakDue → soakDue ≤ t) ∧
        s.EnforcePass := by
  have hdue : (s.soakDueAt.any (fun soakDue => t < soakDue) = true) ↔
      ¬ ∀ soakDue, s.soakDueAt = some soakDue → soakDue ≤ t := by
    cases s.soakDueAt <;> simp
  have hprobes : (s.probes.rows.any
      (fun p => p.2.mode = .enforce ∧ p.2.status ≠ .pass) = true) ↔ ¬ s.EnforcePass := by
    simp only [List.any_eq_true, decide_eq_true_eq, Prod.exists, Table.mem_rows,
      HostRolloutState.EnforcePass]
    push Not
    exact Iff.rfl
  unfold verifyConvergedInvariants
  by_cases hc : c = s.targetClosure
  · by_cases hd : ∀ soakDue, s.soakDueAt = some soakDue → soakDue ≤ t
    · by_cases hp : s.EnforcePass
      · rw [if_neg (not_not.mpr hc), if_neg (by rw [hdue]; exact not_not.mpr hd),
          if_neg (by rw [hprobes]; exact not_not.mpr hp)]
        exact ⟨fun _ => ⟨hc, hd, hp⟩, fun _ => rfl⟩
      · rw [if_neg (not_not.mpr hc), if_neg (by rw [hdue]; exact not_not.mpr hd),
          if_pos (hprobes.mpr hp)]
        constructor
        · intro h
          cases h
        · intro h
          exact absurd h.2.2 hp
    · rw [if_neg (not_not.mpr hc), if_pos (hdue.mpr hd)]
      constructor
      · intro h
        cases h
      · intro h
        exact absurd h.2.1 hd
  · rw [if_pos hc]
    constructor
    · intro h
      cases h
    · intro h
      exact absurd h.1 hc

theorem pendingHandle_spec {s s' : HostRolloutState} {e : Event} {p : RolloutPolicy}
    {effects : List Effect} (hs : s.state = .pending)
    (h : pendingHandle s e p = .ok (s', effects)) : HostStepSpec s s' e := by
  cases e with
  | localActivate | remoteDispatchAck =>
      simp only [pendingHandle, Except.ok.injEq, Prod.mk.injEq] at h
      obtain ⟨rfl, -⟩ := h
      exact ⟨⟨rfl, rfl, rfl, rfl, rfl, rfl⟩, hs ▸ .acked, rfl, .inr hs, .inr hs, nofun⟩
  | _ => simp [pendingHandle] at h

theorem activatingHandle_spec {s s' : HostRolloutState} {e : Event} {p : RolloutPolicy}
    {effects : List Effect} (hs : s.state = .activating)
    (h : activatingHandle s e p = .ok (s', effects)) : HostStepSpec s s' e := by
  cases e with
  | localActivationStarted | remoteActivationStarted =>
      simp only [activatingHandle, Except.ok.injEq, Prod.mk.injEq] at h
      obtain ⟨rfl, -⟩ := h
      refine ⟨⟨rfl, rfl, rfl, rfl, rfl, rfl⟩, ?_, rfl, .inl rfl, .inl rfl, ?_⟩
      · show HostMove s.state s.state
        rw [hs]
        exact .started
      · intro hc
        exact absurd (hs.symm.trans hc) (by decide)
  | localActivationCompleted | remoteActivationCompleted =>
      simp only [activatingHandle, Except.ok.injEq, Prod.mk.injEq] at h
      obtain ⟨rfl, -⟩ := h
      exact ⟨⟨rfl, rfl, rfl, rfl, rfl, rfl⟩, hs ▸ .completed, rfl, .inl rfl, .inl rfl, nofun⟩
  | localActivationDeferred | remoteActivationDeferred =>
      simp only [activatingHandle, Except.ok.injEq, Prod.mk.injEq] at h
      obtain ⟨rfl, -⟩ := h
      exact ⟨⟨rfl, rfl, rfl, rfl, rfl, rfl⟩, hs ▸ .staged, rfl, .inl rfl, .inl rfl, nofun⟩
  | localActivationFailed | remoteActivationFailed =>
      simp only [activatingHandle, Except.ok.injEq, Prod.mk.injEq] at h
      obtain ⟨rfl, -⟩ := h
      exact ⟨⟨rfl, rfl, rfl, rfl, rfl, rfl⟩, hs ▸ .activationFailed, rfl, .inl rfl, .inl rfl, nofun⟩
  | _ => simp [activatingHandle] at h

theorem deferredHandle_spec {s s' : HostRolloutState} {e : Event} {p : RolloutPolicy}
    {effects : List Effect} (hs : s.state = .deferred)
    (h : deferredHandle s e p = .ok (s', effects)) : HostStepSpec s s' e := by
  cases e with
  | localActivationCompleted | remoteActivationCompleted =>
      simp only [deferredHandle, Except.ok.injEq, Prod.mk.injEq] at h
      obtain ⟨rfl, -⟩ := h
      exact ⟨⟨rfl, rfl, rfl, rfl, rfl, rfl⟩, hs ▸ .rebooted, rfl, .inl rfl, .inl rfl, nofun⟩
  | localActivationFailed | remoteActivationFailed =>
      simp only [deferredHandle, Except.ok.injEq, Prod.mk.injEq] at h
      obtain ⟨rfl, -⟩ := h
      exact ⟨⟨rfl, rfl, rfl, rfl, rfl, rfl⟩, hs ▸ .bootFailed, rfl, .inl rfl, .inl rfl, nofun⟩
  | _ => simp [deferredHandle] at h

theorem soakingHandle_spec {s s' : HostRolloutState} {e : Event} {p : RolloutPolicy}
    {effects : List Effect} (hs : s.state = .soaking)
    (h : soakingHandle s e p = .ok (s', effects)) : HostStepSpec s s' e := by
  cases e with
  | localProbeTopologyDeclared | remoteProbeTopologyDeclared | localProbeObservedFirst
  | remoteProbeObservedFirst | localProbeResult | remoteProbeResult | localProbeFailureFirst
  | remoteProbeFailureFirst =>
      simp only [soakingHandle, Except.ok.injEq, Prod.mk.injEq] at h
      obtain ⟨rfl, -⟩ := h
      refine ⟨⟨rfl, rfl, rfl, rfl, rfl, rfl⟩, ?_, rfl, .inl rfl, .inl rfl, ?_⟩
      · show HostMove s.state s.state
        rw [hs]
        exact .probed
      · intro hc
        exact absurd (hs.symm.trans hc) (by decide)
  | localSustainedFailureCrossed | remoteFailed =>
      simp only [soakingHandle, Except.ok.injEq, Prod.mk.injEq] at h
      obtain ⟨rfl, -⟩ := h
      exact ⟨⟨rfl, rfl, rfl, rfl, rfl, rfl⟩, hs ▸ .soakFailed, rfl, .inl rfl, .inl rfl, nofun⟩
  | localConvergedReached t c n | remoteConverged t c n =>
      simp only [soakingHandle, Except.bind_eq_ok, Except.ok.injEq, Prod.mk.injEq] at h
      obtain ⟨_, hv, rfl, -⟩ := h
      refine ⟨⟨rfl, rfl, rfl, rfl, rfl, rfl⟩, hs ▸ .converged, rfl, .inl rfl, .inl rfl,
        fun _ => ?_⟩
      exact ⟨hs, t, c, n, by simp, rfl, (verifyConvergedInvariants_eq_ok.mp hv).2.1⟩
  | _ => simp [soakingHandle] at h

theorem failedHandle_spec {s s' : HostRolloutState} {e : Event} {p : RolloutPolicy}
    {effects : List Effect} (hs : s.state = .failed)
    (h : failedHandle s e p = .ok (s', effects)) : HostStepSpec s s' e := by
  cases e with
  | localRollbackCompleted | remoteRollbackComplete =>
      simp only [failedHandle, Except.ok.injEq, Prod.mk.injEq] at h
      obtain ⟨rfl, -⟩ := h
      exact ⟨⟨rfl, rfl, rfl, rfl, rfl, rfl⟩, hs ▸ .reverted, rfl, .inl rfl, .inl rfl, nofun⟩
  | _ => simp [failedHandle] at h

/-- **What an accepted event does.** -/
theorem hostStep_spec {s s' : HostRolloutState} {e : Event} {p : RolloutPolicy}
    {effects : List Effect} (h : hostStep s e p = .ok (s', effects)) : HostStepSpec s s' e := by
  unfold hostStep at h
  split at h
  · cases h
  · cases hs : s.state with
    | pending => exact pendingHandle_spec hs (by simpa only [hs] using h)
    | activating => exact activatingHandle_spec hs (by simpa only [hs] using h)
    | deferred => exact deferredHandle_spec hs (by simpa only [hs] using h)
    | soaking => exact soakingHandle_spec hs (by simpa only [hs] using h)
    | failed => exact failedHandle_spec hs (by simpa only [hs] using h)
    | converged => simp [hs] at h
    | reverted => simp [hs] at h

/-- An accepted event is numbered above the last one. -/
theorem hostStep_seq_lt {s s' : HostRolloutState} {e : Event} {p : RolloutPolicy}
    {effects : List Effect} (h : hostStep s e p = .ok (s', effects)) :
    s.lastEventSeq < e.seq := by
  unfold hostStep at h
  split at h
  · cases h
  · rename_i hseq
    omega

theorem HostMove.ne_pending {src dst : HostState} (h : HostMove src dst) : dst ≠ .pending := by
  cases h <;> decide

/-! ## The state diagram -/

/-- The state to which an event takes a record, where it is accepted. -/
def HostState.after : HostState → Event → Option HostState
  | .pending, .localActivate .. | .pending, .remoteDispatchAck .. => some .activating
  | .activating, .localActivationStarted .. | .activating, .remoteActivationStarted .. =>
      some .activating
  | .activating, .localActivationDeferred .. | .activating, .remoteActivationDeferred .. =>
      some .deferred
  | .activating, .localActivationCompleted .. | .activating, .remoteActivationCompleted ..
  | .deferred, .localActivationCompleted .. | .deferred, .remoteActivationCompleted .. =>
      some .soaking
  | .activating, .localActivationFailed .. | .activating, .remoteActivationFailed ..
  | .deferred, .localActivationFailed .. | .deferred, .remoteActivationFailed .. => some .failed
  | .soaking, .localProbeTopologyDeclared .. | .soaking, .remoteProbeTopologyDeclared ..
  | .soaking, .localProbeObservedFirst .. | .soaking, .remoteProbeObservedFirst ..
  | .soaking, .localProbeResult .. | .soaking, .remoteProbeResult ..
  | .soaking, .localProbeFailureFirst .. | .soaking, .remoteProbeFailureFirst .. => some .soaking
  | .soaking, .localSustainedFailureCrossed .. | .soaking, .remoteFailed .. => some .failed
  | .soaking, .localConvergedReached .. | .soaking, .remoteConverged .. => some .converged
  | .failed, .localRollbackCompleted .. | .failed, .remoteRollbackComplete .. => some .reverted
  | _, _ => none

/-- **An accepted event follows the diagram.** -/
theorem hostStep_after {s s' : HostRolloutState} {e : Event} {p : RolloutPolicy}
    {effects : List Effect} (h : hostStep s e p = .ok (s', effects)) :
    s.state.after e = some s'.state := by
  unfold hostStep at h
  split at h
  · cases h
  · cases e with
    | localConvergedReached t c n | remoteConverged t c n =>
        cases hs : s.state <;>
          simp only [hs, pendingHandle, activatingHandle, deferredHandle, soakingHandle,
            failedHandle, reduceCtorEq, Except.bind_eq_ok, Except.ok.injEq, Prod.mk.injEq] at h
        obtain ⟨_, -, rfl, -⟩ := h
        rfl
    | _ =>
        cases hs : s.state <;>
          simp only [hs, pendingHandle, activatingHandle, deferredHandle, soakingHandle,
            failedHandle, reduceCtorEq, Except.ok.injEq, Prod.mk.injEq] at h
        all_goals
          obtain ⟨rfl, -⟩ := h
          simp [HostState.after, HostRolloutState.activate, HostRolloutState.complete,
            HostRolloutState.revert]

/-- The report that a rollback is complete. -/
def Event.confirmsRollback : Event → Bool
  | .localRollbackCompleted .. | .remoteRollbackComplete .. => true
  | _ => false

/-- A record is rolled back out of `Failed`, and by such a report. -/
theorem hostStep_reverted {s s' : HostRolloutState} {e : Event} {p : RolloutPolicy}
    {effects : List Effect} (h : hostStep s e p = .ok (s', effects)) (hs : s'.state = .reverted) :
    s.state = .failed ∧ e.confirmsRollback = true := by
  have hafter := hostStep_after h
  rw [hs] at hafter
  generalize s.state = src at hafter ⊢
  unfold HostState.after at hafter
  split at hafter <;> cases hafter <;> exact ⟨rfl, rfl⟩

/-- A report with a new number rolls a failed record back. -/
theorem hostStep_of_confirmsRollback {s : HostRolloutState} {e : Event} (hs : s.state = .failed)
    (he : e.confirmsRollback = true) (hseq : s.lastEventSeq < e.seq) (p : RolloutPolicy) :
    ∃ s' effects, hostStep s e p = .ok (s', effects) ∧ s'.state = .reverted := by
  unfold hostStep
  rw [if_neg (Nat.not_le.mpr hseq), hs]
  cases e with
  | localRollbackCompleted | remoteRollbackComplete => exact ⟨_, _, rfl, rfl⟩
  | _ => cases he

/-! ## Rollbacks -/

/-- The rollback of an effect, if it is one. -/
def Effect.rollback? : Effect → Option (RolloutId × ClosureHash)
  | .localFireRollbackTo rid closure => some (rid, closure)
  | _ => none

/-- The policy of a failure that the agent saw itself: the event's own, or the one in force. -/
def Event.failurePolicy? (e : Event) (p : RolloutPolicy) : Option OnHealthFailure :=
  match e with
  | .localActivationFailed .. => some p.onHealthFailure
  | .localSustainedFailureCrossed _ _ _ policyApplied _ => some policyApplied
  | _ => none

/-- The one rollback that a policy asks for, if the dispatch recorded a closure. -/
def HostRolloutState.rollbackOf (s : HostRolloutState) (policy : OnHealthFailure) :
    List (RolloutId × ClosureHash) :=
  if policy = .rollbackAndHalt then
    (s.currentClosureAtDispatch.map fun prior => (s.rolloutId, prior)).toList
  else []

section Effects

variable (s : HostRolloutState)

@[simp] theorem rollback?_emitEvent (payload : OutboundAgentEvent) (durable : Bool) :
    (s.emitEvent payload durable).rollback? = none := rfl

@[simp] theorem rollback?_appendEventLog (payload : OutboundAgentEvent) :
    (s.appendEventLog payload).rollback? = none := rfl

@[simp] theorem rollback?_recordTransition (dst : HostState) (at' : Time) :
    (s.recordTransition dst at').rollback? = none := rfl

@[simp] theorem rollback?_localFireSwitch (rid : RolloutId) (target : ClosureHash) :
    (Effect.localFireSwitch rid target).rollback? = none := rfl

@[simp] theorem rollback?_localResetProbeCache (rid : RolloutId) :
    (Effect.localResetProbeCache rid).rollback? = none := rfl

@[simp] theorem rollback?_remoteInsertQuarantine (channel : ChannelId) (closure : ClosureHash) :
    (Effect.remoteInsertQuarantine channel closure).rollback? = none := rfl

@[simp] theorem filterMap_rollbackEffects (policy : OnHealthFailure) :
    (s.rollbackEffects policy).filterMap Effect.rollback? = s.rollbackOf policy := by
  unfold HostRolloutState.rollbackEffects HostRolloutState.rollbackOf
  cases policy with
  | halt => rfl
  | rollbackAndHalt => cases s.currentClosureAtDispatch <;> rfl

end Effects

/-- **Which rollbacks a step fires.** That of its failure, except from `Deferred`. -/
theorem hostStep_rollbacks {s s' : HostRolloutState} {e : Event} {p : RolloutPolicy}
    {effects : List Effect} (h : hostStep s e p = .ok (s', effects)) :
    effects.filterMap Effect.rollback? =
      if s.state = .deferred then []
      else ((e.failurePolicy? p).map s.rollbackOf).getD [] := by
  unfold hostStep at h
  split at h
  · cases h
  · cases hs : s.state with
    | pending =>
        simp only [hs] at h
        cases e <;> simp only [pendingHandle, reduceCtorEq, Except.ok.injEq, Prod.mk.injEq] at h
        all_goals
          obtain ⟨-, rfl⟩ := h
          simp [Event.failurePolicy?]
    | activating =>
        simp only [hs] at h
        cases e <;>
          simp only [activatingHandle, reduceCtorEq, Except.ok.injEq, Prod.mk.injEq] at h
        all_goals
          obtain ⟨-, rfl⟩ := h
          simp [Event.failurePolicy?, List.filterMap_cons]
    | deferred =>
        simp only [hs] at h
        cases e <;> simp only [deferredHandle, reduceCtorEq, Except.ok.injEq, Prod.mk.injEq] at h
        all_goals
          obtain ⟨-, rfl⟩ := h
          simp
    | soaking =>
        simp only [hs] at h
        cases e with
        | localConvergedReached t c n | remoteConverged t c n =>
            simp only [soakingHandle, Except.bind_eq_ok, Except.ok.injEq, Prod.mk.injEq] at h
            obtain ⟨_, -, -, rfl⟩ := h
            simp [Event.failurePolicy?]
        | _ =>
            simp only [soakingHandle, reduceCtorEq, Except.ok.injEq, Prod.mk.injEq] at h
            try
              obtain ⟨-, rfl⟩ := h
              simp [Event.failurePolicy?, List.filterMap_cons]
    | failed =>
        simp only [hs] at h
        cases e <;> simp only [failedHandle, reduceCtorEq, Except.ok.injEq, Prod.mk.injEq] at h
        all_goals
          obtain ⟨-, rfl⟩ := h
          simp [Event.failurePolicy?]
    | converged => simp [hs] at h
    | reverted => simp [hs] at h

/-- A failure of the agent is accepted only after the dispatch was acknowledged, and its policy
is recorded except from `Deferred`. -/
theorem hostStep_failure {s s' : HostRolloutState} {e : Event} {p : RolloutPolicy}
    {effects : List Effect} {policy : OnHealthFailure} (h : hostStep s e p = .ok (s', effects))
    (he : e.failurePolicy? p = some policy) :
    s.state ≠ .pending ∧ (s.state ≠ .deferred → s'.policyApplied = some policy) := by
  unfold hostStep at h
  split at h
  · cases h
  · cases e with
    | localActivationFailed | localSustainedFailureCrossed =>
        cases he
        cases hs : s.state <;>
          simp only [hs, pendingHandle, activatingHandle, deferredHandle, soakingHandle,
            failedHandle, reduceCtorEq, Except.ok.injEq, Prod.mk.injEq] at h
        all_goals
          obtain ⟨rfl, -⟩ := h
          simp
    | _ => cases he

/-- **Where rollbacks come from.** A rollback goes to the closure the dispatch recorded. -/
theorem hostStep_rollback {s s' : HostRolloutState} {e : Event} {p : RolloutPolicy}
    {effects : List Effect} {rid : RolloutId} {closure : ClosureHash}
    (h : hostStep s e p = .ok (s', effects))
    (hmem : .localFireRollbackTo rid closure ∈ effects) :
    rid = s.rolloutId ∧ s.currentClosureAtDispatch = some closure ∧ s.state ≠ .pending := by
  have hfired : (rid, closure) ∈ effects.filterMap Effect.rollback? :=
    List.mem_filterMap.mpr ⟨_, hmem, rfl⟩
  rw [hostStep_rollbacks h] at hfired
  split at hfired
  · cases hfired
  · cases he : e.failurePolicy? p with
    | none => simp [he] at hfired
    | some policy =>
        have hpending := (hostStep_failure h he).1
        simp only [he, Option.map_some, Option.getD_some, HostRolloutState.rollbackOf] at hfired
        split at hfired
        · simp only [Option.mem_toList, Option.map_eq_some_iff, Prod.mk.injEq] at hfired
          obtain ⟨prior, hprior, rfl, rfl⟩ := hfired
          exact ⟨rfl, hprior, hpending⟩
        · cases hfired

/-! ## Legal events -/

/-- `transitions::dispatch`: the verdict of the state's handler, the number left out. -/
def HostRolloutState.dispatch (s : HostRolloutState) (e : Event) (policy : RolloutPolicy) :
    StepResult :=
  match s.state with
  | .pending => pendingHandle s e policy
  | .activating => activatingHandle s e policy
  | .deferred => deferredHandle s e policy
  | .soaking => soakingHandle s e policy
  | .failed => failedHandle s e policy
  | .converged => .error (illegal s e)
  | .reverted => .error (illegal s e)

/-- The event is legal from the record's state and meets the transition's own invariants. -/
def HostRolloutState.Legal (s : HostRolloutState) (e : Event) (policy : RolloutPolicy) : Prop :=
  (s.dispatch e policy).isOk = true

theorem hostStep_of_seq_lt {s : HostRolloutState} {e : Event} {policy : RolloutPolicy}
    (h : s.lastEventSeq < e.seq) : hostStep s e policy = s.dispatch e policy := by
  unfold hostStep
  rw [if_neg (by omega)]
  rfl

/-- The handlers refuse an event for the record's sake only, never for the policy's. -/
theorem HostRolloutState.Legal.of_policy {s : HostRolloutState} {e : Event}
    {policy : RolloutPolicy} (h : s.Legal e policy) (policy' : RolloutPolicy) :
    s.Legal e policy' := by
  unfold HostRolloutState.Legal HostRolloutState.dispatch at h ⊢
  cases hs : s.state with
  | activating => cases e <;> simp_all [activatingHandle, Except.isOk, Except.toBool]
  | _ =>
      simp only [hs] at h ⊢
      exact h

end Nixfleet
