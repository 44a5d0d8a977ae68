import Nixfleet.Agent.Run
import Nixfleet.Host.Mirror

set_option autoImplicit false

/-!
# What one input does to the agent's reducer

An event is dropped, or it replaces the one record it is for (`runHostEvent_cases`). A tick is
a sequence of such events (`runAdvanceTick_induction`). Of the effects of a transition at most
one is an intent for the activation worker: a switch when the dispatch is acknowledged, a
rollback when the record fails (`hostStep_intents`).
-/

namespace Nixfleet

/-! ## The intents of a transition -/

section Effects

variable (s : HostRolloutState)

@[simp] theorem intent?_emitEvent (payload : OutboundAgentEvent) (durable : Bool) :
    (s.emitEvent payload durable).intent? = none := rfl

@[simp] theorem intent?_appendEventLog (payload : OutboundAgentEvent) :
    (s.appendEventLog payload).intent? = none := rfl

@[simp] theorem intent?_recordTransition (dst : HostState) (at' : Time) :
    (s.recordTransition dst at').intent? = none := rfl

@[simp] theorem intent?_localResetProbeCache (rid : RolloutId) :
    (Effect.localResetProbeCache rid).intent? = none := rfl

@[simp] theorem intent?_remoteInsertQuarantine (channel : ChannelId) (closure : ClosureHash) :
    (Effect.remoteInsertQuarantine channel closure).intent? = none := rfl

@[simp] theorem filterMap_intent?_rollbackEffects (policy : OnHealthFailure) :
    (s.rollbackEffects policy).filterMap Effect.intent? =
      (s.rollbackOf policy).map fun r => ⟨r.1, r.2, true⟩ := by
  unfold HostRolloutState.rollbackEffects HostRolloutState.rollbackOf
  cases policy with
  | halt => rfl
  | rollbackAndHalt => cases s.currentClosureAtDispatch <;> rfl

end Effects

/-- The intents of a transition from `src` to `dst`. -/
inductive Decision (rid : RolloutId) : HostState → HostState → List ActivationIntent → Prop
  | none {src dst : HostState} : Decision rid src dst []
  | switch (target : ClosureHash) : Decision rid .pending .activating [⟨rid, target, false⟩]
  | rollback {src : HostState} (h : src = .activating ∨ src = .soaking) (prior : ClosureHash) :
      Decision rid src .failed [⟨rid, prior, true⟩]

theorem Decision.rolloutId {rid : RolloutId} {src dst : HostState}
    {intents : List ActivationIntent} (h : Decision rid src dst intents) :
    ∀ intent ∈ intents, intent.rolloutId = rid := by
  intro intent hmem
  cases h with
  | none => cases hmem
  | switch | rollback => rw [List.mem_singleton.mp hmem]

theorem Decision.of_rollbackOf {s : HostRolloutState} (policy : OnHealthFailure)
    (h : s.state = .activating ∨ s.state = .soaking) :
    Decision s.rolloutId s.state .failed
      ((s.rollbackOf policy).map fun r => ⟨r.1, r.2, true⟩) := by
  unfold HostRolloutState.rollbackOf
  by_cases hp : policy = .rollbackAndHalt
  · rw [if_pos hp]
    cases s.currentClosureAtDispatch with
    | none => exact .none
    | some prior => exact .rollback h prior
  · rw [if_neg hp]
    exact .none

/-- **What a transition decides.** -/
theorem hostStep_intents {s next : HostRolloutState} {e : Event} {p : RolloutPolicy}
    {effects : List Effect} (h : hostStep s e p = .ok (next, effects)) :
    Decision s.rolloutId s.state next.state (effects.filterMap Effect.intent?) := by
  unfold hostStep at h
  split at h
  · cases h
  · cases e with
    | localConvergedReached t c n | remoteConverged t c n =>
        cases hs : s.state <;>
          simp only [hs, pendingHandle, activatingHandle, deferredHandle, soakingHandle,
            failedHandle, reduceCtorEq, Except.bind_eq_ok, Except.ok.injEq, Prod.mk.injEq] at h
        obtain ⟨_, -, -, rfl⟩ := h
        simpa [List.filterMap_cons] using Decision.none
    | localActivate =>
        cases hs : s.state <;>
          simp only [hs, pendingHandle, activatingHandle, deferredHandle, soakingHandle,
            failedHandle, reduceCtorEq, Except.ok.injEq, Prod.mk.injEq] at h
        obtain ⟨rfl, rfl⟩ := h
        exact Decision.switch s.targetClosure
    | localActivationFailed =>
        cases hs : s.state with
        | activating =>
            simp only [hs, activatingHandle, Except.ok.injEq, Prod.mk.injEq] at h
            obtain ⟨rfl, rfl⟩ := h
            have hrollback := Decision.of_rollbackOf p.onHealthFailure (.inl hs)
            simpa [List.filterMap_cons, hs] using hrollback
        | deferred =>
            simp only [hs, deferredHandle, Except.ok.injEq, Prod.mk.injEq] at h
            obtain ⟨-, rfl⟩ := h
            simpa [List.filterMap_cons] using Decision.none
        | _ => simp [hs, pendingHandle, soakingHandle, failedHandle] at h
    | localSustainedFailureCrossed failedAt secs failing policy =>
        cases hs : s.state with
        | soaking =>
            simp only [hs, soakingHandle, Except.ok.injEq, Prod.mk.injEq] at h
            obtain ⟨rfl, rfl⟩ := h
            have hrollback := Decision.of_rollbackOf policy (.inr hs)
            simpa [List.filterMap_cons, hs] using hrollback
        | _ => simp [hs, pendingHandle, activatingHandle, deferredHandle, failedHandle] at h
    | _ =>
        cases hs : s.state <;>
          simp only [hs, pendingHandle, activatingHandle, deferredHandle, soakingHandle,
            failedHandle, reduceCtorEq, Except.ok.injEq, Prod.mk.injEq] at h
        all_goals
          obtain ⟨-, rfl⟩ := h
          simpa [List.filterMap_cons] using Decision.none

/-! ## One event -/

@[simp] theorem isLocal_withSeq (e : Event) (n : Nat) : (withSeq e n).isLocal = e.isLocal := by
  cases e <;> rfl

/-- A record is there before an event, or the event is its first dispatch. -/
theorem recordFor_eq_some {r : AgentReducer} {now : Time} {rid : RolloutId} {event : Event}
    {s : HostRolloutState} (h : r.recordFor now rid event = some s) :
    r.hostStates.lookup rid = some s ∨
      r.hostStates.lookup rid = none ∧ s.rolloutId = rid ∧ s.state = .pending := by
  unfold AgentReducer.recordFor at h
  split at h
  · rename_i s' hs'
    cases h
    exact .inl hs'
  · rename_i hnone
    cases h
    exact .inr ⟨hnone, rfl, rfl⟩
  · cases h

/-- The transition that an event makes: of which record, under which policy, to what. -/
structure Transition (now : Time) (r : AgentReducer) (rid : RolloutId) (event : Event)
    (s : HostRolloutState) (policy : RolloutPolicy) (next : HostRolloutState)
    (effects : List Effect) : Prop where
  record : r.recordFor now rid event = some s
  cached : r.resolvePolicy s.channel = some policy
  step : hostStep s (withSeq event (s.lastEventSeq + 1)) policy = .ok (next, effects)
  run : runHostEvent now r rid event =
    ({ r with hostStates := r.hostStates.insert rid next }, effects)

/-- **One event.** It is dropped, or it makes a transition. -/
theorem runHostEvent_cases (now : Time) (r : AgentReducer) (rid : RolloutId) (event : Event) :
    runHostEvent now r rid event = (r, []) ∨
      ∃ s policy next effects, Transition now r rid event s policy next effects := by
  cases hs : r.recordFor now rid event with
  | none => exact .inl (by simp only [runHostEvent, hs])
  | some s =>
      cases hp : r.resolvePolicy s.channel with
      | none => exact .inl (by simp only [runHostEvent, hs, hp])
      | some policy =>
          cases hstep : hostStep s (withSeq event (s.lastEventSeq + 1)) policy with
          | error err => exact .inl (by simp only [runHostEvent, hs, hp, hstep])
          | ok out =>
              refine .inr ⟨s, policy, out.1, out.2, hs, hp, hstep, ?_⟩
              simp only [runHostEvent, hs, hp, hstep]

/-- Every record stands under its rollout. -/
def AgentReducer.Keyed (r : AgentReducer) : Prop :=
  ∀ rid s, r.hostStates.lookup rid = some s → s.rolloutId = rid

section Keyed

variable {r : AgentReducer} {now : Time} {rid : RolloutId} {event : Event}
  {s next : HostRolloutState} {policy : RolloutPolicy} {effects : List Effect}

theorem AgentReducer.Keyed.insert (hk : r.Keyed) (h : next.rolloutId = rid) :
    AgentReducer.Keyed { r with hostStates := r.hostStates.insert rid next } := by
  intro rid' s' hs'
  rw [Table.lookup_insert_eq] at hs'
  split at hs'
  · rename_i heq
    cases hs'
    rw [h, heq]
  · exact hk _ _ hs'

theorem Transition.rolloutId (h : Transition now r rid event s policy next effects)
    (hk : r.Keyed) : s.rolloutId = rid := by
  rcases recordFor_eq_some h.record with hold | ⟨-, hrid, -⟩
  · exact hk _ _ hold
  · exact hrid

theorem runHostEvent_keyed (hk : r.Keyed) (now : Time) (rid : RolloutId) (event : Event) :
    (runHostEvent now r rid event).1.Keyed := by
  rcases runHostEvent_cases now r rid event with hdrop | ⟨s, policy, next, effects, h⟩
  · rw [hdrop]
    exact hk
  · rw [h.run]
    exact hk.insert ((hostStep_spec h.step).same.rolloutId.trans (h.rolloutId hk))

end Keyed

/-! ## One input -/

/-- An event that a tick synthesizes. -/
def Event.isVerdict : Event → Bool
  | .localSustainedFailureCrossed .. | .localConvergedReached .. => true
  | _ => false

/-- What the fail gate synthesizes, and for which records. -/
theorem failGate_eq_some {r : AgentReducer} {orders : AgentOrders} {now : Time}
    {s : HostRolloutState} {e : Event} (h : r.failGate orders now s = some e) :
    s.state = .soaking ∧ ∃ firstFailed, s.probeFailureFirstAt = some firstFailed ∧
      sustainedFailureThresholdSecs ≤ numSeconds (now - firstFailed) ∧
      collectFailingEnforceProbes orders s.probes ≠ [] ∧
      e = .localSustainedFailureCrossed now (numSeconds (now - firstFailed)).toNat
        (collectFailingEnforceProbes orders s.probes)
        (((r.resolvePolicy s.channel).map (·.onHealthFailure)).getD .halt) 0 := by
  unfold AgentReducer.failGate at h
  split at h
  · rename_i firstFailed hstate hfirst
    dsimp only at h
    split at h
    · cases h
    · rename_i hlong
      rw [not_or, not_lt, List.isEmpty_iff] at hlong
      exact ⟨hstate, firstFailed, hfirst, hlong.1, hlong.2, (Option.some.inj h).symm⟩
  · cases h

/-- What the pass gate synthesizes, and for which records. -/
theorem passGate_eq_some {now : Time} {s : HostRolloutState} {e : Event}
    (h : passGate now s = some e) :
    s.state = .soaking ∧ ∃ soakDue, s.soakDueAt = some soakDue ∧ soakDue ≤ now ∧
      s.currentClosure = some s.targetClosure ∧ allEnforceProbesPass s.probes = true ∧
      e = .localConvergedReached now s.targetClosure 0 := by
  unfold passGate at h
  split at h
  · rename_i soakDue current hstate hdue hcurrent
    split at h
    · cases h
    · rename_i hpass
      rw [not_or, not_or, not_lt, not_not, Bool.not_eq_false] at hpass
      obtain ⟨hle, rfl, hprobes⟩ := hpass
      exact ⟨hstate, soakDue, hdue, hle, hcurrent, hprobes, (Option.some.inj h).symm⟩
  · cases h

/-- A tick synthesizes what one of the gates does for a record. -/
theorem mem_advanceEvents {r : AgentReducer} {orders : AgentOrders} {now : Time}
    {rid : RolloutId} {e : Event} :
    (rid, e) ∈ r.advanceEvents orders now ↔ ∃ s, r.hostStates.lookup rid = some s ∧
      (r.failGate orders now s = some e ∨ passGate now s = some e) := by
  simp only [AgentReducer.advanceEvents, List.mem_append, List.mem_filterMap, mem_iterBy,
    Prod.exists, Table.mem_rows, Option.map_eq_some_iff, Prod.mk.injEq]
  constructor
  · rintro (⟨rid', s, hs, event, hgate, rfl, rfl⟩ | ⟨rid', s, hs, event, hgate, rfl, rfl⟩)
    · exact ⟨s, hs, .inl hgate⟩
    · exact ⟨s, hs, .inr hgate⟩
  · rintro ⟨s, hs, hgate | hgate⟩
    · exact .inl ⟨rid, s, hs, e, hgate, rfl, rfl⟩
    · exact .inr ⟨rid, s, hs, e, hgate, rfl, rfl⟩

theorem advanceEvents_isVerdict {r : AgentReducer} {orders : AgentOrders} {now : Time}
    {rid : RolloutId} {e : Event} (h : (rid, e) ∈ r.advanceEvents orders now) :
    e.isVerdict = true := by
  obtain ⟨s, -, hgate | hgate⟩ := mem_advanceEvents.mp h
  · obtain ⟨-, -, -, -, -, rfl⟩ := failGate_eq_some hgate
    rfl
  · obtain ⟨-, -, -, -, -, -, rfl⟩ := passGate_eq_some hgate
    rfl

section Rules

variable {P : AgentReducer × List Effect → Prop} {orders : AgentOrders} {now : Time}
  {r : AgentReducer}

/-- **Tick rule.** What every verdict preserves, a tick preserves. -/
theorem runAdvanceTick_induction (hstart : P (r, []))
    (hevent : ∀ acc rid e, e.isVerdict = true → P acc →
      P ((runHostEvent now acc.1 rid e).1, acc.2 ++ (runHostEvent now acc.1 rid e).2)) :
    P (runAdvanceTick orders now r) := by
  unfold runAdvanceTick
  refine List.foldlRecOn (motive := P) _ _ hstart ?_
  intro acc hacc e he
  exact hevent acc e.1 e.2 (advanceEvents_isVerdict he) hacc

/-- **Input rule.** What every event preserves, every input does, if its snapshot does. -/
theorem handleInput_induction {input : ReducerInput} (hstart : P (r, []))
    (hevent : ∀ acc rid e, P acc →
      P ((runHostEvent now acc.1 rid e).1, acc.2 ++ (runHostEvent now acc.1 rid e).2))
    (hset : ∀ set, P ({ r with manifests := some set }, []))
    (hsnapshot : ∀ snapshot, input = .bootstrapHost snapshot →
      P (applyBootstrapSnapshot r snapshot)) : P (handleInput orders now r input) := by
  cases input with
  | hostEvent rid e =>
      have h := hevent (r, []) rid e hstart
      rwa [List.nil_append] at h
  | agentAdvanceTick => exact runAdvanceTick_induction hstart fun acc rid e _ => hevent acc rid e
  | manifestSetUpdated set => exact hset set
  | bootstrapHost snapshot => exact hsnapshot snapshot rfl

end Rules

theorem handleInput_keyed {r : AgentReducer} (hk : r.Keyed) (orders : AgentOrders) (now : Time)
    (input : ReducerInput) : (handleInput orders now r input).1.Keyed := by
  refine handleInput_induction (P := fun acc => acc.1.Keyed) hk ?_ (fun _ => hk) ?_
  · exact fun acc rid e hacc => runHostEvent_keyed hacc now rid e
  · exact fun snapshot _ => hk.insert rfl

end Nixfleet
