import Nixfleet.Host.Mirror

set_option autoImplicit false

/-!
# The effect contract of the host machine

What a caller of `step` may rely on. One accepted event (`hostStep_contract`) raises the
sequence number to its own, records its transition iff the state changed, emits or appends one
payload under the same number, and stays on its side. Over a run (`run_discipline`) the switch
and the rollback are fired at most once each, to the closures of the dispatch and in this
order, and a record that has ended fires nothing.
-/

namespace Nixfleet

/-! ## Kinds of effects -/

/-- The transition that an effect records, if it records one. -/
@[simp] def Effect.transition? : Effect → Option (HostId × RolloutId × HostState × HostState)
  | .recordTransition host rid src dst _ => some (host, rid, src, dst)
  | _ => none

/-- The payload that an effect emits to the control plane, or appends to its log. -/
@[simp] def Effect.payload? : Effect → Option OutboundAgentEvent
  | .localEmitEvent _ payload _ => some payload
  | .remoteAppendEventLog _ _ payload => some payload
  | _ => none

/-- The switch of an effect, if it is one. -/
@[simp] def Effect.switch? : Effect → Option (RolloutId × ClosureHash)
  | .localFireSwitch rid target => some (rid, target)
  | _ => none

/-- The quarantine of an effect, if it is one. -/
@[simp] def Effect.quarantine? : Effect → Option (ChannelId × ClosureHash)
  | .remoteInsertQuarantine channel closure => some (channel, closure)
  | _ => none

/-- A `Local*` effect, which the agent executes. -/
@[simp] def Effect.isLocal : Effect → Bool
  | .localFireSwitch .. | .localFireRollbackTo .. | .localResetProbeCache .. | .localEmitEvent .. =>
      true
  | _ => false

/-- A `Remote*` effect, which the control plane executes. -/
@[simp] def Effect.isRemote : Effect → Bool
  | .remoteInsertQuarantine .. | .remoteAppendEventLog .. => true
  | _ => false

section Effects

variable (s : HostRolloutState)

@[simp] theorem transition?_rollbackEffects (policy : OnHealthFailure) :
    (s.rollbackEffects policy).filterMap Effect.transition? = [] := by
  unfold HostRolloutState.rollbackEffects
  split <;> rfl

@[simp] theorem payload?_rollbackEffects (policy : OnHealthFailure) :
    (s.rollbackEffects policy).filterMap Effect.payload? = [] := by
  unfold HostRolloutState.rollbackEffects
  split <;> rfl

@[simp] theorem switch?_rollbackEffects (policy : OnHealthFailure) :
    (s.rollbackEffects policy).filterMap Effect.switch? = [] := by
  unfold HostRolloutState.rollbackEffects
  split <;> rfl

@[simp] theorem quarantine?_rollbackEffects (policy : OnHealthFailure) :
    (s.rollbackEffects policy).filterMap Effect.quarantine? = [] := by
  unfold HostRolloutState.rollbackEffects
  split <;> rfl

theorem isRemote_of_mem_rollbackEffects {policy : OnHealthFailure} {effect : Effect}
    (h : effect ∈ s.rollbackEffects policy) : effect.isRemote = false := by
  unfold HostRolloutState.rollbackEffects at h
  split at h
  · rw [List.mem_singleton.mp h]
    rfl
  · cases h

end Effects

/-! ## One event -/

/-- The closure that the acknowledgement of a dispatch stamps. -/
@[simp] def Event.stamp? : Event → Option ClosureHash
  | .localActivate prior _ _ _ _ => some prior
  | .remoteDispatchAck prior _ _ => some prior
  | _ => none

/-- What an accepted event asks for. -/
structure EffectSpec (s next : HostRolloutState) (e : Event) (effects : List Effect) : Prop where
  /-- One transition if the state changed, from the old state to the new one. -/
  transition : effects.filterMap Effect.transition? =
    if next.state = s.state then [] else [(s.hostname, s.rolloutId, s.state, next.state)]
  /-- One payload, the event's own. -/
  payload : effects.filterMap Effect.payload? = (e.payload?.or e.logged?).toList
  /-- The switch of a dispatch that the agent acknowledges, and no other. -/
  switch : effects.filterMap Effect.switch? =
    if e.isLocal ∧ e.stamp?.isSome then [(s.rolloutId, s.targetClosure)] else []
  /-- The quarantine of the closure that was rolled back, and no other. -/
  quarantine : effects.filterMap Effect.quarantine? =
    if e.isLocal = false ∧ s.state = .failed then [(s.channel, s.targetClosure)] else []
  localSide : e.isLocal = true → ∀ effect ∈ effects, effect.isRemote = false
  remoteSide : e.isLocal = false → ∀ effect ∈ effects, effect.isLocal = false

section Handlers

variable {s next : HostRolloutState} {e : Event} {p : RolloutPolicy} {effects : List Effect}

theorem pendingHandle_effects (hs : s.state = .pending)
    (h : pendingHandle s e p = .ok (next, effects)) : EffectSpec s next e effects := by
  cases e with
  | localActivate | remoteDispatchAck =>
      simp only [pendingHandle, HostRolloutState.emitEvent, HostRolloutState.appendEventLog,
        HostRolloutState.recordTransition, Except.ok.injEq, Prod.mk.injEq] at h
      obtain ⟨rfl, rfl⟩ := h
      constructor <;> simp [hs, List.filterMap_cons, Event.payload?, Event.logged?, Event.isLocal,
        HostRolloutState.activate]
  | _ => simp [pendingHandle] at h

theorem activatingHandle_effects (hs : s.state = .activating)
    (h : activatingHandle s e p = .ok (next, effects)) : EffectSpec s next e effects := by
  cases e with
  | localActivationStarted | remoteActivationStarted | localActivationCompleted
  | remoteActivationCompleted | localActivationDeferred | remoteActivationDeferred
  | remoteActivationFailed =>
      simp only [activatingHandle, HostRolloutState.emitEvent, HostRolloutState.appendEventLog,
        HostRolloutState.recordTransition, Except.ok.injEq, Prod.mk.injEq] at h
      obtain ⟨rfl, rfl⟩ := h
      constructor <;> simp [hs, List.filterMap_cons, Event.payload?, Event.logged?, Event.isLocal,
        HostRolloutState.complete]
  | localActivationFailed =>
      simp only [activatingHandle, HostRolloutState.emitEvent, HostRolloutState.recordTransition,
        Except.ok.injEq, Prod.mk.injEq] at h
      obtain ⟨rfl, rfl⟩ := h
      constructor <;> simp [hs, List.filterMap_cons, Event.payload?, Event.logged?, Event.isLocal]
      exact fun effect hmem => isRemote_of_mem_rollbackEffects s hmem
  | _ => simp [activatingHandle] at h

theorem deferredHandle_effects (hs : s.state = .deferred)
    (h : deferredHandle s e p = .ok (next, effects)) : EffectSpec s next e effects := by
  cases e with
  | localActivationCompleted | remoteActivationCompleted | localActivationFailed
  | remoteActivationFailed =>
      simp only [deferredHandle, HostRolloutState.emitEvent, HostRolloutState.appendEventLog,
        HostRolloutState.recordTransition, Except.ok.injEq, Prod.mk.injEq] at h
      obtain ⟨rfl, rfl⟩ := h
      constructor <;> simp [hs, List.filterMap_cons, Event.payload?, Event.logged?, Event.isLocal,
        HostRolloutState.complete]
  | _ => simp [deferredHandle] at h

theorem soakingHandle_effects (hs : s.state = .soaking)
    (h : soakingHandle s e p = .ok (next, effects)) : EffectSpec s next e effects := by
  cases e with
  | localProbeTopologyDeclared | remoteProbeTopologyDeclared | localProbeObservedFirst
  | remoteProbeObservedFirst | localProbeResult | remoteProbeResult | localProbeFailureFirst
  | remoteProbeFailureFirst | remoteFailed =>
      simp only [soakingHandle, HostRolloutState.emitEvent, HostRolloutState.appendEventLog,
        HostRolloutState.recordTransition, Except.ok.injEq, Prod.mk.injEq] at h
      obtain ⟨rfl, rfl⟩ := h
      constructor <;> simp [hs, List.filterMap_cons, Event.payload?, Event.logged?, Event.isLocal]
  | localSustainedFailureCrossed =>
      simp only [soakingHandle, HostRolloutState.emitEvent, HostRolloutState.recordTransition,
        Except.ok.injEq, Prod.mk.injEq] at h
      obtain ⟨rfl, rfl⟩ := h
      constructor <;> simp [hs, List.filterMap_cons, Event.payload?, Event.logged?, Event.isLocal]
      exact fun effect hmem => isRemote_of_mem_rollbackEffects s hmem
  | localConvergedReached t c n | remoteConverged t c n =>
      simp only [soakingHandle, Except.bind_eq_ok, HostRolloutState.emitEvent,
        HostRolloutState.appendEventLog, HostRolloutState.recordTransition, Except.ok.injEq,
        Prod.mk.injEq] at h
      obtain ⟨_, -, rfl, rfl⟩ := h
      constructor <;> simp [hs, List.filterMap_cons, Event.payload?, Event.logged?, Event.isLocal]
  | _ => simp [soakingHandle] at h

theorem failedHandle_effects (hs : s.state = .failed)
    (h : failedHandle s e p = .ok (next, effects)) : EffectSpec s next e effects := by
  cases e with
  | localRollbackCompleted | remoteRollbackComplete =>
      simp only [failedHandle, HostRolloutState.emitEvent, HostRolloutState.appendEventLog,
        HostRolloutState.recordTransition, Except.ok.injEq, Prod.mk.injEq] at h
      obtain ⟨rfl, rfl⟩ := h
      constructor <;> simp [hs, List.filterMap_cons, Event.payload?, Event.logged?, Event.isLocal,
        HostRolloutState.revert]
  | _ => simp [failedHandle] at h

/-- **What an accepted event asks for.** -/
theorem hostStep_effects (h : hostStep s e p = .ok (next, effects)) :
    EffectSpec s next e effects := by
  unfold hostStep at h
  split at h
  · cases h
  · cases hs : s.state with
    | pending => exact pendingHandle_effects hs (by simpa only [hs] using h)
    | activating => exact activatingHandle_effects hs (by simpa only [hs] using h)
    | deferred => exact deferredHandle_effects hs (by simpa only [hs] using h)
    | soaking => exact soakingHandle_effects hs (by simpa only [hs] using h)
    | failed => exact failedHandle_effects hs (by simpa only [hs] using h)
    | converged | reverted => simp [hs] at h

end Handlers

/-- The contract of `step`, for an event that it accepts. -/
structure EffectContract (s next : HostRolloutState) (e : Event) (effects : List Effect) :
    Prop where
  seq : next.lastEventSeq = e.seq
  raised : s.lastEventSeq < next.lastEventSeq
  transition : effects.filterMap Effect.transition? =
    if next.state = s.state then [] else [(s.hostname, s.rolloutId, s.state, next.state)]
  payload : ∃ payload, effects.filterMap Effect.payload? = [payload] ∧ payload.seq = e.seq
  localSide : e.isLocal = true → ∀ effect ∈ effects, effect.isRemote = false
  remoteSide : e.isLocal = false → ∀ effect ∈ effects, effect.isLocal = false
  same : SameDispatch s next

/-- Every event has a payload of its own number. -/
theorem exists_payload (e : Event) :
    ∃ payload, (e.payload?.or e.logged?).toList = [payload] ∧ payload.seq = e.seq := by
  cases he : e.payload? with
  | some payload =>
      exact ⟨payload, rfl, seq_payload he⟩
  | none =>
      have hremote : e.isLocal = false := by
        rw [← payload?_isSome, he]
        rfl
      obtain ⟨payload, hp⟩ := exists_logged hremote
      exact ⟨payload, by simp [hp], seq_logged hp⟩

/-- **The effect contract.** -/
theorem hostStep_contract {s next : HostRolloutState} {e : Event} {p : RolloutPolicy}
    {effects : List Effect} (h : hostStep s e p = .ok (next, effects)) :
    EffectContract s next e effects := by
  have hspec := hostStep_spec h
  have heffects := hostStep_effects h
  have hlt : s.lastEventSeq < e.seq := hostStep_seq_lt h
  refine ⟨hspec.seq, ?_, heffects.transition, ?_, heffects.localSide, heffects.remoteSide,
    hspec.same⟩
  · rw [hspec.seq]
    exact hlt
  · rw [heffects.payload]
    exact exists_payload e

/-- The contract at a failed activation under `rollback-and-halt`. -/
theorem activationFailed_contract :
    let s := hostMachine.run freshRecord
      (underPolicy (plainPolicy .rollbackAndHalt) [.localActivate "old" "new" 1 5 1])
    ∃ next effects, EffectContract s next (.localActivationFailed 1 "" 3 2) effects ∧
      effects.length = 3 := by
  intro s
  refine ⟨_, _, hostStep_contract (p := plainPolicy .rollbackAndHalt) rfl, rfl⟩

/-! ## Whole runs -/

section Steps

variable {s next : HostRolloutState} {e : Event} {p : RolloutPolicy} {effects : List Effect}

/-- The acknowledgement is the one event out of `Pending`, and stamps the closure for good. -/
theorem hostStep_stamp (h : hostStep s e p = .ok (next, effects)) :
    (s.state = .pending → ∃ prior, e.stamp? = some prior ∧
      next.currentClosureAtDispatch = some prior) ∧
    (s.state ≠ .pending → e.stamp? = none ∧
      next.currentClosureAtDispatch = s.currentClosureAtDispatch) := by
  have hafter := hostStep_after h
  constructor
  · intro hs
    unfold hostStep at h
    split at h
    · cases h
    · simp only [hs] at h
      cases e <;> simp only [pendingHandle, reduceCtorEq, Except.ok.injEq, Prod.mk.injEq] at h
      all_goals
        obtain ⟨rfl, -⟩ := h
        exact ⟨_, rfl, rfl⟩
  · intro hs
    refine ⟨?_, (hostStep_spec h).closure.resolve_right hs⟩
    cases hstate : s.state with
    | pending => exact absurd hstate hs
    | _ =>
        rw [hstate] at hafter
        cases e <;> first | rfl | cases hafter

/-- A failure that the agent sees leads to `Failed`, from a state that has been dispatched. -/
theorem after_failurePolicy? {src dst : HostState} {policy : OnHealthFailure}
    (he : e.failurePolicy? p = some policy) (hafter : HostState.after src e = some dst) :
    dst = .failed ∧ src ≠ .pending ∧ src ≠ .failed := by
  unfold HostState.after at hafter
  split at hafter <;> cases hafter
  all_goals first
    | exact ⟨rfl, by decide, by decide⟩
    | cases he

/-- A rollback is fired on the way to `Failed`, to the stamped closure. -/
theorem hostStep_fires (h : hostStep s e p = .ok (next, effects)) :
    effects.filterMap Effect.rollback? = [] ∨
      ∃ prior, effects.filterMap Effect.rollback? = [(s.rolloutId, prior)] ∧
        s.currentClosureAtDispatch = some prior ∧ s.state ≠ .pending ∧ s.state ≠ .failed ∧
        next.state = .failed ∧ e.stamp? = none := by
  rw [hostStep_rollbacks h]
  by_cases hs : s.state = .deferred
  · exact .inl (if_pos hs)
  · rw [if_neg hs]
    cases he : e.failurePolicy? p with
    | none => exact .inl rfl
    | some policy =>
        simp only [Option.map_some, Option.getD_some, HostRolloutState.rollbackOf]
        split
        · cases hprior : s.currentClosureAtDispatch with
          | none => exact .inl rfl
          | some prior =>
              have hafter := hostStep_after h
              have hfailed : next.state = .failed ∧ s.state ≠ .pending ∧ s.state ≠ .failed :=
                after_failurePolicy? he (hostStep_after h)
              refine .inr ⟨prior, rfl, rfl, hfailed.2.1, hfailed.2.2, hfailed.1, ?_⟩
              exact ((hostStep_stamp h).2 hfailed.2.1).1
        · exact .inl rfl

end Steps

/-- The effects of a run, in the order in which they are asked for. -/
def effectsOf (out : List AcceptedEvent) : List Effect := out.flatMap AcceptedEvent.effects

/-- The closures that the acknowledgements of a run stamp. -/
def stampsOf (out : List AcceptedEvent) : List ClosureHash := out.filterMap (·.event.stamp?)

def switchesOf (out : List AcceptedEvent) : List (RolloutId × ClosureHash) :=
  (effectsOf out).filterMap Effect.switch?

def rollbacksOf (out : List AcceptedEvent) : List (RolloutId × ClosureHash) :=
  (effectsOf out).filterMap Effect.rollback?

/-- Switch and rollback, after a run that leaves the record `s`. -/
structure Disciplined (rid : RolloutId) (target : ClosureHash) (s : HostRolloutState)
    (out : List AcceptedEvent) : Prop where
  /-- At most one switch, to the target closure. -/
  switch : switchesOf out = [] ∨ switchesOf out = [(rid, target)]
  /-- At most one rollback, to the closure that the acknowledgement stamped. -/
  rollback : rollbacksOf out = [] ∨ ∃ prior, rollbacksOf out = [(rid, prior)] ∧
    stampsOf out = [prior] ∧ s.currentClosureAtDispatch = some prior
  /-- No switch comes after a rollback. -/
  order : (effectsOf out).Pairwise fun a b => a.rollback?.isSome → b.switch? = none

/-- What a run from `new_pending` keeps: the acknowledgement is still to come, or has stamped the
closure once, and the rollback is still unspent before `Failed`. -/
structure DispatchHistory (rid : RolloutId) (target : ClosureHash) (s : HostRolloutState)
    (out : List AcceptedEvent) : Prop where
  id : s.rolloutId = rid
  closure : s.targetClosure = target
  pending : s.state = .pending → stampsOf out = [] ∧ switchesOf out = []
  stamped : s.state ≠ .pending → ∃ prior, stampsOf out = [prior] ∧
    s.currentClosureAtDispatch = some prior
  unspent : s.state ≠ .failed → s.state ≠ .reverted → rollbacksOf out = []
  disciplined : Disciplined rid target s out

section Moves

variable {src dst : HostState}

theorem HostMove.from_pending (h : HostMove .pending dst) : dst = .activating := by
  cases h
  rfl

theorem HostMove.from_failed (h : HostMove .failed dst) : dst = .reverted := by
  cases h
  rfl

/-- An ended record stays. -/
theorem HostMove.ne_converged (h : HostMove src dst) : src ≠ .converged := by
  cases h <;> decide

theorem HostMove.ne_reverted (h : HostMove src dst) : src ≠ .reverted := by
  cases h <;> decide

end Moves

section Append

variable (out : List AcceptedEvent) (a : AcceptedEvent)

theorem effectsOf_append : effectsOf (out ++ [a]) = effectsOf out ++ a.effects := by
  simp [effectsOf]

theorem stampsOf_append : stampsOf (out ++ [a]) = stampsOf out ++ a.event.stamp?.toList := by
  rw [stampsOf, List.filterMap_append]
  rw [List.filterMap_cons]
  cases a.event.stamp? <;> rfl

theorem switchesOf_append :
    switchesOf (out ++ [a]) = switchesOf out ++ a.effects.filterMap Effect.switch? := by
  rw [switchesOf, effectsOf_append, List.filterMap_append]
  rfl

theorem rollbacksOf_append :
    rollbacksOf (out ++ [a]) = rollbacksOf out ++ a.effects.filterMap Effect.rollback? := by
  rw [rollbacksOf, effectsOf_append, List.filterMap_append]
  rfl

end Append

/-- No switch follows a rollback in two parts, of which the first has no rollback or the second
no switch. -/
theorem pairwise_append_of_none {l₁ l₂ : List Effect}
    (h₁ : l₁.Pairwise fun a b => a.rollback?.isSome → b.switch? = none)
    (h₂ : l₂.Pairwise fun a b => a.rollback?.isSome → b.switch? = none)
    (h : l₁.filterMap Effect.rollback? = [] ∨ l₂.filterMap Effect.switch? = []) :
    (l₁ ++ l₂).Pairwise fun a b => a.rollback?.isSome → b.switch? = none := by
  refine List.pairwise_append.mpr ⟨h₁, h₂, ?_⟩
  intro a ha b hb hrollback
  rcases h with hnone | hnone
  · rw [List.filterMap_eq_nil_iff.mp hnone a ha] at hrollback
    cases hrollback
  · exact List.filterMap_eq_nil_iff.mp hnone b hb

theorem pairwise_of_none {l : List Effect}
    (h : l.filterMap Effect.rollback? = [] ∨ l.filterMap Effect.switch? = []) :
    l.Pairwise fun a b => a.rollback?.isSome → b.switch? = none := by
  induction l with
  | nil => exact .nil
  | cons a l ih =>
      have hsplit : [a].filterMap Effect.rollback? = [] ∧ l.filterMap Effect.rollback? = [] ∨
          [a].filterMap Effect.switch? = [] ∧ l.filterMap Effect.switch? = [] := by
        simp only [← List.append_eq_nil_iff, ← List.filterMap_append]
        exact h
      show ([a] ++ l).Pairwise _
      rcases hsplit with ⟨ha, hl⟩ | ⟨ha, hl⟩
      · exact pairwise_append_of_none (List.pairwise_singleton _ _) (ih (.inl hl)) (.inl ha)
      · exact pairwise_append_of_none (List.pairwise_singleton _ _) (ih (.inr hl)) (.inr hl)

section History

variable {rid : RolloutId} {target : ClosureHash} {s next : HostRolloutState} {e : Event}
  {p : RolloutPolicy} {effects : List Effect} {out : List AcceptedEvent}

/-- The acknowledgement stamps the closure, and on the agent fires the switch. -/
theorem DispatchHistory.ack (hist : DispatchHistory rid target s out) (hs : s.state = .pending)
    (h : hostStep s e p = .ok (next, effects)) :
    DispatchHistory rid target next (out ++ [⟨e, effects⟩]) := by
  have hspec := hostStep_spec h
  have hnext : next.state = .activating := (hs ▸ hspec.move).from_pending
  obtain ⟨prior, hstamp, hclosure⟩ := (hostStep_stamp h).1 hs
  obtain ⟨hnostamp, hnoswitch⟩ := hist.pending hs
  have hunspent : rollbacksOf out = [] :=
    hist.unspent (by rw [hs]; decide) (by rw [hs]; decide)
  have hfires : effects.filterMap Effect.rollback? = [] := by
    rcases hostStep_fires h with hnone | ⟨_, _, _, hne, _⟩
    · exact hnone
    · exact absurd hs hne
  have hstamps : stampsOf (out ++ [⟨e, effects⟩]) = [prior] := by
    rw [stampsOf_append, hnostamp, hstamp]
    rfl
  have hrollbacks : rollbacksOf (out ++ [⟨e, effects⟩]) = [] := by
    rw [rollbacksOf_append, hunspent, hfires]
    rfl
  refine ⟨hspec.same.rolloutId.trans hist.id, hspec.same.targetClosure.trans hist.closure, ?_,
    fun _ => ⟨prior, hstamps, hclosure⟩, fun _ _ => hrollbacks, ?_, .inl hrollbacks, ?_⟩
  · intro hpending
    rw [hnext] at hpending
    cases hpending
  · rw [switchesOf_append, hnoswitch, (hostStep_effects h).switch, hist.id, hist.closure]
    split
    · exact .inr rfl
    · exact .inl rfl
  · rw [effectsOf_append]
    exact pairwise_append_of_none hist.disciplined.order (pairwise_of_none (.inl hfires))
      (.inl hunspent)

/-- After the acknowledgement nothing is switched, and a rollback takes the stamped closure. -/
theorem DispatchHistory.later (hist : DispatchHistory rid target s out) (hs : s.state ≠ .pending)
    (h : hostStep s e p = .ok (next, effects)) :
    DispatchHistory rid target next (out ++ [⟨e, effects⟩]) := by
  have hspec := hostStep_spec h
  have hnext : next.state ≠ .pending := hspec.move.ne_pending
  obtain ⟨hnostamp, hkept⟩ := (hostStep_stamp h).2 hs
  obtain ⟨prior, hstamps, hclosure⟩ := hist.stamped hs
  have hnoswitch : effects.filterMap Effect.switch? = [] := by
    rw [(hostStep_effects h).switch, hnostamp]
    exact if_neg (by simp)
  have hstamps' : stampsOf (out ++ [⟨e, effects⟩]) = [prior] := by
    rw [stampsOf_append, hstamps, hnostamp]
    rfl
  have hclosure' : next.currentClosureAtDispatch = some prior := hkept.trans hclosure
  -- the rollback is unspent where one is fired
  have hrollbacks : effects.filterMap Effect.rollback? = [] ∨
      rollbacksOf (out ++ [⟨e, effects⟩]) = [(rid, prior)] ∧ next.state = .failed := by
    rcases hostStep_fires h with hnone | ⟨prior', hfires, hprior, -, hfailed, hto, -⟩
    · exact .inl hnone
    · have heq : prior' = prior := by
        rw [hprior] at hclosure
        exact Option.some.inj hclosure
      refine .inr ⟨?_, hto⟩
      rw [rollbacksOf_append, hist.unspent hfailed hspec.move.ne_reverted, hfires, hist.id, heq]
      rfl
  refine ⟨hspec.same.rolloutId.trans hist.id, hspec.same.targetClosure.trans hist.closure,
    fun hpending => absurd hpending hnext, fun _ => ⟨prior, hstamps', hclosure'⟩, ?_, ?_, ?_, ?_⟩
  · intro hfailed hreverted
    rcases hrollbacks with hnone | ⟨-, hto⟩
    · rw [rollbacksOf_append, hnone, List.append_nil]
      refine hist.unspent ?_ hspec.move.ne_reverted
      intro hs'
      exact hreverted (hs' ▸ hspec.move).from_failed
    · exact absurd hto hfailed
  · rw [switchesOf_append, hnoswitch, List.append_nil]
    exact hist.disciplined.switch
  · rcases hrollbacks with hnone | ⟨hfired, -⟩
    · rw [rollbacksOf_append, hnone, List.append_nil]
      rcases hist.disciplined.rollback with hnone' | ⟨prior', hfired, hprior', hclosure''⟩
      · exact .inl hnone'
      · refine .inr ⟨prior', hfired, ?_, hkept.trans hclosure''⟩
        rw [hstamps', ← hstamps, hprior']
    · exact .inr ⟨prior, hfired, hstamps', hclosure'⟩
  · rw [effectsOf_append]
    exact pairwise_append_of_none hist.disciplined.order (pairwise_of_none (.inr hnoswitch))
      (.inr hnoswitch)

end History

/-- An ended record accepts nothing. -/
theorem trace_of_ended {s : HostRolloutState} (h : s.state = .converged ∨ s.state = .reverted)
    (is : List HostInput) : hostMachine.trace s is = [] := by
  induction is with
  | nil => rfl
  | cons i is ih =>
      have hstep : hostMachine.step s i = (s, []) := by
        cases hi : hostStep s i.event i.policy with
        | error err => exact hostRunStep_of_error hi
        | ok result =>
            have hspec : HostStepSpec s result.1 i.event := hostStep_spec hi
            rcases h with h | h
            · exact absurd h hspec.move.ne_converged
            · exact absurd h hspec.move.ne_reverted
      rw [Machine.trace_cons, hstep]
      exact ih

section Runs

variable (rid : RolloutId) (host : HostId) (channel : ChannelId) (target : ClosureHash)
  (dispatchedAt soakDueAt : Time)

/-- **Switch and rollback.** Every run from `new_pending` fires at most one switch, to the target
closure, and at most one rollback, to the closure of the acknowledgement and not before the
switch. After `Converged` or `Reverted` it fires neither. -/
theorem run_discipline (is : List HostInput) :
    let start : HostRolloutState :=
      .newPending rid host channel target dispatchedAt soakDueAt
    Disciplined rid target (hostMachine.run start is) (hostMachine.trace start is) ∧
      ((hostMachine.run start is).state = .converged ∨
          (hostMachine.run start is).state = .reverted →
        ∀ js, ∀ effect ∈ effectsOf (hostMachine.trace (hostMachine.run start is) js),
          effect.switch? = none ∧ effect.rollback? = none) := by
  intro start
  have hstart : DispatchHistory rid target start [] :=
    ⟨rfl, rfl, fun _ => ⟨rfl, rfl⟩, fun h => absurd rfl h, fun _ _ => rfl,
      ⟨.inl rfl, .inl rfl, .nil⟩⟩
  have hist : DispatchHistory rid target (hostMachine.run start is)
      ([] ++ hostMachine.trace start is) := by
    have hmeets : hostMachine.Meets (fun _ _ => True) start is :=
      hostMachine.meets_of_forall (fun _ _ => trivial) start
    refine hostMachine.history_invariant ?_ hstart hmeets
    intro s i out hist _
    show DispatchHistory rid target (hostRunStep s i).1 (out ++ (hostRunStep s i).2)
    cases h : hostStep s i.event i.policy with
    | error err =>
        rw [hostRunStep_of_error h, List.append_nil]
        exact hist
    | ok result =>
        have hstep : hostRunStep s i = (result.1, [⟨i.event, result.2⟩]) := hostRunStep_of_ok h
        rw [hstep]
        by_cases hs : s.state = .pending
        · exact hist.ack hs h
        · exact hist.later hs h
  refine ⟨hist.disciplined, ?_⟩
  intro hended js effect hmem
  rw [trace_of_ended hended js] at hmem
  cases hmem

end Runs

end Nixfleet
