import Nixfleet.Host.Mirror

set_option autoImplicit false

/-!
# Replaying what an agent has emitted

The events of a record decide it up to what its keeper adds: the names it is kept under, the time
of its dispatch and the policy in force (`hostStep_progress`). So the payloads that a record has
emitted lead every record that starts with the same progress to the same progress
(`Replayable.follow`).
-/

namespace Nixfleet

/-! ## Progress -/

/-- A record less what its keeper adds to it. -/
def HostRolloutState.progress (s : HostRolloutState) : HostRolloutState :=
  { s with hostname := "", channel := "", dispatchedAt := 0, policyApplied := none }

section Progress

variable {s c next : HostRolloutState} {e : Event} {p : RolloutPolicy} {effects : List Effect}

theorem lastEventSeq_of_progress (h : s.progress = c.progress) :
    s.lastEventSeq = c.lastEventSeq := by
  have hprogress := congrArg HostRolloutState.lastEventSeq h
  exact hprogress

/-- A record with the same progress differs in what its keeper adds only. -/
theorem eq_of_progress (h : s.progress = c.progress) :
    c = { s with hostname := c.hostname, channel := c.channel, dispatchedAt := c.dispatchedAt,
                 policyApplied := c.policyApplied } := by
  cases s
  cases c
  simp only [HostRolloutState.progress, HostRolloutState.mk.injEq] at h
  simp [h]

/-- The move that an effect records, with its time. -/
def Effect.move? : Effect → Option (HostState × HostState × Time)
  | .recordTransition _ _ src dst at' => some (src, dst, at')
  | _ => none

@[simp] theorem move?_emitEvent (s : HostRolloutState) (payload : OutboundAgentEvent)
    (durable : Bool) : (s.emitEvent payload durable).move? = none := rfl

@[simp] theorem move?_appendEventLog (s : HostRolloutState) (payload : OutboundAgentEvent) :
    (s.appendEventLog payload).move? = none := rfl

@[simp] theorem move?_recordTransition (s : HostRolloutState) (dst : HostState) (at' : Time) :
    (s.recordTransition dst at').move? = some (s.state, dst, at') := rfl

@[simp] theorem move?_remoteInsertQuarantine (channel : ChannelId) (closure : ClosureHash) :
    (Effect.remoteInsertQuarantine channel closure).move? = none := rfl

@[simp] theorem move?_rollbackEffects (s : HostRolloutState) (policy : OnHealthFailure) :
    (s.rollbackEffects policy).filterMap Effect.move? = [] := by
  unfold HostRolloutState.rollbackEffects
  split <;> rfl

/-- The keeper of a record has no say in what an event does to its progress. -/
theorem hostStep_kept (host : HostId) (channel : ChannelId) (dispatchedAt : Time)
    (policyApplied : Option OnHealthFailure) (p' : RolloutPolicy)
    (h : hostStep s e p = .ok (next, effects)) :
    ∃ next' effects',
      hostStep { s with hostname := host, channel := channel, dispatchedAt := dispatchedAt,
                        policyApplied := policyApplied } e p' = .ok (next', effects') ∧
        next'.progress = next.progress ∧
        effects'.filterMap Effect.move? = effects.filterMap Effect.move? := by
  unfold hostStep at h ⊢
  split at h
  · cases h
  · rename_i hseq
    rw [if_neg hseq]
    cases e with
    | localConvergedReached t c n | remoteConverged t c n =>
        cases hs : s.state <;>
          simp only [hs, pendingHandle, activatingHandle, deferredHandle, soakingHandle,
            failedHandle, reduceCtorEq, Except.bind_eq_ok, Except.ok.injEq, Prod.mk.injEq] at h ⊢
        obtain ⟨u, hverified, rfl, rfl⟩ := h
        exact ⟨_, _, ⟨u, hverified, rfl, rfl⟩, rfl, by simp [List.filterMap_cons, hs]⟩
    | _ =>
        cases hs : s.state <;>
          simp only [hs, pendingHandle, activatingHandle, deferredHandle, soakingHandle,
            failedHandle, reduceCtorEq, Except.ok.injEq, Prod.mk.injEq] at h ⊢
        all_goals
          obtain ⟨rfl, rfl⟩ := h
          refine ⟨_, _, ⟨rfl, rfl⟩, rfl, ?_⟩
          simp [List.filterMap_cons, hs]

/-- **Progress follows the events.** -/
theorem hostStep_progress (hsame : s.progress = c.progress) (p' : RolloutPolicy)
    (h : hostStep s e p = .ok (next, effects)) :
    ∃ next' effects', hostStep c e p' = .ok (next', effects') ∧
      next'.progress = next.progress ∧
      effects'.filterMap Effect.move? = effects.filterMap Effect.move? := by
  rw [eq_of_progress hsame]
  exact hostStep_kept _ _ _ _ p' h

end Progress

/-! ## Replay -/

/-- A policy to replay under; the progress does not depend on it. -/
def replayPolicy : RolloutPolicy := ⟨"", [], .halt⟩

/-- The inputs that the payloads arrive as. -/
def replayInputs (payloads : List OutboundAgentEvent) : List HostInput :=
  underPolicy replayPolicy (payloads.map (·.remote))

/-- The record to which the payloads lead. -/
def replayed (base : HostRolloutState) (payloads : List OutboundAgentEvent) :
    HostRolloutState :=
  hostMachine.run base (replayInputs payloads)

/-- The moves of a replay. -/
def replayedMoves (base : HostRolloutState) (payloads : List OutboundAgentEvent) :
    List (HostState × HostState × Time) :=
  (hostMachine.trace base (replayInputs payloads)).flatMap fun accepted =>
    accepted.effects.filterMap Effect.move?

/-- The payloads are accepted one after the other, make these moves and lead to the record's
progress. -/
structure Replays (base : HostRolloutState) (payloads : List OutboundAgentEvent)
    (moves : List (HostState × HostState × Time)) (s : HostRolloutState) : Prop where
  accepted : AcceptsAll base (replayInputs payloads)
  moves : replayedMoves base payloads = moves
  progress : (replayed base payloads).progress = s.progress

/-- The payloads are numbered from 1 and accepted one after the other. -/
structure Replayable (base : HostRolloutState) (payloads : List OutboundAgentEvent) : Prop where
  fresh : base.lastEventSeq = 0
  numbered : ∀ k payload, payloads[k]? = some payload → payload.seq = k + 1
  accepted : AcceptsAll base (replayInputs payloads)

section Replay

variable {base s c next : HostRolloutState} {payloads : List OutboundAgentEvent}
  {payload : OutboundAgentEvent} {n : Nat}

@[simp] theorem replayed_nil (base : HostRolloutState) : replayed base [] = base := rfl

@[simp] theorem seq_remote_payload (payload : OutboundAgentEvent) :
    payload.remote.seq = payload.seq := by
  cases payload <;> rfl

theorem replayInputs_append (l l' : List OutboundAgentEvent) :
    replayInputs (l ++ l') = replayInputs l ++ replayInputs l' := by
  simp [replayInputs, underPolicy]

theorem replayed_concat (base : HostRolloutState) (payloads : List OutboundAgentEvent)
    (payload : OutboundAgentEvent) :
    replayed base (payloads ++ [payload]) =
      (hostRunStep (replayed base payloads) ⟨payload.remote, replayPolicy⟩).1 := by
  rw [replayed, replayInputs_append, hostMachine.run_append]
  rfl

theorem Replayable.nil (h : base.lastEventSeq = 0) : Replayable base [] := ⟨h, nofun, trivial⟩

theorem Replayable.of_append {rest : List OutboundAgentEvent}
    (h : Replayable base (payloads ++ rest)) : Replayable base payloads := by
  refine ⟨h.fresh, fun k payload hk => h.numbered k payload ?_, ?_⟩
  · rw [List.getElem?_append_left (List.getElem?_eq_some_iff.mp hk).1]
    exact hk
  · have haccepted := h.accepted
    rw [replayInputs_append] at haccepted
    exact haccepted.of_append

theorem Replayable.take (h : Replayable base payloads) (n : Nat) :
    Replayable base (payloads.take n) := by
  have hsplit : Replayable base (payloads.take n ++ payloads.drop n) := by
    rwa [List.take_append_drop]
  exact hsplit.of_append

/-- Each payload is accepted after the ones before it. -/
theorem Replayable.step (h : Replayable base payloads) (hn : payloads[n]? = some payload) :
    ∃ effects, hostStep (replayed base (payloads.take n)) payload.remote replayPolicy =
      .ok (replayed base (payloads.take (n + 1)), effects) := by
  obtain ⟨hlt, hget⟩ := List.getElem?_eq_some_iff.mp hn
  have hsplit : payloads.take (n + 1) = payloads.take n ++ [payload] := by
    rw [List.take_succ_eq_append_getElem hlt, hget]
  have htake := (h.take (n + 1)).accepted
  rw [hsplit, replayInputs_append] at htake
  obtain ⟨out, hout⟩ := ((hostMachine.meets_append _ _ _ _).mp htake).2.1
  refine ⟨out.2, ?_⟩
  rw [hsplit, replayed_concat]
  have hrun : hostRunStep (replayed base (payloads.take n)) ⟨payload.remote, replayPolicy⟩ =
      (out.1, [⟨payload.remote, out.2⟩]) := hostRunStep_of_ok hout
  rw [hrun]
  exact hout

/-- The number of a replay is that of its last payload. -/
theorem Replayable.lastEventSeq (h : Replayable base payloads) :
    (replayed base payloads).lastEventSeq = payloads.length := by
  induction payloads using List.reverseRecOn with
  | nil => exact h.fresh
  | append_singleton l payload ih =>
      have hget : (l ++ [payload])[l.length]? = some payload := List.getElem?_concat_length
      obtain ⟨effects, hstep⟩ := h.step hget
      rw [List.take_left, List.take_of_length_le (by simp)] at hstep
      rw [(hostStep_spec hstep).seq, seq_remote_payload, h.numbered _ _ hget]
      simp

/-- **The replay follows the record.** What the record's next event emits is accepted next, and
leads to the record's new progress. -/
theorem Replayable.concat {e : Event} {p : RolloutPolicy} {effects : List Effect}
    (h : Replayable base payloads) (hsame : s.progress = (replayed base payloads).progress)
    (hstep : hostStep s e p = .ok (next, effects)) (he : e.payload? = some payload)
    (hseq : payload.seq = payloads.length + 1) :
    Replayable base (payloads ++ [payload]) ∧
      next.progress = (replayed base (payloads ++ [payload])).progress := by
  obtain ⟨mirrored, hmirror⟩ := hostStep_mirrors hstep he
  obtain ⟨next', effects', hreplay, hnext, -⟩ := hostStep_progress hsame replayPolicy hmirror
  constructor
  · refine ⟨h.fresh, ?_, ?_⟩
    · intro k payload' hk
      rcases Nat.lt_trichotomy k payloads.length with hlt | rfl | hgt
      · rw [List.getElem?_append_left hlt] at hk
        exact h.numbered k payload' hk
      · rw [List.getElem?_concat_length] at hk
        cases hk
        exact hseq
      · rw [List.getElem?_eq_none (by simp; omega)] at hk
        cases hk
    · rw [AcceptsAll, replayInputs_append, hostMachine.meets_append]
      exact ⟨h.accepted, ⟨_, hreplay⟩, trivial⟩
  · rw [replayed_concat, hostRunStep_of_ok (i := ⟨payload.remote, replayPolicy⟩) hreplay]
    exact hnext.symm

theorem replayedMoves_concat (base : HostRolloutState) (payloads : List OutboundAgentEvent)
    (payload : OutboundAgentEvent) :
    replayedMoves base (payloads ++ [payload]) = replayedMoves base payloads ++
      (hostRunStep (replayed base payloads) ⟨payload.remote, replayPolicy⟩).2.flatMap
        fun accepted => accepted.effects.filterMap Effect.move? := by
  unfold replayedMoves
  rw [replayInputs_append, hostMachine.trace_append, List.flatMap_append]
  show _ ++ ((hostRunStep (replayed base payloads) ⟨payload.remote, replayPolicy⟩).2 ++
    []).flatMap _ = _
  rw [List.append_nil]

@[simp] theorem ProbeTopologyEntry.ofWire_toWire (e : ProbeTopologyEntry) :
    ofWire e.toWire = e := by
  simp [ofWire, toWire]

@[simp] theorem ProbeSubResult.ofWire_toWire (r : ProbeSubResult) : ofWire r.toWire = r := by
  simp [ofWire, toWire]

/-- A logged event is the remote event of its payload. -/
theorem remote_logged {e : Event} (he : e.logged? = some payload) : payload.remote = e := by
  cases e <;> cases he <;>
    simp [OutboundAgentEvent.remote, OutboundAgentEvent.toAgentEvent, AgentEvent.toEvent,
      Function.comp_def]

/-- The names and the time of the record that a replay begins with do not matter. -/
theorem Replays.of_progress {base' : HostRolloutState}
    {moves : List (HostState × HostState × Time)} (hsame : base.progress = base'.progress)
    (h : Replays base payloads moves s) : Replays base' payloads moves s := by
  induction payloads generalizing base base' moves with
  | nil =>
      refine ⟨trivial, h.moves, ?_⟩
      show base'.progress = s.progress
      rw [← hsame]
      exact h.progress
  | cons payload rest ih =>
      obtain ⟨⟨out, hout⟩, hrest⟩ := h.accepted
      obtain ⟨next', effects', hreplay, hnext, hmoves⟩ :=
        hostStep_progress hsame replayPolicy hout
      have hrun : hostMachine.step base ⟨payload.remote, replayPolicy⟩ =
          (out.1, [⟨payload.remote, out.2⟩]) := hostRunStep_of_ok hout
      have hrun' : hostMachine.step base' ⟨payload.remote, replayPolicy⟩ =
          (next', [⟨payload.remote, effects'⟩]) := hostRunStep_of_ok hreplay
      have hfirst : ∀ b, replayedMoves b (payload :: rest) =
          ((hostMachine.step b ⟨payload.remote, replayPolicy⟩).2.flatMap
            fun accepted => accepted.effects.filterMap Effect.move?) ++
          replayedMoves (hostMachine.step b ⟨payload.remote, replayPolicy⟩).1 rest := by
        intro b
        exact List.flatMap_append
      have hprogress := h.progress
      have htail : Replays out.1 rest (replayedMoves out.1 rest) s := by
        refine ⟨?_, rfl, ?_⟩
        · rw [hrun] at hrest
          exact hrest
        · change (hostMachine.run (hostMachine.step base _).1 _).progress = _ at hprogress
          rw [hrun] at hprogress
          exact hprogress
      have htail' := ih hnext.symm htail
      refine ⟨⟨⟨_, hreplay⟩, ?_⟩, ?_, ?_⟩
      · show hostMachine.Meets _ (hostMachine.step base' ⟨payload.remote, replayPolicy⟩).1 _
        rw [hrun']
        exact htail'.accepted
      · rw [← h.moves, hfirst, hfirst, hrun, hrun', htail'.moves]
        simp [hmoves]
      · change (hostMachine.run (hostMachine.step base' _).1 _).progress = _
        rw [hrun']
        exact htail'.progress

/-- Nothing that happened replays a record that nothing has happened to. -/
theorem Replays.nil (h : base.progress = s.progress) : Replays base [] [] s :=
  ⟨trivial, rfl, h⟩

/-- **The replay follows the log.** A remote event that the record accepts is accepted next, and
makes the same move. -/
theorem Replays.concat {moves : List (HostState × HostState × Time)} {e : Event}
    {p : RolloutPolicy} {effects : List Effect} (h : Replays base payloads moves s)
    (hstep : hostStep s e p = .ok (next, effects)) (he : e.logged? = some payload) :
    Replays base (payloads ++ [payload]) (moves ++ effects.filterMap Effect.move?) next := by
  obtain ⟨next', effects', hreplay, hnext, hmoves⟩ :=
    hostStep_progress h.progress.symm replayPolicy hstep
  rw [← remote_logged he] at hreplay
  have hrun : hostRunStep (replayed base payloads) ⟨payload.remote, replayPolicy⟩ =
      (next', [⟨payload.remote, effects'⟩]) := hostRunStep_of_ok hreplay
  refine ⟨?_, ?_, ?_⟩
  · rw [AcceptsAll, replayInputs_append, hostMachine.meets_append]
    exact ⟨h.accepted, ⟨_, hreplay⟩, trivial⟩
  · rw [replayedMoves_concat, hrun, h.moves, ← hmoves]
    simp
  · rw [replayed_concat, hrun]
    exact hnext

end Replay

end Nixfleet
