import Nixfleet.Agent.Facts
import Nixfleet.Reconciler.Manifest

set_option autoImplicit false

/-!
# Sequence numbers of the agent

The agent numbers the events of a rollout by its record's `last_event_seq`, and the control
plane takes a number it has seen for a retransmission. The counter has two writers: a
transition raises it, and a snapshot replaces it. It never falls, and no number is emitted
twice, iff no snapshot brings a smaller number than the record has (`seqs_kept_iff`). Every legal
event of a worker moves it by one, the outcome of a deferred activation excepted
(`counted_iff_not_deferral`).
-/

namespace Nixfleet

/-- One input of the reducer, with the clock and the orders of the hash maps. -/
structure ReducerCall where
  orders : AgentOrders
  now : Time
  input : ReducerInput

/-- The reducer task as a machine; it puts out the effects. -/
def reducerMachine : Machine AgentReducer ReducerCall Effect :=
  ⟨fun r c => handleInput c.orders c.now r c.input⟩

/-- The reducer of an agent that has just started. -/
def AgentReducer.fresh : AgentReducer := ⟨∅, none⟩

/-- `last_event_seq` of a rollout; `0` before the agent has heard of it. -/
def AgentReducer.seqOf (r : AgentReducer) (rid : RolloutId) : Nat :=
  ((r.hostStates.lookup rid).map (·.lastEventSeq)).getD 0

/-- The number of the event that an effect emits for a rollout. -/
def Effect.seqFor (rid : RolloutId) (effect : Effect) : Option Nat :=
  effect.emitted?.bind fun e => if e.1 = rid then some e.2.seq else none

/-- The numbers of the events that were emitted for a rollout, oldest first. -/
def emittedSeqs (rid : RolloutId) (effects : List Effect) : List Nat :=
  effects.filterMap (·.seqFor rid)

/-! ## Climbing numbers -/

/-- The numbers climb from above `lo` to at most `hi`. -/
structure Climbs (lo hi : Nat) (seqs : List Nat) : Prop where
  le : lo ≤ hi
  sorted : seqs.Pairwise (· < ·)
  bounds : ∀ n ∈ seqs, lo < n ∧ n ≤ hi

theorem Climbs.nil {lo hi : Nat} (h : lo ≤ hi) : Climbs lo hi [] :=
  ⟨h, List.Pairwise.nil, by simp⟩

theorem Climbs.append {lo mid hi : Nat} {seqs seqs' : List Nat} (h : Climbs lo mid seqs)
    (h' : Climbs mid hi seqs') : Climbs lo hi (seqs ++ seqs') := by
  refine ⟨h.le.trans h'.le, List.pairwise_append.mpr ⟨h.sorted, h'.sorted, ?_⟩, ?_⟩
  · intro n hn n' hn'
    have hle := (h.bounds n hn).2
    have hlt := (h'.bounds n' hn').1
    omega
  · intro n hn
    have hle := h.le
    have hle' := h'.le
    rcases List.mem_append.mp hn with hn | hn
    · have hbounds := h.bounds n hn
      omega
    · have hbounds := h'.bounds n hn
      omega

/-! ## One input -/

section Step

variable {r : AgentReducer} {now : Time} {rid : RolloutId} {event : Event}
  {s next : HostRolloutState} {policy : RolloutPolicy} {effects : List Effect}

theorem seqOf_insert (r : AgentReducer) (rid rid' : RolloutId) (s : HostRolloutState) :
    AgentReducer.seqOf { r with hostStates := r.hostStates.insert rid s } rid' =
      if rid' = rid then s.lastEventSeq else r.seqOf rid' := by
  unfold AgentReducer.seqOf
  rw [Table.lookup_insert_eq]
  by_cases h : rid' = rid
  · rw [if_pos h, if_pos h]
    rfl
  · rw [if_neg h, if_neg h]

/-- The number of the record that an event is for. -/
theorem seqOf_of_recordFor (h : r.recordFor now rid event = some s) :
    r.seqOf rid = s.lastEventSeq := by
  unfold AgentReducer.recordFor at h
  unfold AgentReducer.seqOf
  split at h
  · rename_i s' hs'
    cases h
    rw [hs']
    rfl
  · rename_i hnone
    cases h
    rw [hnone]
    rfl
  · cases h

/-- What a transition emits for a rollout. -/
theorem emittedSeqs_of_step {e : Event} (rid' : RolloutId)
    (h : hostStep s e policy = .ok (next, effects)) :
    emittedSeqs rid' effects = [] ∨ emittedSeqs rid' effects = [next.lastEventSeq] ∧
      s.rolloutId = rid' := by
  have hemit := hostStep_emitted h
  have hseqs : emittedSeqs rid' effects = (effects.filterMap Effect.emitted?).filterMap
      fun e => if e.1 = rid' then some e.2.seq else none := by
    rw [List.filterMap_filterMap]
    rfl
  rw [hseqs, hemit]
  cases he : e.payload? with
  | none => exact .inl rfl
  | some payload =>
      have hseq : payload.seq = next.lastEventSeq :=
        (seq_payload he).trans (hostStep_spec h).seq.symm
      by_cases hrid : s.rolloutId = rid'
      · exact .inr ⟨by simp [hrid, hseq], hrid⟩
      · exact .inl (by simp [hrid])

/-- An event raises the number of its rollout, and emits that number. -/
theorem runHostEvent_climbs (hk : r.Keyed) (now : Time) (rid : RolloutId) (event : Event)
    (rid' : RolloutId) :
    Climbs (r.seqOf rid') ((runHostEvent now r rid event).1.seqOf rid')
      (emittedSeqs rid' (runHostEvent now r rid event).2) := by
  rcases runHostEvent_cases now r rid event with hdrop | ⟨s, policy, next, effects, h⟩
  · rw [hdrop]
    exact .nil (Nat.le_refl _)
  · rw [h.run]
    dsimp only
    rw [seqOf_insert]
    have hlt : s.lastEventSeq < next.lastEventSeq := by
      rw [(hostStep_spec h.step).seq]
      exact hostStep_seq_lt h.step
    have hold := seqOf_of_recordFor h.record
    have hrid := h.rolloutId hk
    -- the event's rollout climbs to the new number; the others stay and emit nothing
    by_cases heq : rid' = rid
    · rw [if_pos heq, heq]
      rcases emittedSeqs_of_step rid h.step with hnone | ⟨hone, -⟩
      · rw [hnone]
        exact .nil (by omega)
      · rw [hone]
        exact ⟨by omega, List.pairwise_singleton _ _, by simp; omega⟩
    · rw [if_neg heq]
      rcases emittedSeqs_of_step rid' h.step with hnone | ⟨-, hrid'⟩
      · rw [hnone]
        exact .nil (Nat.le_refl _)
      · exact absurd (hrid'.symm.trans hrid) heq

end Step

/-- The step lowers the number of no rollout. -/
def SeqKept (r : AgentReducer) (c : ReducerCall) : Prop :=
  ∀ rid, r.seqOf rid ≤ (reducerMachine.step r c).1.seqOf rid

/-- A snapshot that is read has at least the number of the record it replaces. -/
def SnapshotCurrent (r : AgentReducer) (c : ReducerCall) : Prop :=
  ∀ snapshot, c.input = .bootstrapHost snapshot →
    r.seqOf snapshot.rolloutId ≤ snapshot.lastEventSeq

/-- A snapshot emits nothing. -/
theorem emittedSeqs_rehydrationEffects (rid : RolloutId) (s : HostRolloutState) :
    emittedSeqs rid (rehydrationEffects s) = [] := by
  unfold rehydrationEffects
  cases s.state <;> rfl

theorem step_climbs {r : AgentReducer} {c : ReducerCall} (hk : r.Keyed)
    (hc : SnapshotCurrent r c) (rid : RolloutId) :
    Climbs (r.seqOf rid) ((reducerMachine.step r c).1.seqOf rid)
      (emittedSeqs rid (reducerMachine.step r c).2) := by
  refine (handleInput_induction (P := fun acc => acc.1.Keyed ∧
    Climbs (r.seqOf rid) (acc.1.seqOf rid) (emittedSeqs rid acc.2)) ?_ ?_ ?_ ?_).2
  · exact ⟨hk, .nil (Nat.le_refl _)⟩
  · rintro acc rid' e ⟨hkeyed, hclimbs⟩
    refine ⟨runHostEvent_keyed hkeyed c.now rid' e, ?_⟩
    have hevent := hclimbs.append (runHostEvent_climbs hkeyed c.now rid' e rid)
    rwa [emittedSeqs, emittedSeqs, ← List.filterMap_append] at hevent
  · exact fun set => ⟨hk, .nil (Nat.le_refl _)⟩
  · intro snapshot hsnapshot
    refine ⟨hk.insert rfl, ?_⟩
    -- a snapshot emits nothing, so only its number counts
    show Climbs _ _ (emittedSeqs rid (rehydrationEffects _))
    rw [emittedSeqs_rehydrationEffects]
    refine .nil ?_
    show r.seqOf rid ≤ AgentReducer.seqOf { r with hostStates := _ } rid
    rw [seqOf_insert]
    by_cases heq : rid = snapshot.rolloutId
    · rw [if_pos heq, heq]
      exact hc snapshot hsnapshot
    · rw [if_neg heq]

/-- A step keeps the numbers iff its snapshot, if it reads one, is current. -/
theorem seqKept_iff {r : AgentReducer} {c : ReducerCall} (hk : r.Keyed) :
    SeqKept r c ↔ SnapshotCurrent r c := by
  constructor
  · intro hkept snapshot hsnapshot
    have hle := hkept snapshot.rolloutId
    have hstep : reducerMachine.step r c = applyBootstrapSnapshot r snapshot := by
      show handleInput c.orders c.now r c.input = _
      rw [hsnapshot]
      rfl
    rw [hstep] at hle
    simp only [applyBootstrapSnapshot, seqOf_insert, if_pos] at hle
    exact hle
  · exact fun hc rid => (step_climbs hk hc rid).le

/-! ## Runs -/

/-- No rollout's number ever falls. -/
def NeverDecreases (is : List ReducerCall) : Prop := reducerMachine.Meets SeqKept .fresh is

/-- No number is emitted twice for one rollout; the numbers of a rollout climb. -/
def NeverReused (is : List ReducerCall) : Prop :=
  ∀ rid, (emittedSeqs rid (reducerMachine.trace .fresh is)).Pairwise (· < ·)

theorem run_climbs {r : AgentReducer} (hk : r.Keyed) {is : List ReducerCall}
    (his : reducerMachine.Meets SnapshotCurrent r is) (rid : RolloutId) :
    Climbs (r.seqOf rid) ((reducerMachine.run r is).seqOf rid)
      (emittedSeqs rid (reducerMachine.trace r is)) := by
  induction is generalizing r with
  | nil => exact .nil (Nat.le_refl _)
  | cons c is ih =>
      have hrest := ih (handleInput_keyed hk c.orders c.now c.input) his.2
      have hclimbs := (step_climbs hk his.1 rid).append hrest
      rwa [emittedSeqs, emittedSeqs, ← List.filterMap_append] at hclimbs

theorem keyed_fresh : AgentReducer.fresh.Keyed := by
  intro rid s hs
  cases hs

/-- **When sequence numbers are never reused.** For every interleaving of events, ticks,
manifests and snapshots: iff every snapshot that is read has at least the number of the record
it replaces. -/
theorem seqs_kept_iff (is : List ReducerCall) :
    NeverDecreases is ∧ NeverReused is ↔ reducerMachine.Meets SnapshotCurrent .fresh is := by
  have hkept : NeverDecreases is ↔ reducerMachine.Meets SnapshotCurrent .fresh is :=
    reducerMachine.meets_congr_of_invariant (P := AgentReducer.Keyed)
      (fun r c _ hk _ => handleInput_keyed hk c.orders c.now c.input)
      (fun r c _ hk => seqKept_iff hk) keyed_fresh
  constructor
  · exact fun h => hkept.mp h.1
  · exact fun his => ⟨hkept.mpr his, fun rid => (run_climbs keyed_fresh his rid).sorted⟩

/-! ## A snapshot behind the agent -/

/-- The dispatch of `new` to a host of the channel `stable`, and the start of its activation. -/
def startedCalls : List ReducerCall :=
  let manifests := stableManifests
    (stableFleet "r1" [("host", "new")] ⟨"all-at-once", [], .rollbackAndHalt⟩ [] [] [])
  let call (input : ReducerInput) : ReducerCall := ⟨⟨fun _ => 0, fun _ => 0⟩, 0, input⟩
  let event (e : Event) : ReducerCall := call (.hostEvent (.new "stable" "r1") e)
  [call (.manifestSetUpdated manifests), event (.localActivate "old" "new" 0 5 0),
   event (.localActivationStarted 0 "switch-to-configuration" 0)]

/-- The control plane's record once it has read the acknowledgement only. -/
def ackedMirror : HostRolloutState :=
  hostMachine.run freshRecord
    (underPolicy (plainPolicy .rollbackAndHalt) [(OutboundAgentEvent.dispatchAck "old" 0 1).remote])

/-- A heartbeat returns its snapshot while the start of the activation is still queued. -/
def laggingCalls : List ReducerCall :=
  startedCalls ++
    [⟨⟨fun _ => 0, fun _ => 0⟩, 0, .bootstrapHost ackedMirror.toSnapshot⟩,
     ⟨⟨fun _ => 0, fun _ => 0⟩, 0,
      .hostEvent (.new "stable" "r1") (.localActivationCompleted "new" 0 1 0)⟩]

set_option maxRecDepth 4000 in
/-- The completion gets the number of the start. -/
theorem laggingCalls_reuse : ¬ NeverDecreases laggingCalls ∧ ¬ NeverReused laggingCalls := by
  constructor
  · intro h
    have hstep := h.2.2.2.1 (.new "stable" "r1")
    exact absurd hstep (by decide)
  · intro h
    have hseqs : emittedSeqs (.new "stable" "r1") (reducerMachine.trace .fresh laggingCalls) =
        [1, 2, 2] := rfl
    have hsorted := h (.new "stable" "r1")
    rw [hseqs] at hsorted
    exact absurd hsorted (by decide)

/-! ## Events of the workers -/

/-- The handlers do not look at the number. -/
theorem legal_withSeq {s : HostRolloutState} {e : Event} {policy : RolloutPolicy} (n : Nat) :
    s.Legal (withSeq e n) policy ↔ s.Legal e policy := by
  unfold HostRolloutState.Legal HostRolloutState.dispatch
  cases e with
  | localConvergedReached t c m =>
      cases s.state with
      | soaking =>
          simp only [withSeq, soakingHandle]
          cases verifyConvergedInvariants s c t <;> exact Iff.rfl
      | _ => exact Iff.rfl
  | _ => cases s.state <;> exact Iff.rfl

/-- The outcome of an activation that waits for a reboot. -/
def Event.isDeferral : Event → Bool
  | .localActivationDeferred .. => true
  | _ => false

/-- Every event of the agent is renumbered but one. -/
theorem seq_withSeq {e : Event} (hlocal : e.isLocal = true) (n : Nat) :
    (withSeq e n).seq = if e.isDeferral then e.seq else n := by
  cases e <;> first | rfl | cases hlocal

/-- The event is accepted, and takes the next number of its rollout. -/
def Counted (now : Time) (r : AgentReducer) (rid : RolloutId) (e : Event) : Prop :=
  (∃ s policy next effects, Transition now r rid e s policy next effects) ∧
    (runHostEvent now r rid e).1.seqOf rid = r.seqOf rid + 1

/-- **Which events of the workers count.** Whatever the reducer holds, an event that a worker
posts for a rollout whose policy is cached, and that is legal, is accepted and counted iff it is
not the outcome of a deferred activation. -/
theorem counted_iff_not_deferral {r : AgentReducer} {now : Time} {rid : RolloutId} {e : Event}
    {s : HostRolloutState} {policy : RolloutPolicy} (hlocal : e.isLocal = true) (hseq : e.seq = 0)
    (hrecord : r.recordFor now rid e = some s) (hpolicy : r.resolvePolicy s.channel = some policy)
    (hlegal : s.Legal e policy) : Counted now r rid e ↔ e.isDeferral = false := by
  have hnum := seq_withSeq hlocal (s.lastEventSeq + 1)
  constructor
  · rintro ⟨⟨s', policy', next, effects, h⟩, -⟩
    have hs : s' = s := Option.some.inj (h.record.symm.trans hrecord)
    subst hs
    -- a deferral keeps the number 0, which is never above the last one
    have hlt := hostStep_seq_lt h.step
    by_contra hdef
    rw [hnum, if_pos (by simpa using hdef), hseq] at hlt
    omega
  · intro hdef
    rw [hdef, if_neg Bool.false_ne_true] at hnum
    have hstep : hostStep s (withSeq e (s.lastEventSeq + 1)) policy =
        s.dispatch (withSeq e (s.lastEventSeq + 1)) policy := hostStep_of_seq_lt (by omega)
    have hok := (legal_withSeq (s.lastEventSeq + 1)).mpr hlegal
    unfold HostRolloutState.Legal at hok
    rw [← hstep] at hok
    cases hout : hostStep s (withSeq e (s.lastEventSeq + 1)) policy with
    | error err => rw [hout] at hok; cases hok
    | ok out =>
        have hrun : runHostEvent now r rid e =
            ({ r with hostStates := r.hostStates.insert rid out.1 }, out.2) := by
          simp only [runHostEvent, hrecord, hpolicy, hout]
        refine ⟨⟨s, policy, out.1, out.2, hrecord, hpolicy, hout, hrun⟩, ?_⟩
        rw [hrun, seqOf_insert, if_pos rfl, seqOf_of_recordFor hrecord, (hostStep_spec hout).seq,
          hnum]

set_option maxRecDepth 4000 in
/-- The completion of a switch counts. -/
theorem completion_counted :
    Counted 1 (reducerMachine.run .fresh startedCalls) (.new "stable" "r1")
        (.localActivationCompleted "new" 0 1 0) ↔
      (Event.localActivationCompleted "new" 0 1 0).isDeferral = false :=
  counted_iff_not_deferral rfl rfl rfl rfl rfl

set_option maxRecDepth 4000 in
/-- A switch that waits for a reboot is legal, but does not count. -/
theorem deferral_not_counted :
    (∃ s policy, (reducerMachine.run .fresh startedCalls).recordFor 1 (.new "stable" "r1")
        (.localActivationDeferred "dbus" 1 0) = some s ∧
      (reducerMachine.run .fresh startedCalls).resolvePolicy s.channel = some policy ∧
      s.Legal (.localActivationDeferred "dbus" 1 0) policy) ∧
    ¬ Counted 1 (reducerMachine.run .fresh startedCalls) (.new "stable" "r1")
        (.localActivationDeferred "dbus" 1 0) := by
  refine ⟨⟨_, _, rfl, rfl, rfl⟩, fun h => ?_⟩
  have hseq : (runHostEvent 1 (reducerMachine.run .fresh startedCalls) (.new "stable" "r1")
      (.localActivationDeferred "dbus" 1 0)).1.seqOf (.new "stable" "r1") = 2 := rfl
  have hcounted := h.2
  rw [hseq] at hcounted
  exact absurd hcounted (by decide)

end Nixfleet
