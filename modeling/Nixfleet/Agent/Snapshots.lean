import Nixfleet.Agent.Rollback
import Nixfleet.Agent.Sequence
import Nixfleet.ControlPlane.Run

set_option autoImplicit false

/-!
# An agent and its control plane

The agent queues what it emits and posts it later; the control plane answers each heartbeat
with snapshots of its own records, and the agent reads them later still. A rollout has one
switch and one rollback to fire (`budget`). A transition pays for what it fires, and only a
snapshot can give back what was paid: then a decision is taken twice. It is not when no
snapshot reopens what the agent has decided (`fires_at_most_once`).
-/

namespace Nixfleet

/-! ## The system -/

/-- An agent with a control plane, and what is on its way between them. -/
structure Link where
  agent : AgentReducer
  outbound : List (RolloutId × OutboundAgentEvent)
  cp : Cp
  snapshots : List HostRolloutSnapshot

/-- A fresh agent and a fresh control plane. -/
def Link.initial : Link := ⟨.fresh, [], .initial, []⟩

/-- What a step of the control plane reads from the outside. -/
structure CpSurroundings where
  now : Time
  order : MapOrders
  rank : RolloutId → Nat
  faults : Faults

def CpSurroundings.input (w : CpSurroundings) (event : CpEvent) : CpInput :=
  ⟨event, w.now, w.order, w.rank, w.faults⟩

inductive LinkInput where
  /-- The reducer reads the input of a worker. -/
  | worker (call : ReducerCall) (h : NoSnapshot call.input)
  /-- The reducer reads the oldest snapshot. -/
  | bootstrap (orders : AgentOrders) (now : Time)
  /-- A queued event is posted; it leaves the queue when the answer arrives. -/
  | deliver (k : Nat) (w : CpSurroundings) (answered : Bool)
  /-- A heartbeat of the agent; the snapshots of the reply may get lost. -/
  | heartbeat (w : CpSurroundings) (currentClosure : Option ClosureHash) (sentAt : Time)
      (answered : Bool)
  /-- Any step of the control plane. -/
  | control (i : CpInput)

/-- The snapshots that the control plane answers with. -/
def CpOutput.snapshots : CpOutput → List HostRolloutSnapshot
  | .replied _ reply => reply.bootstrapRollouts
  | _ => []

/-- A step of the system of the agent `host`; the outputs are the effects of the agent. -/
def linkStep (host : HostId) (s : Link) : LinkInput → Link × List Effect
  | .worker call _ =>
      let out := reducerMachine.step s.agent call
      ({ s with agent := out.1, outbound := s.outbound ++ out.2.filterMap Effect.emitted? }, out.2)
  | .bootstrap orders now =>
      match s.snapshots with
      | [] => (s, [])
      | snapshot :: rest =>
          let out := reducerMachine.step s.agent ⟨orders, now, .bootstrapHost snapshot⟩
          ({ s with
              agent := out.1
              outbound := s.outbound ++ out.2.filterMap Effect.emitted?
              snapshots := rest }, out.2)
  | .deliver k w answered =>
      match s.outbound[k]? with
      | none => (s, [])
      | some (rid, payload) =>
          ({ s with
              cp := (cpStep s.cp (w.input (.hostEvent host rid payload.remote))).1
              outbound := if answered then s.outbound.eraseIdx k else s.outbound }, [])
  | .heartbeat w currentClosure sentAt answered =>
      let out := cpStep s.cp (w.input (.heartbeatReceived ⟨host, none, currentClosure, sentAt⟩))
      ({ s with
          cp := out.1
          snapshots := s.snapshots ++ if answered then out.2.flatMap CpOutput.snapshots else [] },
        [])
  | .control i => ({ s with cp := (cpStep s.cp i).1 }, [])

def linkMachine (host : HostId) : Machine Link LinkInput Effect := ⟨linkStep host⟩

/-! ## What a rollout has left to fire -/

/-- The effect fires a switch for the rollout, or a rollback. -/
def Effect.fires (rid : RolloutId) (rollback : Bool) : Effect → Bool
  | .localFireSwitch rid' _ => rid' = rid && !rollback
  | .localFireRollbackTo rid' _ => rid' = rid && rollback
  | _ => false

/-- The switch is fired out of `Pending`; a rollback, on the way to `Failed`. -/
def HostState.undecided (rollback : Bool) (state : HostState) : Bool :=
  if rollback then state ≠ .failed && state ≠ .reverted else state = .pending

/-- What the rollout has left to fire. -/
def budget (rid : RolloutId) (rollback : Bool) (r : AgentReducer) : Nat :=
  match r.hostStates.lookup rid with
  | none => 1
  | some s => (s.state.undecided rollback).toNat

section Budget

variable {rid : RolloutId} {src dst : HostState} {intents : List ActivationIntent}
  {effects : List Effect} {rollback : Bool}

theorem countP_fires (rid : RolloutId) (rollback : Bool) (effects : List Effect) :
    effects.countP (·.fires rid rollback) =
      (effects.filterMap Effect.intent?).countP
        fun i => i.rolloutId = rid && i.rollback = rollback := by
  rw [List.countP_filterMap]
  refine List.countP_congr fun effect _ => ?_
  cases effect <;> cases rollback <;> simp [Effect.fires, Effect.intent?]

theorem HostMove.undecided (h : HostMove src dst) (rollback : Bool) :
    (dst.undecided rollback).toNat ≤ (src.undecided rollback).toNat := by
  cases h <;> cases rollback <;> decide

/-- A transition pays for what it fires. -/
theorem Decision.spends (h : Decision rid src dst intents) (hmove : HostMove src dst)
    (rollback : Bool) :
    intents.countP (fun i => i.rolloutId = rid && i.rollback = rollback) +
      (dst.undecided rollback).toNat ≤ (src.undecided rollback).toNat := by
  cases h with
  | none => simpa using hmove.undecided rollback
  | switch => cases rollback <;> simp [HostState.undecided]
  | rollback hsrc =>
      rcases hsrc with rfl | rfl <;> cases rollback <;> simp [HostState.undecided]

end Budget

/-! ## One input -/

section Step

variable {r : AgentReducer} (rid : RolloutId) (rollback : Bool)

theorem budget_insert (rid' : RolloutId) (s : HostRolloutState) :
    budget rid rollback { r with hostStates := r.hostStates.insert rid' s } =
      if rid = rid' then (s.state.undecided rollback).toNat else budget rid rollback r := by
  unfold budget
  rw [Table.lookup_insert_eq]
  by_cases h : rid = rid'
  · rw [if_pos h, if_pos h]
  · rw [if_neg h, if_neg h]

/-- An event pays for what it fires. -/
theorem runHostEvent_spends (hk : r.Keyed) (now : Time) (rid' : RolloutId) (e : Event) :
    (runHostEvent now r rid' e).2.countP (·.fires rid rollback) +
      budget rid rollback (runHostEvent now r rid' e).1 ≤ budget rid rollback r := by
  rcases runHostEvent_cases now r rid' e with hdrop | ⟨s, policy, next, effects, ht⟩
  · rw [hdrop]
    simp
  · have hrid := ht.rolloutId hk
    have hdecision := hostStep_intents ht.step
    rw [ht.run]
    dsimp only
    rw [budget_insert, countP_fires]
    by_cases heq : rid = rid'
    · have hspends := hdecision.spends (hostStep_spec ht.step).move rollback
      -- the record pays, or at the first dispatch the rollout without a record
      have hbefore : (s.state.undecided rollback).toNat ≤ budget rid rollback r := by
        unfold budget
        rcases recordFor_eq_some ht.record with hold | ⟨hnone, -, -⟩
        · rw [heq, hold]
        · rw [heq, hnone]
          exact Bool.toNat_le _
      rw [if_pos heq]
      rw [hrid, ← heq] at hspends
      omega
    · have hnone : (effects.filterMap Effect.intent?).countP
          (fun i => i.rolloutId = rid && i.rollback = rollback) = 0 := by
        refine List.countP_eq_zero.mpr fun i hi => ?_
        -- what fires is for the event's own rollout
        have hown : i.rolloutId = rid' := (hdecision.rolloutId i hi).trans hrid
        simp [hown, Ne.symm heq]
      rw [if_neg heq, hnone]
      omega

/-- The snapshot that the step reads takes back no decision. -/
def ReopensNothing (s : Link) : LinkInput → Prop
  | .bootstrap .. => ∀ snapshot ∈ s.snapshots.head?, ∀ record ∈
      s.agent.hostStates.lookup snapshot.rolloutId, ∀ rollback,
        snapshot.state.undecided rollback = true → record.state.undecided rollback = true
  | _ => True

instance (s : Link) : DecidablePred (ReopensNothing s)
  | .bootstrap .. => inferInstanceAs (Decidable (∀ snapshot ∈ s.snapshots.head?, ∀ record ∈
      s.agent.hostStates.lookup snapshot.rolloutId, ∀ rollback,
        snapshot.state.undecided rollback = true → record.state.undecided rollback = true))
  | .worker .. | .deliver .. | .heartbeat .. | .control .. => isTrue trivial

/-- An input pays for what it fires, if its snapshot takes back no decision. -/
theorem reducer_spends {c : ReducerCall} (hk : r.Keyed)
    (hsnapshot : ∀ snapshot, c.input = .bootstrapHost snapshot → ∀ record ∈
      r.hostStates.lookup snapshot.rolloutId,
        snapshot.state.undecided rollback = true → record.state.undecided rollback = true) :
    (reducerMachine.step r c).2.countP (·.fires rid rollback) +
      budget rid rollback (reducerMachine.step r c).1 ≤ budget rid rollback r := by
  refine (handleInput_induction (P := fun acc => acc.1.Keyed ∧
    acc.2.countP (·.fires rid rollback) + budget rid rollback acc.1 ≤ budget rid rollback r)
    ?_ ?_ ?_ ?_).2
  · exact ⟨hk, by simp⟩
  · rintro acc rid' e ⟨hkeyed, hle⟩
    have hevent := runHostEvent_spends rid rollback hkeyed c.now rid' e
    refine ⟨runHostEvent_keyed hkeyed c.now rid' e, ?_⟩
    dsimp only
    rw [List.countP_append]
    omega
  · exact fun set => ⟨hk, by simp [budget]⟩
  · intro snapshot hinput
    refine ⟨hk.insert rfl, ?_⟩
    have hnone : (rehydrationEffects (mergeSnapshotIntoState
        (r.hostStates.lookup snapshot.rolloutId) snapshot)).countP (·.fires rid rollback) = 0 := by
      unfold rehydrationEffects
      split <;> rfl
    -- the snapshot replaces the record of its rollout, and only that one
    show List.countP _ (rehydrationEffects _) +
      budget rid rollback { r with hostStates := _ } ≤ _
    rw [hnone, budget_insert]
    by_cases heq : rid = snapshot.rolloutId
    · rw [if_pos heq]
      unfold budget
      rw [heq]
      cases hrecord : r.hostStates.lookup snapshot.rolloutId with
      | none =>
          have hle := Bool.toNat_le (snapshot.state.undecided rollback)
          show 0 + (snapshot.state.undecided rollback).toNat ≤ 1
          omega
      | some record =>
          have hkept := hsnapshot snapshot hinput record hrecord
          show 0 + (snapshot.state.undecided rollback).toNat ≤
            (record.state.undecided rollback).toNat
          cases hs : snapshot.state.undecided rollback with
          | false => simp
          | true => simp [hkept hs]
    · rw [if_neg heq]
      omega

end Step

/-! ## Runs -/

section Run

variable {host : HostId}

/-- No snapshot is a worker's input. -/
theorem NoSnapshot.ne {input : ReducerInput} (h : NoSnapshot input)
    (snapshot : HostRolloutSnapshot) : input ≠ .bootstrapHost snapshot := by
  rintro rfl
  exact h

theorem link_spends {s : Link} {i : LinkInput} (rid : RolloutId) (rollback : Bool)
    (hk : s.agent.Keyed) (hi : ReopensNothing s i) :
    ((linkMachine host).step s i).1.agent.Keyed ∧
      ((linkMachine host).step s i).2.countP (·.fires rid rollback) +
        budget rid rollback ((linkMachine host).step s i).1.agent ≤
          budget rid rollback s.agent := by
  cases i with
  | worker call h =>
      -- no worker posts a snapshot
      refine ⟨handleInput_keyed hk call.orders call.now call.input, ?_⟩
      exact reducer_spends rid rollback hk fun snapshot hinput => absurd hinput (h.ne snapshot)
  | bootstrap orders now =>
      cases hsnapshots : s.snapshots with
      | nil =>
          have hstep : (linkMachine host).step s (.bootstrap orders now) = (s, []) := by
            show linkStep host s (.bootstrap orders now) = _
            simp only [linkStep, hsnapshots]
          rw [hstep]
          exact ⟨hk, by simp⟩
      | cons snapshot rest =>
          -- the reducer reads the snapshot at the head of the queue
          have hspends := reducer_spends rid rollback hk
            (c := ⟨orders, now, .bootstrapHost snapshot⟩) fun snapshot' hinput record hrecord => by
              cases hinput
              exact hi snapshot (by rw [hsnapshots]; rfl) record hrecord rollback
          have hkeyed := handleInput_keyed hk orders now (.bootstrapHost snapshot)
          show (linkStep host s (.bootstrap orders now)).1.agent.Keyed ∧
            (linkStep host s (.bootstrap orders now)).2.countP (·.fires rid rollback) +
              budget rid rollback (linkStep host s (.bootstrap orders now)).1.agent ≤ _
          simp only [linkStep, hsnapshots]
          exact ⟨hkeyed, hspends⟩
  | deliver k w answered =>
      show (linkStep host s (.deliver k w answered)).1.agent.Keyed ∧
        (linkStep host s (.deliver k w answered)).2.countP (·.fires rid rollback) +
          budget rid rollback (linkStep host s (.deliver k w answered)).1.agent ≤ _
      simp only [linkStep]
      split
      · exact ⟨hk, by simp⟩
      · exact ⟨hk, by simp⟩
  | heartbeat w currentClosure sentAt answered => exact ⟨hk, by simp [linkMachine, linkStep]⟩
  | control i => exact ⟨hk, by simp [linkMachine, linkStep]⟩

/-- **At most one switch and one rollback for a rollout.** In every run of an agent and its
control plane in which no snapshot that the agent reads takes back a decision. -/
theorem fires_at_most_once (host : HostId) {is : List LinkInput}
    (his : (linkMachine host).Meets ReopensNothing .initial is) (rid : RolloutId) :
    ((linkMachine host).trace .initial is).countP (·.fires rid false) ≤ 1 ∧
      ((linkMachine host).trace .initial is).countP (·.fires rid true) ≤ 1 := by
  have hle : ∀ rollback,
      ((linkMachine host).trace .initial is).countP (·.fires rid rollback) ≤ 1 := fun rollback =>
    (linkMachine host).countP_trace_le (P := fun s => s.agent.Keyed)
      (b := fun s => budget rid rollback s.agent)
      (fun _ _ hk hi => link_spends rid rollback hk hi) keyed_fresh his
  exact ⟨hle false, hle true⟩

end Run

/-! ## A snapshot behind the agent -/

/-- A control plane without failing statements, at the start. -/
def plainSurroundings : CpSurroundings := ⟨0, .stored, fun _ => 0, noFaults⟩

def workerAt (now : Time) (input : ReducerInput) (h : NoSnapshot input) : LinkInput :=
  .worker ⟨⟨fun _ => 0, fun _ => 0⟩, now, input⟩ h

/-- An event of the rollout `r1` of the channel `stable`. -/
def workerEvent (e : Event) : LinkInput := workerAt 0 (.hostEvent (.new "stable" "r1") e) trivial

/-- The control plane opens the rollout and delivers its dispatch to `host`. -/
def openedInputs : List LinkInput :=
  let manifests := stableManifests
    (stableFleet "r1" [("host", "new")] ⟨"all-at-once", [], .rollbackAndHalt⟩ [] [] [])
  let control (event : CpEvent) : LinkInput := .control (plainSurroundings.input event)
  [control (.manifestSetUpdated manifests), control .planTick, control (.takeDispatch "host"),
   workerAt 0 (.manifestSetUpdated manifests) trivial,
   workerEvent (.localActivate "old" "new" 0 0 0)]

/-- The switch takes place, and the control plane reads of it. -/
def soakingInputs : List LinkInput :=
  let deliver : LinkInput := .deliver 0 plainSurroundings true
  openedInputs ++
    [deliver, workerEvent (.localActivationStarted 0 "switch-to-configuration" 0), deliver,
     workerEvent (.localActivationCompleted "new" 0 0 0), deliver,
     workerEvent (.localProbeFailureFirst "probe" .enforce 0 0),
     workerEvent (.localProbeResult "probe" .enforce .fail 0 none none 0)]

/-- The tick after two minutes, when the failing probe is a sustained failure. -/
def sustainedTick : LinkInput := workerAt (120 * 1000000000) .agentAdvanceTick trivial

def heartbeatAt (currentClosure : ClosureHash) : LinkInput :=
  .heartbeat plainSurroundings (some currentClosure) 0 true

def bootstrapAt : LinkInput := .bootstrap ⟨fun _ => 0, fun _ => 0⟩ 0

set_option maxRecDepth 8000 in
/-- A snapshot that is read before the failure repeats nothing. -/
theorem currentSnapshot_fires_once :
    ((linkMachine "host").trace .initial
        (soakingInputs ++ [heartbeatAt "new", bootstrapAt, sustainedTick])).countP
          (·.fires (.new "stable" "r1") false) ≤ 1 ∧
      ((linkMachine "host").trace .initial
        (soakingInputs ++ [heartbeatAt "new", bootstrapAt, sustainedTick])).countP
          (·.fires (.new "stable" "r1") true) ≤ 1 :=
  fires_at_most_once "host" (by decide) (.new "stable" "r1")

set_option maxRecDepth 8000 in
/-- A `Soaking` snapshot that is read after the failure rolls the host back a second time; a
`Pending` one lets the next dispatch switch it a second time. -/
theorem laggingSnapshot_fires_twice :
    ((linkMachine "host").trace .initial
        (soakingInputs ++ [heartbeatAt "new", sustainedTick, bootstrapAt, sustainedTick])).countP
          (·.fires (.new "stable" "r1") true) = 2 ∧
      ((linkMachine "host").trace .initial
        (openedInputs ++ [heartbeatAt "old", bootstrapAt] ++ openedInputs)).countP
          (·.fires (.new "stable" "r1") false) = 2 := by
  constructor
  · decide
  · decide

end Nixfleet
