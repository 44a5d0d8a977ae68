import Nixfleet.Host.Mirror
import Nixfleet.ControlPlane.Records
import Nixfleet.Reconciler.Manifest

set_option autoImplicit false

/-!
# Posted events

The events route answers an agent before the reducer has looked at the event, and the agent deletes
what was answered. So an event that the reducer takes from its channel and drops is lost. It is
dropped when no manifests with the channel's policy are cached, when a statement fails, and when
another event, posted or synthesized, has already carried its number or a later one to the record.
Where none of this happens to a legal event, it is applied (`acked_applied_iff`).
-/

namespace Nixfleet

/-! ## Applied events -/

/-- The agent event of a host and a rollout that a log entry mirrors. -/
def EventLogEntry.agentEventOf (host : HostId) (rid : RolloutId) (entry : EventLogEntry) :
    Option OutboundAgentEvent :=
  if entry.hostId = some host ∧ entry.rolloutId = some rid then entry.payload.agentEvent? else none

/-- The agent events of a host and a rollout that the control plane has accepted, oldest first.
Only an accepted event is logged as one. -/
def Db.appliedEvents (db : Db) (host : HostId) (rid : RolloutId) : List OutboundAgentEvent :=
  db.eventLog.filterMap (·.agentEventOf host rid)

section Applied

variable {host : HostId} {rid : RolloutId}

theorem appliedEvents_appendEventLog (db : Db) (t : Time) (h : Option HostId)
    (r : Option RolloutId) (p : LogPayload) :
    (db.appendEventLog t h r p).appliedEvents host rid = db.appliedEvents host rid ++
      (EventLogEntry.agentEventOf host rid ⟨t, h, r, p⟩).toList := by
  unfold Db.appliedEvents Db.appendEventLog
  rw [List.filterMap_append]
  cases hentry : EventLogEntry.agentEventOf host rid ⟨t, h, r, p⟩ <;> simp [hentry]

theorem logReading_appliedEvents : LogReading fun db => db.appliedEvents host rid where
  congr h := by
    unfold Db.appliedEvents
    rw [h]
  append db t h r p _ hp := by
    simp [appliedEvents_appendEventLog, EventLogEntry.agentEventOf, hp]

/-- The agent event that an effect logs. -/
def Effect.agentEventOf (host : HostId) (rid : RolloutId) : Effect → Option OutboundAgentEvent
  | .remoteAppendEventLog host' rid' payload =>
      if host' = host ∧ rid' = rid then some payload else none
  | _ => none

theorem applyEffect_appliedEvents (ctx : ApplierCtx) (db : Db) (e : Effect) :
    (applyEffect ctx db e).appliedEvents host rid =
      db.appliedEvents host rid ++ (e.agentEventOf host rid).toList := by
  by_cases he : ∃ host rid payload, e = .remoteAppendEventLog host rid payload
  · obtain ⟨host', rid', payload, rfl⟩ := he
    have hentry : EventLogEntry.agentEventOf host rid
        ⟨ctx.now, some host', some rid', .agentEvent payload⟩ =
        Effect.agentEventOf host rid (.remoteAppendEventLog host' rid' payload) := by
      simp [EventLogEntry.agentEventOf, Effect.agentEventOf, LogPayload.agentEvent?]
    simp only [applyEffect]
    rw [← hentry, ← appliedEvents_appendEventLog]
    split <;> rfl
  · have hnone : e.agentEventOf host rid = none := by
      cases e with
      | remoteAppendEventLog host' rid' payload => exact absurd ⟨host', rid', payload, rfl⟩ he
      | _ => rfl
    rw [hnone, Option.toList_none, List.append_nil]
    exact logReading_appliedEvents.effect ctx db fun host' rid' payload h =>
      he ⟨host', rid', payload, h⟩

theorem foldl_applyEffect_appliedEvents (ctx : ApplierCtx) (effects : List Effect) (db : Db) :
    (effects.foldl (applyEffect ctx) db).appliedEvents host rid =
      db.appliedEvents host rid ++ effects.filterMap (·.agentEventOf host rid) := by
  induction effects generalizing db with
  | nil => simp
  | cons e effects ih =>
      rw [List.foldl_cons, ih, applyEffect_appliedEvents, List.append_assoc]
      cases he : e.agentEventOf host rid <;> simp [he]

/-- **What an accepted event adds.** The payloads that its effects log. -/
theorem acceptHostEvent_appliedEvents (ctx : ApplierCtx) (db : Db) (host' : HostId)
    (rid' : RolloutId) (src : HostState) (next : HostRolloutState) (effects : List Effect) :
    (acceptHostEvent ctx db host' rid' src next effects).appliedEvents host rid =
      db.appliedEvents host rid ++ effects.filterMap (·.agentEventOf host rid) := by
  refine hostStateChanged_rule (P := fun db' : Db => db'.appliedEvents host rid =
    db.appliedEvents host rid ++ effects.filterMap (·.agentEventOf host rid)) ?_ ?_
  · intro db' e _ _ hdb'
    exact (logReading_appliedEvents.rolloutEvent _ db' e).trans hdb'
  · rw [foldl_applyEffect_appliedEvents]
    rfl

theorem applyPlanAction_appliedEvents (ctx : ApplierCtx) (db : Db) (a : PlanAction) :
    (applyPlanAction ctx db a).appliedEvents host rid = db.appliedEvents host rid := by
  cases a with
  | openRollout rid' channel targetRef =>
      exact logReading_appliedEvents.rolloutOpened ctx db rid' channel targetRef
  | queueDispatch host' rid' closure due =>
      simp only [applyPlanAction, queueDispatch]
      split
      · rfl
      · rw [appliedEvents_appendEventLog]
        simp only [EventLogEntry.agentEventOf, LogPayload.agentEvent?, ite_self,
          Option.toList_none, List.append_nil]
        exact logReading_appliedEvents.congr rfl
  | deferDispatch host' rid' gate reason =>
      exact logReading_appliedEvents.append _ _ _ _ _ rfl rfl

theorem runPlan_appliedEvents (rs : ReducerState) (order : MapOrders) (now : Time)
    (faults : Faults) (db : Db) :
    (runPlan rs order now faults db).appliedEvents host rid = db.appliedEvents host rid := by
  refine runPlan_rule (P := fun db' => db'.appliedEvents host rid = db.appliedEvents host rid)
    rfl ?_ ?_
  · intro manifests plan _ hplan
    obtain ⟨_, _, _, _, hdb, _, _⟩ := planOf_eq_some hplan
    rw [hdb]
    exact advanceCurrentWaves_proj _ _ _ _ _ (f := fun db => db.appliedEvents host rid)
      fun _ _ _ => rfl
  · intro manifests plan _ _ db' hdb' a _
    rw [applyPlanAction_appliedEvents, hdb']

theorem mem_agentEventsOf {effects : List Effect} {payload : OutboundAgentEvent} :
    payload ∈ effects.filterMap (·.agentEventOf host rid) ↔
      .remoteAppendEventLog host rid payload ∈ effects := by
  rw [List.mem_filterMap]
  constructor
  · rintro ⟨effect, hmem, heffect⟩
    cases effect <;> simp only [Effect.agentEventOf, reduceCtorEq] at heffect
    split at heffect
    · rename_i hkey
      cases heffect
      obtain ⟨rfl, rfl⟩ := hkey
      exact hmem
    · cases heffect
  · exact fun hmem => ⟨_, hmem, by simp [Effect.agentEventOf]⟩

/-- The applied events after an accepted event. -/
theorem Accepted.mem_appliedEvents {rs : ReducerState} {now : Time} {faults : Faults} {db : Db}
    {host' : HostId} {rid' : RolloutId} {event : Event} {manifests : SignedManifestSet}
    {prior next : HostRolloutState} {effects : List Effect}
    (hacc : Accepted rs db host' rid' event manifests prior next effects)
    {payload : OutboundAgentEvent} :
    payload ∈ (acceptHostEvent ⟨manifests, now, faults⟩ db host' rid' prior.state next
        effects).appliedEvents host rid ↔
      payload ∈ db.appliedEvents host rid ∨
        host = prior.hostname ∧ rid = prior.rolloutId ∧ event.logged? = some payload := by
  obtain ⟨policy, -, hstep⟩ := hacc.step
  rw [acceptHostEvent_appliedEvents, List.mem_append, mem_agentEventsOf, hostStep_logged hstep]

end Applied

/-! ## Numbers -/

/-- The last number of a record is that of an event applied to it, and no applied event has the
number `0`. -/
structure Db.NumbersApplied (db : Db) : Prop where
  keyed : db.RecordsKeyed
  last : ∀ rid host r, db.loadRecord rid host = some r →
    r.lastEventSeq = 0 ∨ ∃ payload ∈ db.appliedEvents host rid, payload.seq = r.lastEventSeq
  positive : ∀ rid host, ∀ payload ∈ db.appliedEvents host rid, 0 < payload.seq

section Numbers

variable {db : Db}

theorem Db.NumbersApplied.of_same {db' : Db} (h : db.NumbersApplied)
    (hrecords : ∀ rid host r, db'.loadRecord rid host = some r →
      db.loadRecord rid host = some r ∨
        (r.rolloutId = rid ∧ r.hostname = host) ∧ r.lastEventSeq = 0)
    (hlog : ∀ host rid, db'.appliedEvents host rid = db.appliedEvents host rid) :
    db'.NumbersApplied := by
  refine ⟨fun rid host r hr => ?_, fun rid host r hr => ?_, fun rid host payload hmem => ?_⟩
  · rcases hrecords rid host r hr with hold | ⟨hkey, -⟩
    · exact h.keyed rid host r hold
    · exact hkey
  · rcases hrecords rid host r hr with hold | ⟨-, hzero⟩
    · rw [hlog]
      exact h.last rid host r hold
    · exact .inl hzero
  · rw [hlog] at hmem
    exact h.positive rid host payload hmem

theorem handleHostEvent_numbersApplied {rs : ReducerState} {now : Time} {faults : Faults}
    {host : HostId} {rid : RolloutId} {event : Event} (hremote : event.isLocal = false)
    (h : db.NumbersApplied) : (handleHostEvent rs now faults db host rid event).NumbersApplied := by
  have hk : (handleHostEvent rs now faults db host rid event).RecordsKeyed :=
    handleHostEvent_recordsKeyed h.keyed host rid event
  rcases handleHostEvent_cases rs now faults db host rid event with
    heq | ⟨m, prior, next, effects, hacc, heq⟩
  · rw [heq]
    exact h
  · obtain ⟨policy, -, hstep⟩ := hacc.step
    obtain ⟨payload, hpayload⟩ := exists_logged hremote
    obtain ⟨hrid, hhost⟩ := h.keyed _ _ _ hacc.loaded
    have hsame := (hostStep_spec hstep).same
    have hseq : payload.seq = next.lastEventSeq :=
      (seq_logged hpayload).trans (hostStep_spec hstep).seq.symm
    rw [heq] at hk ⊢
    refine ⟨hk, fun rid' host' r hr => ?_, fun rid' host' payload' hmem => ?_⟩
    · rw [loadRecord_congr (acceptHostEvent_hostRolloutRecords ..), loadRecord_upsertRecord] at hr
      split at hr
      · -- the record that moved: its last number is that of the event
        rename_i hkey
        cases hr
        refine .inr ⟨payload, hacc.mem_appliedEvents.mpr (.inr ⟨?_, ?_, hpayload⟩), hseq⟩
        · exact hkey.2.trans hsame.hostname
        · exact hkey.1.trans hsame.rolloutId
      · rcases h.last rid' host' r hr with hzero | ⟨last, hmem, hlast⟩
        · exact .inl hzero
        · exact .inr ⟨last, hacc.mem_appliedEvents.mpr (.inl hmem), hlast⟩
    · rcases hacc.mem_appliedEvents.mp hmem with hold | ⟨-, -, hnew⟩
      · exact h.positive rid' host' payload' hold
      · rw [seq_logged hnew]
        have hfresh := hacc.fresh
        omega

theorem runPlan_numbersApplied {rs : ReducerState} {order : MapOrders} {now : Time}
    {faults : Faults} (h : db.NumbersApplied) :
    (runPlan rs order now faults db).NumbersApplied := by
  refine h.of_same (fun rid host r hr => ?_) fun _ _ => runPlan_appliedEvents ..
  rcases runPlan_record hr with hold | ⟨_, _, _, -, -, -, channel, manifest, -, hw, -, rfl, rfl⟩
  · exact .inl hold
  · exact .inr ⟨⟨rfl, rfl⟩, rfl⟩

/-- Every step keeps the numbers, as long as the host event that it may read is a remote one. -/
theorem cpStep_numbersApplied {cp : Cp} {i : CpInput}
    (hremote : ∀ host rid event, i.event = .hostEvent host rid event → event.isLocal = false)
    (h : cp.db.NumbersApplied) : (cpStep cp i).1.db.NumbersApplied := by
  refine cpStep_rule h ?_ ?_ ?_ ?_
  · rintro rs db host rid event (hevent | hevent) hdb
    · exact handleHostEvent_numbersApplied hevent hdb
    · exact handleHostEvent_numbersApplied (hremote host rid event hevent) hdb
  · exact fun _ _ _ _ => runPlan_numbersApplied h
  · -- the sweep deletes records and keeps the log
    intro _
    exact h.of_same (fun rid host r hr => .inl (loadRecord_of_prune hr)) fun _ _ => rfl
  · refine fun host => h.of_same (fun rid host' r hr => ?_) fun host' rid => ?_
    · rw [loadRecord_takeForHost] at hr
      exact .inl hr
    · exact takeForHost_proj _ (f := fun db => db.appliedEvents host' rid) (fun _ _ => rfl) _ _

end Numbers

/-! ## The server -/

/-- `ReducerInput` of the control plane. -/
inductive CpReducerInput where
  | hostEvent (host : HostId) (rolloutId : RolloutId) (event : Event)
  | manifestSetUpdated (set : SignedManifestSet)
  | heartbeatReceived (heartbeat : Heartbeat)
  | planTick

/-- `handle_input` of the input. -/
def CpReducerInput.event : CpReducerInput → CpEvent
  | .hostEvent host rid event => .hostEvent host rid event
  | .manifestSetUpdated set => .manifestSetUpdated set
  | .heartbeatReceived heartbeat => .heartbeatReceived heartbeat
  | .planTick => .planTick

/-- `REDUCER_INPUT_CAPACITY`. -/
def reducerInputCapacity : Nat := 1024

/-- The process: the control plane and the reducer's input channel, which `runtime_input_tx` opens
to the routes once the runtime is spun up. -/
structure Server where
  cp : Cp
  inputs : Option (List CpReducerInput)

/-- A server that has just started on a fresh database. -/
def Server.initial : Server := ⟨.initial, none⟩

/-- The status codes of the agents' routes. -/
inductive AgentStatusCode where
  | noContent
  | forbidden
  | serviceUnavailable
deriving DecidableEq, Repr

/-- `AgentEventEnvelope`; its signature is not read. -/
structure AgentEventEnvelope where
  hostname : HostId
  rolloutId : RolloutId
  event : AgentEvent

/-- `try_send`: nothing is sent to a channel that is full or not there yet. -/
def Server.trySend (sv : Server) (input : CpReducerInput) : Option Server :=
  sv.inputs.bind fun inputs =>
    if inputs.length < reducerInputCapacity then
      some { sv with inputs := some (inputs ++ [input]) }
    else none

/-- The lookup of the events route: the record has the number of the event, or a later one. A
lookup that fails finds no duplicate. -/
def Server.isDuplicate (sv : Server) (faults : Faults) (envelope : AgentEventEnvelope) : Bool :=
  !faults (.loadRecord envelope.rolloutId envelope.hostname envelope.event.seq) &&
    (sv.cp.db.loadRecord envelope.rolloutId envelope.hostname).any
      (envelope.event.seq ≤ ·.lastEventSeq)

/-- `events`, for a caller whose certificate names the machine. -/
def Server.events (sv : Server) (faults : Faults) (machineId : HostId)
    (envelope : AgentEventEnvelope) : Server × AgentStatusCode :=
  if machineId ≠ envelope.hostname then (sv, .forbidden)
  else if sv.isDuplicate faults envelope then (sv, .noContent)
  else
    match sv.trySend (.hostEvent envelope.hostname envelope.rolloutId envelope.event.toEvent) with
    | some sv => (sv, .noContent)
    | none => (sv, .serviceUnavailable)

/-- `heartbeat`; an accepted one is answered by the reducer. -/
def Server.heartbeat (sv : Server) (machineId : HostId) (hb : Heartbeat) :
    Server × Option AgentStatusCode :=
  if machineId ≠ hb.host then (sv, some .forbidden)
  else
    match sv.trySend (.heartbeatReceived hb) with
    | some sv => (sv, none)
    | none => (sv, some .serviceUnavailable)

/-- What makes the server take a step: its start, a request, the manifest poller, the reducer's
next input, its ticker, and the steps of the other tasks. -/
inductive ServerEvent where
  | serve
  | events (machineId : HostId) (envelope : AgentEventEnvelope)
  | heartbeat (machineId : HostId) (heartbeat : Heartbeat)
  | manifestPoll (set : SignedManifestSet)
  | recv
  | planTicker
  | restart
  | pruneSweep
  | takeDispatch (host : HostId)

/-- An event, with what its step reads from the outside. -/
structure ServerInput where
  event : ServerEvent
  now : Time
  order : MapOrders
  rank : RolloutId → Nat
  faults : Faults

/-- An input with stored orders and no failing statement. -/
def ServerInput.plain (event : ServerEvent) : ServerInput :=
  ⟨event, 0, .stored, fun _ => 0, noFaults⟩

/-- The step of the control plane under the input's surroundings. -/
def ServerInput.cpInput (i : ServerInput) (event : CpEvent) : CpInput :=
  ⟨event, i.now, i.order, i.rank, i.faults⟩

inductive ServerOutput where
  | answered (status : AgentStatusCode)
  | cp (output : CpOutput)

/-- A step of the control plane. -/
def Server.step (sv : Server) (i : CpInput) : Server × List ServerOutput :=
  ({ sv with cp := (cpStep sv.cp i).1 }, (cpStep sv.cp i).2.map .cp)

def serverStep (sv : Server) (i : ServerInput) : Server × List ServerOutput :=
  match i.event with
  | .serve => ({ sv with inputs := sv.inputs.or (some []) }, [])
  | .events machineId envelope =>
      let r := sv.events i.faults machineId envelope
      (r.1, [.answered r.2])
  | .heartbeat machineId hb =>
      let r := sv.heartbeat machineId hb
      (r.1, r.2.toList.map .answered)
  | .manifestPoll set =>
      -- the poller waits for room in the channel
      ((sv.trySend (.manifestSetUpdated set)).getD sv, [])
  | .recv =>
      match sv.inputs with
      | some (input :: rest) => Server.step { sv with inputs := some rest } (i.cpInput input.event)
      | _ => (sv, [])
  | .planTicker => sv.step (i.cpInput .planTick)
  | .restart => Server.step { sv with inputs := none } (i.cpInput .restart)
  | .pruneSweep => sv.step (i.cpInput .pruneSweep)
  | .takeDispatch host => sv.step (i.cpInput (.takeDispatch host))

/-- The server as a machine. -/
def serverMachine : Machine Server ServerInput ServerOutput := ⟨serverStep⟩

/-! ## The control plane's part -/

/-- What a step of the server hands to the control plane. -/
def Server.handled (sv : Server) (i : ServerInput) : List CpInput :=
  match i.event with
  | .recv =>
      match sv.inputs with
      | some (input :: _) => [i.cpInput input.event]
      | _ => []
  | .planTicker => [i.cpInput .planTick]
  | .restart => [i.cpInput .restart]
  | .pruneSweep => [i.cpInput .pruneSweep]
  | .takeDispatch host => [i.cpInput (.takeDispatch host)]
  | .serve | .events .. | .heartbeat .. | .manifestPoll _ => []

theorem handled_cases (sv : Server) (i : ServerInput) :
    sv.handled i = [] ∨ ∃ c, sv.handled i = [c] := by
  unfold Server.handled
  split
  · split
    · exact .inr ⟨_, rfl⟩
    · exact .inl rfl
  · exact .inr ⟨_, rfl⟩
  · exact .inr ⟨_, rfl⟩
  · exact .inr ⟨_, rfl⟩
  · exact .inr ⟨_, rfl⟩
  all_goals exact .inl rfl

theorem trySend_cp {sv sv' : Server} {input : CpReducerInput}
    (h : sv.trySend input = some sv') : sv'.cp = sv.cp := by
  obtain ⟨inputs, -, hroom⟩ := Option.bind_eq_some_iff.mp h
  split at hroom
  · cases hroom
    rfl
  · cases hroom

/-- A step of the server is a run of the control plane. -/
theorem serverStep_cp (sv : Server) (i : ServerInput) :
    (serverStep sv i).1.cp = cpMachine.run sv.cp (sv.handled i) := by
  unfold serverStep Server.handled
  cases i.event with
  | serve => rfl
  | events machineId envelope =>
      show (sv.events i.faults machineId envelope).1.cp = sv.cp
      unfold Server.events
      split
      · rfl
      · split
        · rfl
        · split
          · rename_i hsend
            exact trySend_cp hsend
          · rfl
  | heartbeat machineId hb =>
      show (sv.heartbeat machineId hb).1.cp = sv.cp
      unfold Server.heartbeat
      split
      · rfl
      · split
        · rename_i hsend
          exact trySend_cp hsend
        · rfl
  | manifestPoll set =>
      show ((sv.trySend (.manifestSetUpdated set)).getD sv).cp = sv.cp
      cases hsend : sv.trySend (.manifestSetUpdated set) with
      | none => rfl
      | some sv' => exact trySend_cp hsend
  | recv =>
      dsimp only
      split <;> rfl
  | planTicker | restart | pruneSweep | takeDispatch host => rfl

/-- The outputs of the control plane are those of its part of the step. -/
theorem mem_serverStep_cp {sv : Server} {i : ServerInput} {o : CpOutput}
    (h : .cp o ∈ (serverStep sv i).2) : ∃ c ∈ sv.handled i, o ∈ (cpStep sv.cp c).2 := by
  have hstep : ∀ {sv' : Server} {c : CpInput}, .cp o ∈ (sv'.step c).2 →
      o ∈ (cpStep sv'.cp c).2 := by
    intro sv' c hmem
    obtain ⟨o', ho', heq⟩ := List.mem_map.mp hmem
    cases heq
    exact ho'
  cases hevent : i.event with
  | serve | manifestPoll =>
      simp only [serverStep, hevent] at h
      cases h
  | events machineId envelope =>
      simp only [serverStep, hevent, List.mem_singleton, reduceCtorEq] at h
  | heartbeat machineId hb =>
      simp only [serverStep, hevent, List.mem_map, reduceCtorEq, and_false, exists_false] at h
  | recv =>
      simp only [serverStep, hevent] at h
      cases hinputs : sv.inputs with
      | none =>
          rw [hinputs] at h
          cases h
      | some inputs =>
          rw [hinputs] at h
          cases inputs with
          | nil => cases h
          | cons input rest =>
              refine ⟨i.cpInput input.event, ?_, hstep h⟩
              simp [Server.handled, hevent, hinputs]
  | planTicker | restart | pruneSweep | takeDispatch host =>
      simp only [serverStep, hevent] at h
      exact ⟨_, by simp [Server.handled, hevent], hstep h⟩

/-! ## The reducer's channel -/

/-- What waits in the channel. -/
def Server.channel (sv : Server) : List CpReducerInput := sv.inputs.getD []

/-- What a step may put into the channel. -/
def ServerEvent.posts : ServerEvent → Option CpReducerInput
  | .events _ envelope =>
      some (.hostEvent envelope.hostname envelope.rolloutId envelope.event.toEvent)
  | .heartbeat _ hb => some (.heartbeatReceived hb)
  | .manifestPoll set => some (.manifestSetUpdated set)
  | _ => none

theorem trySend_channel {sv sv' : Server} {input : CpReducerInput}
    (h : sv.trySend input = some sv') : sv'.channel = sv.channel ++ [input] := by
  obtain ⟨inputs, hinputs, hroom⟩ := Option.bind_eq_some_iff.mp h
  split at hroom
  · cases hroom
    simp [Server.channel, hinputs]
  · cases hroom

/-- **What a step does to the channel.** Something is put at its end, the reducer takes its head,
a restart loses it, or it stays. -/
theorem serverStep_channel (sv : Server) (i : ServerInput) :
    (serverStep sv i).1.channel = sv.channel ∨
      (∃ input, i.event.posts = some input ∧
        (serverStep sv i).1.channel = sv.channel ++ [input]) ∨
      (i.event = .recv ∧ ∃ input, sv.channel = input :: (serverStep sv i).1.channel ∧
        sv.handled i = [i.cpInput input.event]) ∨
      (i.event = .restart ∧ (serverStep sv i).1.channel = []) := by
  cases hevent : i.event with
  | serve =>
      left
      simp only [serverStep, hevent, Server.channel]
      cases sv.inputs <;> rfl
  | events machineId envelope =>
      simp only [serverStep, hevent, Server.events, ServerEvent.posts]
      split
      · exact .inl rfl
      · split
        · exact .inl rfl
        · split
          · rename_i hsend
            exact .inr (.inl ⟨_, rfl, trySend_channel hsend⟩)
          · exact .inl rfl
  | heartbeat machineId hb =>
      simp only [serverStep, hevent, Server.heartbeat, ServerEvent.posts]
      split
      · exact .inl rfl
      · split
        · rename_i hsend
          exact .inr (.inl ⟨_, rfl, trySend_channel hsend⟩)
        · exact .inl rfl
  | manifestPoll set =>
      simp only [serverStep, hevent, ServerEvent.posts]
      cases hsend : sv.trySend (.manifestSetUpdated set) with
      | none => exact .inl rfl
      | some sv' => exact .inr (.inl ⟨_, rfl, trySend_channel hsend⟩)
  | recv =>
      cases hinputs : sv.inputs with
      | none => exact .inl (by simp [serverStep, hevent, hinputs])
      | some inputs =>
          cases inputs with
          | nil => exact .inl (by simp [serverStep, hevent, hinputs])
          | cons input rest =>
              refine .inr (.inr (.inl ⟨rfl, input, ?_, ?_⟩))
              · simp [Server.channel, serverStep, hevent, hinputs, Server.step]
              · simp [Server.handled, hevent, hinputs]
  | restart => exact .inr (.inr (.inr ⟨rfl, by simp [serverStep, hevent, Server.channel,
      Server.step]⟩))
  | planTicker | pruneSweep | takeDispatch host =>
      exact .inl (by simp [serverStep, hevent, Server.channel, Server.step])

/-! ## Acknowledged events -/

/-- The acknowledged event that a step settles: the route discards it as a duplicate, or the
reducer takes it from its channel. -/
def Server.settled (sv : Server) (i : ServerInput) : Option (HostId × RolloutId × Event) :=
  match i.event with
  | .events machineId envelope =>
      if machineId = envelope.hostname ∧ sv.isDuplicate i.faults envelope = true then
        some (envelope.hostname, envelope.rolloutId, envelope.event.toEvent)
      else none
  | .recv =>
      match sv.inputs with
      | some (.hostEvent host rid event :: _) => some (host, rid, event)
      | _ => none
  | _ => none

/-- **What an acknowledgement says.** The event is settled at once, as a duplicate, or waits in the
channel. -/
theorem events_noContent {sv : Server} {faults : Faults} {machineId : HostId}
    {envelope : AgentEventEnvelope} (h : (sv.events faults machineId envelope).2 = .noContent) :
    machineId = envelope.hostname ∧ (sv.isDuplicate faults envelope = true ∨
      ∃ inputs, sv.inputs = some inputs ∧ (sv.events faults machineId envelope).1.inputs =
        some (inputs ++ [.hostEvent envelope.hostname envelope.rolloutId
          envelope.event.toEvent])) := by
  unfold Server.events at h ⊢
  split at h
  · cases h
  · rename_i hname
    rw [if_neg hname]
    refine ⟨not_not.mp hname, ?_⟩
    split at h
    · rename_i hdup
      exact .inl hdup
    · rename_i hdup
      rw [if_neg hdup]
      cases hinputs : sv.inputs with
      | none => simp [Server.trySend, hinputs] at h
      | some inputs =>
          by_cases hroom : inputs.length < reducerInputCapacity
          · exact .inr ⟨inputs, rfl, by simp [Server.trySend, hinputs, hroom]⟩
          · simp [Server.trySend, hinputs, hroom] at h

/-- The event is one of those that were applied to the record. -/
def Db.HasApplied (db : Db) (host : HostId) (rid : RolloutId) (event : Event) : Prop :=
  ∃ payload ∈ db.appliedEvents host rid, event.logged? = some payload

/-- Every acknowledged event that is legal for its record when it is settled, its number left out,
had been applied to the record, or is applied now. -/
def AckedApplied (sv : Server) (i : ServerInput) : Prop :=
  ∀ host rid event prior policy, sv.settled i = some (host, rid, event) →
    sv.cp.db.loadRecord rid host = some prior → prior.Legal event policy →
    (event.seq ≤ prior.lastEventSeq ∧ sv.cp.db.HasApplied host rid event) ∨
    ∃ policy next effects, hostStep prior event policy = .ok (next, effects) ∧
      (serverStep sv i).1.cp.db.loadRecord rid host = some next

/-- An event with the number or a later one was applied, and this one was not. -/
def Db.Overtaken (db : Db) (host : HostId) (rid : RolloutId) (event : Event) : Prop :=
  (∃ later ∈ db.appliedEvents host rid, event.seq ≤ later.seq) ∧ ¬ db.HasApplied host rid event

/-- Nothing keeps the reducer from applying an event to a record: the number is one an agent gives
and was not overtaken, and a new number finds a policy and statements that succeed. -/
structure Admitted (cp : Cp) (faults : Faults) (host : HostId) (rid : RolloutId) (event : Event)
    (prior : HostRolloutState) : Prop where
  numbered : 0 < event.seq
  ahead : event.seq ≤ prior.lastEventSeq → ¬ cp.db.Overtaken host rid event
  policy : prior.lastEventSeq < event.seq →
    ∃ m policy, cp.rs.manifests = some m ∧ resolvePolicy m prior.channel = some policy
  loads : prior.lastEventSeq < event.seq → faults (.loadRecord rid host event.seq) = false
  stores : prior.lastEventSeq < event.seq → faults (.upsertRecord rid host event.seq) = false

/-- Every acknowledged event that is legal for its record when it is settled is admitted. -/
def AckedAdmitted (sv : Server) (i : ServerInput) : Prop :=
  ∀ host rid event prior policy, sv.settled i = some (host, rid, event) →
    sv.cp.db.loadRecord rid host = some prior → prior.Legal event policy →
    Admitted sv.cp i.faults host rid event prior

section Step

variable {rs : ReducerState} {now : Time} {faults : Faults} {db : Db} {host : HostId}
  {rid : RolloutId} {event : Event} {prior : HostRolloutState}

/-- A host event that changes its record met no reason to drop it. -/
theorem admitted_of_changed (hload : db.loadRecord rid host = some prior)
    (h : (handleHostEvent rs now faults db host rid event).loadRecord rid host ≠ some prior) :
    (∃ m policy, rs.manifests = some m ∧ resolvePolicy m prior.channel = some policy) ∧
      faults (.loadRecord rid host event.seq) = false ∧
      faults (.upsertRecord rid host event.seq) = false := by
  unfold handleHostEvent at h
  split at h
  · exact absurd hload h
  · rename_i hloads
    simp only [hload] at h
    split at h
    · exact absurd hload h
    · split at h
      · exact absurd hload h
      · rename_i m hm
        split at h
        · exact absurd hload h
        · rename_i policy hp
          split at h
          · exact absurd hload h
          · split at h
            · exact absurd hload h
            · rename_i hstores
              exact ⟨⟨m, policy, hm, hp⟩, by simpa using hloads, by simpa using hstores⟩

end Step

/-- What holds of a server in every run: the numbers of the records are those of applied events,
and only agents' events wait in the channel. -/
structure Server.Sound (sv : Server) : Prop where
  numbers : sv.cp.db.NumbersApplied
  remote : ∀ inputs, sv.inputs = some inputs → ∀ host rid event,
    .hostEvent host rid event ∈ inputs → event.isLocal = false

section Sound

variable {sv : Server} {i : ServerInput}

@[simp] theorem isLocal_toEvent (e : AgentEvent) : e.toEvent.isLocal = false := by
  cases e <;> rfl

theorem Server.Sound.trySend {sv' : Server} {input : CpReducerInput} (h : sv.Sound)
    (hinput : ∀ host rid event, input = .hostEvent host rid event → event.isLocal = false)
    (hsend : sv.trySend input = some sv') : sv'.Sound := by
  obtain ⟨inputs, hinputs, hroom⟩ := Option.bind_eq_some_iff.mp hsend
  split at hroom
  · cases hroom
    refine ⟨h.numbers, ?_⟩
    rintro _ ⟨⟩ host rid event hmem
    rcases List.mem_append.mp hmem with hold | hnew
    · exact h.remote inputs hinputs host rid event hold
    · exact hinput host rid event (List.mem_singleton.mp hnew).symm
  · cases hroom

/-- A step of the control plane, with what is left in the channel. -/
theorem Server.Sound.step {c : CpInput} (h : sv.Sound)
    (hremote : ∀ host rid event, c.event = .hostEvent host rid event → event.isLocal = false) :
    (sv.step c).1.Sound :=
  ⟨cpStep_numbersApplied hremote h.numbers, h.remote⟩

theorem serverStep_sound (h : sv.Sound) (i : ServerInput) : (serverStep sv i).1.Sound := by
  unfold serverStep
  split
  · -- the channel starts empty
    refine ⟨h.numbers, ?_⟩
    intro inputs hinputs host rid event hmem
    cases hold : sv.inputs with
    | none =>
        rw [hold] at hinputs
        cases hinputs
        cases hmem
    | some old =>
        rw [hold] at hinputs
        cases hinputs
        exact h.remote _ hold host rid event hmem
  · rename_i machineId envelope _
    unfold Server.events
    split
    · exact h
    · split
      · exact h
      · split
        · rename_i hsend
          refine h.trySend ?_ hsend
          rintro host rid event ⟨⟩
          exact isLocal_toEvent _
        · exact h
  · unfold Server.heartbeat
    split
    · exact h
    · split
      · rename_i hsend
        refine h.trySend ?_ hsend
        rintro host rid event ⟨⟩
      · exact h
  · rename_i set _
    cases hsend : sv.trySend (.manifestSetUpdated set) with
    | none => exact h
    | some sv' =>
        refine h.trySend ?_ hsend
        rintro host rid event ⟨⟩
  · split
    · rename_i input rest hinputs
      have hrest : Server.Sound { sv with inputs := some rest } := by
        refine ⟨h.numbers, ?_⟩
        rintro _ ⟨⟩ host rid event hmem
        exact h.remote _ hinputs host rid event (List.mem_cons_of_mem _ hmem)
      refine hrest.step ?_
      intro host rid event hevent
      cases input with
      | hostEvent host' rid' event' =>
          cases hevent
          exact h.remote _ hinputs host rid event List.mem_cons_self
      | manifestSetUpdated | heartbeatReceived | planTick => cases hevent
    · exact h
  · refine h.step ?_
    rintro host rid event ⟨⟩
  · -- a restart loses what waits in the channel
    have hempty : Server.Sound { sv with inputs := none } := by
      refine ⟨h.numbers, ?_⟩
      rintro inputs ⟨⟩
    refine hempty.step ?_
    rintro host rid event ⟨⟩
  · refine h.step ?_
    rintro host rid event ⟨⟩
  · refine h.step ?_
    rintro host rid event ⟨⟩

theorem Server.initial_sound : Server.initial.Sound := by
  refine ⟨⟨?_, ?_, ?_⟩, ?_⟩
  · intro rid host r hr
    cases hr
  · intro rid host r hr
    cases hr
  · intro rid host payload hmem
    cases hmem
  · intro inputs hinputs
    cases hinputs

/-- A settled event is a duplicate, or the step runs `handle_host_event` on it. -/
theorem settled_cases {host : HostId} {rid : RolloutId} {event : Event} {prior : HostRolloutState}
    (hsettled : sv.settled i = some (host, rid, event))
    (hload : sv.cp.db.loadRecord rid host = some prior) :
    event.seq ≤ prior.lastEventSeq ∨ (serverStep sv i).1.cp.db =
      handleHostEvent sv.cp.rs i.now i.faults sv.cp.db host rid event := by
  unfold Server.settled at hsettled
  split at hsettled
  · split at hsettled
    · rename_i hdup
      cases hsettled
      have hstale := hdup.2
      simp only [Server.isDuplicate, hload, Option.any_some, Bool.and_eq_true,
        decide_eq_true_eq] at hstale
      left
      rw [seq_toEvent]
      exact hstale.2
    · cases hsettled
  · rename_i hevent
    split at hsettled
    · rename_i rest hinputs
      cases hsettled
      right
      simp only [serverStep, hevent, hinputs]
      rfl
    · cases hsettled
  · cases hsettled

/-- **One settled event.** A legal event is applied iff it is admitted. -/
theorem applied_iff_admitted {host : HostId} {rid : RolloutId} {event : Event}
    {prior : HostRolloutState} {policy : RolloutPolicy} (h : sv.Sound)
    (hsettled : sv.settled i = some (host, rid, event))
    (hload : sv.cp.db.loadRecord rid host = some prior) (hlegal : prior.Legal event policy) :
    ((event.seq ≤ prior.lastEventSeq ∧ sv.cp.db.HasApplied host rid event) ∨
      ∃ policy next effects, hostStep prior event policy = .ok (next, effects) ∧
        (serverStep sv i).1.cp.db.loadRecord rid host = some next) ↔
    Admitted sv.cp i.faults host rid event prior := by
  by_cases hstale : event.seq ≤ prior.lastEventSeq
  · have hnot : ¬ prior.lastEventSeq < event.seq := by omega
    constructor
    · rintro (⟨-, happlied⟩ | ⟨policy', next, effects, hstep, -⟩)
      · obtain ⟨payload, hmem, hpayload⟩ := happlied
        refine ⟨?_, fun _ hover => hover.2 ⟨payload, hmem, hpayload⟩, fun hlt => absurd hlt hnot,
          fun hlt => absurd hlt hnot, fun hlt => absurd hlt hnot⟩
        rw [← seq_logged hpayload]
        exact h.numbers.positive rid host payload hmem
      · exact absurd (hostStep_seq_lt hstep) hnot
    · intro hadm
      refine .inl ⟨hstale, ?_⟩
      -- the record's last number belongs to an applied event, which did not overtake this one
      by_contra hmissing
      have hnum := hadm.numbered
      rcases h.numbers.last rid host prior hload with hzero | ⟨last, hmem, hlast⟩
      · omega
      · exact hadm.ahead hstale ⟨⟨last, hmem, by omega⟩, hmissing⟩
  · have hlt : prior.lastEventSeq < event.seq := by omega
    have hrun := (settled_cases hsettled hload).resolve_left hstale
    rw [hrun]
    constructor
    · rintro (⟨hle, -⟩ | ⟨policy', next, effects, hstep, hnext⟩)
      · exact absurd hle hstale
      · have hchanged : (handleHostEvent sv.cp.rs i.now i.faults sv.cp.db host rid
            event).loadRecord rid host ≠ some prior := by
          rw [hnext]
          rintro ⟨⟩
          exact absurd (hostStep_spec hstep).seq (by omega)
        obtain ⟨hpolicy, hloads, hstores⟩ := admitted_of_changed hload hchanged
        exact ⟨by omega, fun hle => absurd hle hstale, fun _ => hpolicy, fun _ => hloads,
          fun _ => hstores⟩
    · intro hadm
      obtain ⟨m, policy', hm, hp⟩ := hadm.policy hlt
      have hok := hlegal.of_policy policy'
      unfold HostRolloutState.Legal at hok
      rw [← hostStep_of_seq_lt hlt] at hok
      cases hstep : hostStep prior event policy' with
      | error err =>
          rw [hstep] at hok
          cases hok
      | ok out =>
          exact .inr ⟨policy', out.1, out.2, hstep, handleHostEvent_moves h.numbers.keyed hload
            hlt hm hp hstep (hadm.loads hlt) (hadm.stores hlt)⟩

end Sound

/-- **Acknowledged means applied, where nothing is in the way.** In every run, the acknowledged
events that are legal for their records are all applied iff they are all admitted. -/
theorem acked_applied_iff (is : List ServerInput) :
    serverMachine.Meets AckedApplied .initial is ↔
      serverMachine.Meets AckedAdmitted .initial is := by
  refine serverMachine.meets_congr_of_invariant (P := Server.Sound)
    (fun sv i _ hsv _ => serverStep_sound hsv i) ?_ Server.initial_sound
  intro sv i _ hsv
  constructor
  · intro happlied host rid event prior policy hsettled hload hlegal
    exact (applied_iff_admitted hsv hsettled hload hlegal).mp
      (happlied host rid event prior policy hsettled hload hlegal)
  · intro hadmitted host rid event prior policy hsettled hload hlegal
    exact (applied_iff_admitted hsv hsettled hload hlegal).mpr
      (hadmitted host rid event prior policy hsettled hload hlegal)

/-- A rollout of one host is opened. -/
def openedServer : List ServerInput :=
  [.plain .serve,
   .plain (.manifestPoll (stableManifests
     (stableFleet "r1" [("host", "new")] ⟨"all-at-once", [], .halt⟩ [] [] []))),
   .plain .recv]

/-- An event that the host posts. -/
def postedBy (host : HostId) (event : AgentEvent) : ServerInput :=
  .plain (.events host ⟨host, .new "stable" "r1", event⟩)

/-- The acknowledgement of a dispatch reaches a server that has restarted and has no manifests. -/
def coldServer : List ServerInput :=
  openedServer ++ [.plain .restart, .plain .serve, postedBy "host" (.dispatchAck "old" 1 1)]

/-- A heartbeat waits in the channel before an event of the number that it synthesizes. -/
def racingServer : List ServerInput :=
  openedServer ++ [postedBy "host" (.dispatchAck "old" 1 1), .plain .recv,
    .plain (.heartbeat "host" ⟨"host", some (.new "stable" "r1"), some "new", 2⟩),
    postedBy "host" (.probeTopologyDeclared [] 2 2), .plain .recv]

set_option maxRecDepth 4000 in
theorem posted_dropped :
    ¬ serverMachine.Meets AckedApplied .initial (coldServer ++ [.plain .recv]) ∧
      ¬ serverMachine.Meets AckedApplied .initial (racingServer ++ [.plain .recv]) := by
  constructor
  · intro h
    have hstep := h.at_step
    rcases hstep "host" (.new "stable" "r1") (.remoteDispatchAck "old" 1 1) _
      (plainPolicy .halt) rfl rfl rfl with ⟨hstale, -⟩ | ⟨policy, next, effects, hok, hnext⟩
    · exact absurd hstale (by decide)
    · have hseq := (hostStep_spec hok).seq
      cases hnext
      exact absurd hseq (by decide)
  · intro h
    have hstep := h.at_step
    rcases hstep "host" (.new "stable" "r1") (.remoteProbeTopologyDeclared [] 2 2) _
      (plainPolicy .halt) rfl rfl rfl with ⟨-, payload, hmem, hpayload⟩ |
        ⟨policy, next, effects, hok, hnext⟩
    · cases hpayload
      exact absurd hmem (by decide)
    · have hlt := hostStep_seq_lt hok
      exact absurd hlt (by decide)

end Nixfleet
