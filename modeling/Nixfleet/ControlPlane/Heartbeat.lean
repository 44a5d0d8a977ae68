import Nixfleet.ControlPlane.Reducer
import Nixfleet.Host.Snapshot

set_option autoImplicit false

/-!
# Heartbeats

A heartbeat that reports the running closure may stand in for events the control plane never
received: `handle_heartbeat` synthesizes them and feeds them through `handle_host_event`, then
answers with a replay position and, for an agent without a rollout, with snapshots.
-/

namespace Nixfleet

structure HeartbeatReply where
  replayFrom : Option Nat
  bootstrapRollouts : List HostRolloutSnapshot
deriving DecidableEq, Repr

/-- A heartbeat: the host, the rollout it works on, the closure it runs, the agent's clock. -/
structure Heartbeat where
  host : HostId
  rolloutId : Option RolloutId
  currentClosure : Option ClosureHash
  sentAt : Time
deriving DecidableEq, Repr

/-- `evaluate_synth_gates`: the block, if any, of the dispatch gates with an empty counter. A
fleet state that cannot be built blocks nothing. -/
def evaluateSynthGates (order : MapOrders) (faults : Faults) (db : Db)
    (manifests : SignedManifestSet) (quarantines : QuarantineSet) (record : HostRolloutState) :
    Option GateBlock :=
  (buildFleetState order faults db manifests).bind fun fs =>
    evaluateForDispatch fs manifests quarantines record.rolloutId record.hostname
      record.targetClosure record.channel fun _ => 0

/-- `synthesize_pending_to_converged`: acknowledge, complete and converge, with consecutive
sequence numbers; the convergence is stamped no earlier than the soak deadline. -/
def synthesizePendingToConverged (rs : ReducerState) (now : Time) (faults : Faults) (db : Db)
    (record : HostRolloutState) (agentCurrent : ClosureHash) (at' : Time) : Db :=
  let host := record.hostname
  let rid := record.rolloutId
  let db := handleHostEvent rs now faults db host rid
    (.remoteDispatchAck "" at' (record.lastEventSeq + 1))
  let db := handleHostEvent rs now faults db host rid
    (.remoteActivationCompleted agentCurrent 0 at' (record.lastEventSeq + 2))
  if faults (.loadAfterActivation rid host) then db
  else
    match db.loadRecord rid host with
    | none => db
    | some postActivation =>
        let convergedAt :=
          match postActivation.soakDueAt with
          | some soakDue => if soakDue > at' then soakDue else at'
          | none => at'
        handleHostEvent rs now faults db host rid
          (.remoteConverged convergedAt agentCurrent (record.lastEventSeq + 3))

/-- The loop body of `maybe_synthesize_recovery_completion`, for one active record as it was
when the records were read. -/
def synthesizeFor (rs : ReducerState) (order : MapOrders) (now : Time) (faults : Faults)
    (host : HostId) (agentCurrent : ClosureHash) (at' : Time) (db : Db)
    (record : HostRolloutState) : Db :=
  match record.state with
  | .activating | .deferred =>
      if record.targetClosure = agentCurrent then
        handleHostEvent rs now faults db host record.rolloutId
          (.remoteActivationCompleted agentCurrent 0 at' (record.lastEventSeq + 1))
      else db
  | .pending =>
      if record.targetClosure = agentCurrent then
        let gateBlock := rs.manifests.bind fun manifests =>
          evaluateSynthGates order faults db manifests rs.quarantines record
        if gateBlock.isSome then db
        else synthesizePendingToConverged rs now faults db record agentCurrent at'
      else db
  | .failed =>
      if record.currentClosureAtDispatch = some agentCurrent then
        handleHostEvent rs now faults db host record.rolloutId
          (.remoteRollbackComplete agentCurrent 0 at' (record.lastEventSeq + 1))
      else db
  | _ => db

/-- `maybe_synthesize_recovery_completion`. -/
def maybeSynthesizeRecoveryCompletion (rs : ReducerState) (order : MapOrders) (now : Time)
    (faults : Faults) (db : Db) (host : HostId) (agentCurrent : ClosureHash) (at' : Time) : Db :=
  if faults (.activeForHost host) then db
  else
    (db.activeForHost host).foldl
      (synthesizeFor rs order now faults host agentCurrent at') db

/-- `compute_replay_from`. -/
def computeReplayFrom (faults : Faults) (db : Db) (hb : Heartbeat) : Option Nat :=
  match hb.rolloutId, hb.currentClosure with
  | some rid, some agentClosure =>
      if faults (.loadForReplay rid hb.host) then none
      else
        match db.loadRecord rid hb.host with
        | none => none
        | some record =>
            if record.currentClosure = some agentClosure then none
            else some record.lastEventSeq
  | _, _ => none

/-- `build_bootstrap_for_host`. -/
def buildBootstrapForHost (faults : Faults) (db : Db) (host : HostId) :
    List HostRolloutSnapshot :=
  if faults (.bootstrapRecords host) then []
  else (db.activeForHost host).map (·.toSnapshot)

/-- `handle_heartbeat`: the database after the synthesis, and the reply. -/
def handleHeartbeat (rs : ReducerState) (order : MapOrders) (now : Time) (faults : Faults)
    (db : Db) (hb : Heartbeat) : Db × HeartbeatReply :=
  let db :=
    match hb.currentClosure with
    | some agentCurrent =>
        maybeSynthesizeRecoveryCompletion rs order now faults db hb.host agentCurrent hb.sentAt
    | none => db
  (db, ⟨computeReplayFrom faults db hb,
    if hb.rolloutId.isNone then buildBootstrapForHost faults db hb.host else []⟩)

end Nixfleet
