import Nixfleet.Lib.Machine
import Nixfleet.ControlPlane.Heartbeat

set_option autoImplicit false

/-!
# Control-plane runs

The control plane as a `Machine`: its state is the database and the reducer's memory, its
inputs are everything that can make it take a step (the reducer's inputs, a process restart,
the hourly sweep and a dispatch poll), and its outputs are what it decides to the outside: the
actions of a plan tick, delivered dispatches and heartbeat replies.
-/

namespace Nixfleet

/-- The control plane's state. -/
structure Cp where
  db : Db
  rs : ReducerState

/-- A fresh control plane. -/
def Cp.initial : Cp := ⟨Db.empty, ReducerState.initial⟩

/-- `FINISHED_ROLLOUTS_RETENTION_HOURS`. -/
def finishedRolloutsRetentionHours : Int := 24 * 90

/-- What can make the control plane take a step. The first four are the `ReducerInput`s. -/
inductive CpEvent where
  | hostEvent (host : HostId) (rolloutId : RolloutId) (event : Event)
  | manifestSetUpdated (set : SignedManifestSet)
  | heartbeatReceived (heartbeat : Heartbeat)
  | planTick
  | restart
  | pruneSweep
  | takeDispatch (host : HostId)

/-- An event, with what its step reads from the outside: the clock, the iteration orders of
the hash maps, the order of equal timestamps in the queue, the statements that fail. -/
structure CpInput where
  event : CpEvent
  now : Time
  order : MapOrders
  rank : RolloutId → Nat
  faults : Faults

/-- An input with stored orders and no failing statement. -/
def CpInput.plain (event : CpEvent) (now : Time) : CpInput :=
  ⟨event, now, .stored, fun _ => 0, noFaults⟩

inductive CpOutput where
  | planned (fleetState : FleetState) (action : PlanAction)
  | delivered (dispatch : QueuedDispatch)
  | replied (host : HostId) (reply : HeartbeatReply)

/-- The manifests the reducer holds while it handles an input. -/
def Cp.manifestsAt (cp : Cp) (i : CpInput) : Option SignedManifestSet :=
  match i.event with
  | .manifestSetUpdated set => some set
  | _ => cp.rs.manifests

/-- The plan tick that a step runs, if it runs one that plans. -/
def Cp.plan (cp : Cp) (i : CpInput) : Option Plan :=
  match i.event with
  | .manifestSetUpdated set =>
      planOf { cp.rs with manifests := some set } i.order i.now i.faults cp.db
  | .planTick => planOf cp.rs i.order i.now i.faults cp.db
  | _ => none

/-- The outputs of a plan tick. -/
def planOutputs : Option Plan → List CpOutput
  | none => []
  | some plan => plan.actions.map (.planned plan.fleetState)

/-- `handle_input`, and the steps of the other tasks. -/
def cpStep (cp : Cp) (i : CpInput) : Cp × List CpOutput :=
  match i.event with
  | .hostEvent host rid event =>
      ({ cp with db := handleHostEvent cp.rs i.now i.faults cp.db host rid event }, [])
  | .manifestSetUpdated set =>
      let rs := { cp.rs with manifests := some set }
      (⟨runPlan rs i.order i.now i.faults cp.db, rs⟩, planOutputs (cp.plan i))
  | .heartbeatReceived hb =>
      let rs := { cp.rs with lastHeartbeatAt := cp.rs.lastHeartbeatAt.insert hb.host hb.sentAt }
      let r := handleHeartbeat rs i.order i.now i.faults cp.db hb
      (⟨r.1, rs⟩, [.replied hb.host r.2])
  | .planTick =>
      ({ cp with db := runPlan cp.rs i.order i.now i.faults cp.db }, planOutputs (cp.plan i))
  | .restart => ({ cp with rs := ReducerState.initial }, [])
  | .pruneSweep =>
      ({ cp with
          db := cp.db.pruneFinishedRollouts (i.now - hours finishedRolloutsRetentionHours) }, [])
  | .takeDispatch host =>
      let r := cp.db.takeForHost i.rank host
      ({ cp with db := r.2 }, r.1.toList.map .delivered)

/-- The control plane as a machine. -/
def cpMachine : Machine Cp CpInput CpOutput := ⟨cpStep⟩

end Nixfleet
