import Nixfleet.Host.Snapshot
import Nixfleet.Host.Step
import Nixfleet.Proto.RolloutId

set_option autoImplicit false

/-!
# The agent's reducer task

The reducer is the only caller of the host state machine on the agent. It holds the records of
the host's rollouts and the cached manifests, and reads one input at a time: the event of a
worker, a tick, refreshed manifests, or a snapshot of the control plane. Workers emit events
with sequence number 0 and the reducer numbers them.
-/

namespace Nixfleet

/-- What the reducer task holds. -/
structure AgentReducer where
  hostStates : Table RolloutId HostRolloutState
  manifests : Option SignedManifestSet

inductive ReducerInput where
  | hostEvent (rolloutId : RolloutId) (event : Event)
  | agentAdvanceTick
  | manifestSetUpdated (set : SignedManifestSet)
  | bootstrapHost (snapshot : HostRolloutSnapshot)

/-- The orders in which the hasher lists the rollouts and the probes. -/
structure AgentOrders where
  rollouts : RolloutId → Nat
  probes : String → Nat

/-- `SUSTAINED_FAILURE_THRESHOLD_SECS`. -/
def sustainedFailureThresholdSecs : Int := 120

/-- `Duration::num_seconds`. -/
def numSeconds (d : Int) : Int := d.tdiv 1000000000

/-! ## Events -/

/-- `bootstrap_pending_state`: the record of a rollout that the agent hears of first. -/
def bootstrapPendingState (rid : RolloutId) (targetClosure : ClosureHash) (soakDueAt now : Time) :
    HostRolloutState :=
  .newPending rid "self" rid.channel targetClosure now soakDueAt

/-- The agent's `resolve_policy`. -/
def AgentReducer.resolvePolicy (r : AgentReducer) (channel : ChannelId) : Option RolloutPolicy :=
  r.manifests.bind fun m =>
    (m.fleet.channels.lookup channel).bind fun c => m.fleet.rolloutPolicies.lookup c.rolloutPolicy

/-- `with_seq`. A deferred activation falls under the source's last arm and keeps its number. -/
def withSeq (e : Event) (seq : Nat) : Event :=
  match e with
  | .localActivate prior target receivedAt soakDueAt _ =>
      .localActivate prior target receivedAt soakDueAt seq
  | .localActivationStarted startedAt method _ => .localActivationStarted startedAt method seq
  | .localActivationCompleted observed exitCode completedAt _ =>
      .localActivationCompleted observed exitCode completedAt seq
  | .localActivationFailed exitCode stderrTail failedAt _ =>
      .localActivationFailed exitCode stderrTail failedAt seq
  | .localProbeObservedFirst name mode observedAt _ =>
      .localProbeObservedFirst name mode observedAt seq
  | .localProbeResult name mode status observedAt reason subResults _ =>
      .localProbeResult name mode status observedAt reason subResults seq
  | .localProbeFailureFirst name mode firstFailedAt _ =>
      .localProbeFailureFirst name mode firstFailedAt seq
  | .localSustainedFailureCrossed failedAt secs failing policyApplied _ =>
      .localSustainedFailureCrossed failedAt secs failing policyApplied seq
  | .localRollbackCompleted revertedTo exitCode completedAt _ =>
      .localRollbackCompleted revertedTo exitCode completedAt seq
  | .localConvergedReached convergedAt current _ => .localConvergedReached convergedAt current seq
  | .localProbeTopologyDeclared probes declaredAt _ =>
      .localProbeTopologyDeclared probes declaredAt seq
  | e => e

/-- The record an event is for: the one there is, or a fresh one for a first dispatch. -/
def AgentReducer.recordFor (r : AgentReducer) (now : Time) (rid : RolloutId) (event : Event) :
    Option HostRolloutState :=
  match r.hostStates.lookup rid, event with
  | some s, _ => some s
  | none, .localActivate _ targetClosure _ soakDueAt _ =>
      some (bootstrapPendingState rid targetClosure soakDueAt now)
  | none, _ => none

/-- `run_host_event`: the next reducer and the effects of an accepted event. -/
def runHostEvent (now : Time) (r : AgentReducer) (rid : RolloutId) (event : Event) :
    AgentReducer × List Effect :=
  match r.recordFor now rid event with
  | none => (r, [])
  | some s =>
      match r.resolvePolicy s.channel with
      | none => (r, [])
      | some policy =>
          match hostStep s (withSeq event (s.lastEventSeq + 1)) policy with
          | .error _ => (r, [])
          | .ok (next, effects) => ({ r with hostStates := r.hostStates.insert rid next }, effects)

/-! ## The advance tick -/

/-- `collect_failing_enforce_probes`. -/
def collectFailingEnforceProbes (orders : AgentOrders) (probes : Table String ProbeRecord) :
    List String :=
  ((iterBy orders.probes probes.rows).filter fun p =>
    p.2.status = .fail ∧ p.2.mode = .enforce).map Prod.fst

/-- `all_enforce_probes_pass`. -/
def allEnforceProbesPass (probes : Table String ProbeRecord) : Bool :=
  (probes.rows.filter fun p => p.2.mode = .enforce).all fun p => p.2.status = .pass

/-- The fail gate of the tick: a failure that lasts the threshold. -/
def AgentReducer.failGate (r : AgentReducer) (orders : AgentOrders) (now : Time)
    (s : HostRolloutState) : Option Event :=
  match s.state, s.probeFailureFirstAt with
  | .soaking, some firstFailed =>
      let failing := collectFailingEnforceProbes orders s.probes
      if numSeconds (now - firstFailed) < sustainedFailureThresholdSecs ∨ failing.isEmpty then
        none
      else
        some (.localSustainedFailureCrossed now (numSeconds (now - firstFailed)).toNat failing
          (((r.resolvePolicy s.channel).map (·.onHealthFailure)).getD .halt) 0)
  | _, _ => none

/-- The pass gate of the tick: soaked on the target closure with passing probes. -/
def passGate (now : Time) (s : HostRolloutState) : Option Event :=
  match s.state, s.soakDueAt, s.currentClosure with
  | .soaking, some soakDueAt, some current =>
      if now < soakDueAt ∨ current ≠ s.targetClosure ∨ allEnforceProbesPass s.probes = false then
        none
      else some (.localConvergedReached now current 0)
  | _, _, _ => none

/-- The events that a tick synthesizes: all of the fail gate, then all of the pass gate. -/
def AgentReducer.advanceEvents (r : AgentReducer) (orders : AgentOrders) (now : Time) :
    List (RolloutId × Event) :=
  let records := iterBy orders.rollouts r.hostStates.rows
  records.filterMap (fun e => (r.failGate orders now e.2).map fun event => (e.1, event)) ++
    records.filterMap fun e => (passGate now e.2).map fun event => (e.1, event)

/-- `run_advance_tick`. -/
def runAdvanceTick (orders : AgentOrders) (now : Time) (r : AgentReducer) :
    AgentReducer × List Effect :=
  (r.advanceEvents orders now).foldl
    (fun acc e =>
      let out := runHostEvent now acc.1 e.1 e.2
      (out.1, acc.2 ++ out.2))
    (r, [])

/-! ## Snapshots -/

/-- `merge_snapshot_into_state`: what the snapshot does not carry is kept. -/
def mergeSnapshotIntoState (existing : Option HostRolloutState) (snapshot : HostRolloutSnapshot) :
    HostRolloutState where
  rolloutId := snapshot.rolloutId
  hostname := snapshot.hostname
  channel := snapshot.channel
  state := snapshot.state
  targetClosure := snapshot.targetClosure
  currentClosureAtDispatch := snapshot.currentClosureAtDispatch
  currentClosure := snapshot.currentClosure
  dispatchedAt := snapshot.dispatchedAt
  dispatchAckedAt := snapshot.dispatchAckedAt
  activationStartedAt := snapshot.activationStartedAt
  activationCompletedAt := snapshot.activationCompletedAt
  soakDueAt := snapshot.soakDueAt
  lastEventSeq := snapshot.lastEventSeq
  probes := (existing.map (·.probes)).getD ∅
  probeObservedFirstAt := existing.bind (·.probeObservedFirstAt)
  probeFailureFirstAt := existing.bind (·.probeFailureFirstAt)
  activationFailedAt := existing.bind (·.activationFailedAt)
  failedAt := existing.bind (·.failedAt)
  convergedAt := existing.bind (·.convergedAt)
  revertedTo := existing.bind (·.revertedTo)
  revertedAt := existing.bind (·.revertedAt)
  policyApplied := existing.bind (·.policyApplied)

/-- `apply_bootstrap_snapshot`. -/
def applyBootstrapSnapshot (r : AgentReducer) (snapshot : HostRolloutSnapshot) :
    AgentReducer × List Effect :=
  let record := mergeSnapshotIntoState (r.hostStates.lookup snapshot.rolloutId) snapshot
  ({ r with hostStates := r.hostStates.insert snapshot.rolloutId record },
    rehydrationEffects record)

/-- `handle_input`. -/
def handleInput (orders : AgentOrders) (now : Time) (r : AgentReducer) (input : ReducerInput) :
    AgentReducer × List Effect :=
  match input with
  | .hostEvent rid event => runHostEvent now r rid event
  | .agentAdvanceTick => runAdvanceTick orders now r
  | .manifestSetUpdated set => ({ r with manifests := some set }, [])
  | .bootstrapHost snapshot => applyBootstrapSnapshot r snapshot

end Nixfleet
