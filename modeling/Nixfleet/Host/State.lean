import Nixfleet.Proto.Fleet

set_option autoImplicit false

/-!
# Per-host rollout state, events and effects

The data of the host state machine (`nixfleet-state-machine`): the record of one host in one
rollout, the events that drive it and the effects a transition asks for. `Local*` events are
synthesized by the agent, `Remote*` events by the control plane; both drive one machine.
-/

namespace Nixfleet

inductive HostState where
  | pending
  | activating
  | deferred
  | soaking
  | converged
  | failed
  | reverted
deriving DecidableEq, Repr

inductive ProbeStatus where
  | pass
  | fail
deriving DecidableEq, Repr

inductive ProbeMode where
  | enforce
  | observe
  | disabled
deriving DecidableEq, Repr

structure ProbeSubResult where
  controlId : String
  status : ProbeStatus
  framework : String
  article : Option String
  effectiveMode : ProbeMode
  overrideReason : Option String
deriving DecidableEq, Repr

structure ProbeRecord where
  status : ProbeStatus
  mode : ProbeMode
  lastObservedAt : Time
  lastPassAt : Option Time
  failureReason : Option String
deriving DecidableEq, Repr

structure ProbeTopologyEntry where
  probeName : String
  kind : String
  mode : ProbeMode
deriving DecidableEq, Repr

/-- The record of one host in one rollout. -/
structure HostRolloutState where
  rolloutId : RolloutId
  hostname : HostId
  channel : ChannelId
  state : HostState
  targetClosure : ClosureHash
  currentClosureAtDispatch : Option ClosureHash
  currentClosure : Option ClosureHash
  revertedTo : Option ClosureHash
  dispatchedAt : Time
  dispatchAckedAt : Option Time
  activationStartedAt : Option Time
  activationCompletedAt : Option Time
  activationFailedAt : Option Time
  probeObservedFirstAt : Option Time
  probeFailureFirstAt : Option Time
  soakDueAt : Option Time
  convergedAt : Option Time
  failedAt : Option Time
  policyApplied : Option OnHealthFailure
  revertedAt : Option Time
  probes : Table String ProbeRecord
  lastEventSeq : Nat

/-- `HostRolloutState::new_pending`. -/
def HostRolloutState.newPending (rolloutId : RolloutId) (hostname : HostId) (channel : ChannelId)
    (targetClosure : ClosureHash) (dispatchedAt soakDueAt : Time) : HostRolloutState where
  rolloutId := rolloutId
  hostname := hostname
  channel := channel
  state := .pending
  targetClosure := targetClosure
  currentClosureAtDispatch := none
  currentClosure := none
  revertedTo := none
  dispatchedAt := dispatchedAt
  dispatchAckedAt := none
  activationStartedAt := none
  activationCompletedAt := none
  activationFailedAt := none
  probeObservedFirstAt := none
  probeFailureFirstAt := none
  soakDueAt := some soakDueAt
  convergedAt := none
  failedAt := none
  policyApplied := none
  revertedAt := none
  probes := ∅
  lastEventSeq := 0

/-! ## Events -/

/-- The payload of an activation or probe event; `Local*` and `Remote*` variants of one
event carry the same fields. -/
inductive Event where
  | localActivate (currentClosureAtDispatch targetClosure : ClosureHash)
      (receivedAt soakDueAt : Time) (seq : Nat)
  | localActivationStarted (startedAt : Time) (switchMethod : String) (seq : Nat)
  | localActivationCompleted (observedCurrentClosure : ClosureHash) (exitCode : Int)
      (completedAt : Time) (seq : Nat)
  | localActivationDeferred (component : String) (deferredAt : Time) (seq : Nat)
  | localActivationFailed (exitCode : Int) (stderrTail : String) (failedAt : Time) (seq : Nat)
  | localProbeTopologyDeclared (probes : List ProbeTopologyEntry) (declaredAt : Time) (seq : Nat)
  | localProbeObservedFirst (probeName : String) (mode : ProbeMode) (observedAt : Time) (seq : Nat)
  | localProbeResult (probeName : String) (mode : ProbeMode) (status : ProbeStatus)
      (observedAt : Time) (failureReason : Option String)
      (subResults : Option (List ProbeSubResult)) (seq : Nat)
  | localProbeFailureFirst (probeName : String) (mode : ProbeMode) (firstFailedAt : Time)
      (seq : Nat)
  | localSustainedFailureCrossed (failedAt : Time) (sustainedDurationSecs : Nat)
      (failingProbes : List String) (policyApplied : OnHealthFailure) (seq : Nat)
  | localRollbackCompleted (revertedToClosure : ClosureHash) (exitCode : Int)
      (completedAt : Time) (seq : Nat)
  | localConvergedReached (convergedAt : Time) (currentClosure : ClosureHash) (seq : Nat)
  | remoteDispatchAck (currentClosureAtDispatch : ClosureHash) (receivedAt : Time) (seq : Nat)
  | remoteActivationStarted (startedAt : Time) (switchMethod : String) (seq : Nat)
  | remoteActivationDeferred (component : String) (deferredAt : Time) (seq : Nat)
  | remoteActivationCompleted (observedCurrentClosure : ClosureHash) (exitCode : Int)
      (completedAt : Time) (seq : Nat)
  | remoteActivationFailed (exitCode : Int) (stderrTail : String) (failedAt : Time) (seq : Nat)
  | remoteProbeTopologyDeclared (probes : List ProbeTopologyEntry) (declaredAt : Time)
      (seq : Nat)
  | remoteProbeObservedFirst (probeName : String) (mode : ProbeMode) (observedAt : Time)
      (seq : Nat)
  | remoteProbeResult (probeName : String) (mode : ProbeMode) (status : ProbeStatus)
      (observedAt : Time) (failureReason : Option String)
      (subResults : Option (List ProbeSubResult)) (seq : Nat)
  | remoteProbeFailureFirst (probeName : String) (mode : ProbeMode) (firstFailedAt : Time)
      (seq : Nat)
  | remoteFailed (failedAt : Time) (sustainedDurationSecs : Nat) (failingProbes : List String)
      (policyApplied : OnHealthFailure) (seq : Nat)
  | remoteRollbackComplete (revertedToClosure : ClosureHash) (exitCode : Int)
      (completedAt : Time) (seq : Nat)
  | remoteConverged (convergedAt : Time) (currentClosure : ClosureHash) (seq : Nat)
deriving DecidableEq, Repr

/-- `Event::seq`. -/
def Event.seq : Event → Nat
  | .localActivate _ _ _ _ seq => seq
  | .localActivationStarted _ _ seq => seq
  | .localActivationCompleted _ _ _ seq => seq
  | .localActivationDeferred _ _ seq => seq
  | .localActivationFailed _ _ _ seq => seq
  | .localProbeTopologyDeclared _ _ seq => seq
  | .localProbeObservedFirst _ _ _ seq => seq
  | .localProbeResult _ _ _ _ _ _ seq => seq
  | .localProbeFailureFirst _ _ _ seq => seq
  | .localSustainedFailureCrossed _ _ _ _ seq => seq
  | .localRollbackCompleted _ _ _ seq => seq
  | .localConvergedReached _ _ seq => seq
  | .remoteDispatchAck _ _ seq => seq
  | .remoteActivationStarted _ _ seq => seq
  | .remoteActivationDeferred _ _ seq => seq
  | .remoteActivationCompleted _ _ _ seq => seq
  | .remoteActivationFailed _ _ _ seq => seq
  | .remoteProbeTopologyDeclared _ _ seq => seq
  | .remoteProbeObservedFirst _ _ _ seq => seq
  | .remoteProbeResult _ _ _ _ _ _ seq => seq
  | .remoteProbeFailureFirst _ _ _ seq => seq
  | .remoteFailed _ _ _ _ seq => seq
  | .remoteRollbackComplete _ _ _ seq => seq
  | .remoteConverged _ _ seq => seq

/-- `event_name`. -/
def Event.name : Event → String
  | .localActivate .. => "LocalActivate"
  | .localActivationStarted .. => "LocalActivationStarted"
  | .localActivationCompleted .. => "LocalActivationCompleted"
  | .localActivationDeferred .. => "LocalActivationDeferred"
  | .localActivationFailed .. => "LocalActivationFailed"
  | .localProbeTopologyDeclared .. => "LocalProbeTopologyDeclared"
  | .localProbeObservedFirst .. => "LocalProbeObservedFirst"
  | .localProbeResult .. => "LocalProbeResult"
  | .localProbeFailureFirst .. => "LocalProbeFailureFirst"
  | .localSustainedFailureCrossed .. => "LocalSustainedFailureCrossed"
  | .localRollbackCompleted .. => "LocalRollbackCompleted"
  | .localConvergedReached .. => "LocalConvergedReached"
  | .remoteDispatchAck .. => "RemoteDispatchAck"
  | .remoteActivationStarted .. => "RemoteActivationStarted"
  | .remoteActivationCompleted .. => "RemoteActivationCompleted"
  | .remoteActivationDeferred .. => "RemoteActivationDeferred"
  | .remoteActivationFailed .. => "RemoteActivationFailed"
  | .remoteProbeTopologyDeclared .. => "RemoteProbeTopologyDeclared"
  | .remoteProbeObservedFirst .. => "RemoteProbeObservedFirst"
  | .remoteProbeResult .. => "RemoteProbeResult"
  | .remoteProbeFailureFirst .. => "RemoteProbeFailureFirst"
  | .remoteFailed .. => "RemoteFailed"
  | .remoteRollbackComplete .. => "RemoteRollbackComplete"
  | .remoteConverged .. => "RemoteConverged"

/-! ## Effects -/

/-- Wire payloads of the agent's outbound events. -/
inductive OutboundAgentEvent where
  | dispatchAck (currentClosureAtDispatch : ClosureHash) (receivedAt : Time) (seq : Nat)
  | activationStarted (startedAt : Time) (switchMethod : String) (seq : Nat)
  | activationCompleted (observedCurrentClosure : ClosureHash) (exitCode : Int)
      (completedAt : Time) (seq : Nat)
  | activationFailed (exitCode : Int) (stderrTail : String) (failedAt : Time) (seq : Nat)
  | activationDeferred (component : String) (deferredAt : Time) (seq : Nat)
  | probeTopologyDeclared (probes : List ProbeTopologyEntry) (declaredAt : Time) (seq : Nat)
  | probeObservedFirst (probeName : String) (mode : ProbeMode) (observedAt : Time) (seq : Nat)
  | probeResult (probeName : String) (mode : ProbeMode) (status : ProbeStatus)
      (observedAt : Time) (failureReason : Option String)
      (subResults : Option (List ProbeSubResult)) (seq : Nat)
  | probeFailureFirst (probeName : String) (mode : ProbeMode) (firstFailedAt : Time) (seq : Nat)
  | failed (failedAt : Time) (sustainedDurationSecs : Nat) (failingProbes : List String)
      (policyApplied : OnHealthFailure) (seq : Nat)
  | rollbackComplete (revertedToClosure : ClosureHash) (exitCode : Int) (completedAt : Time)
      (seq : Nat)
  | converged (convergedAt : Time) (currentClosure : ClosureHash) (seq : Nat)
deriving DecidableEq, Repr

/-- Effects of a host transition. The metric, log, queue-dispatch and open-record effects of
the source are left out: no transition returns them. -/
inductive Effect where
  | localFireSwitch (rolloutId : RolloutId) (target : ClosureHash)
  | localFireRollbackTo (rolloutId : RolloutId) (closure : ClosureHash)
  | localResetProbeCache (rolloutId : RolloutId)
  | localEmitEvent (rolloutId : RolloutId) (payload : OutboundAgentEvent) (durable : Bool)
  | remoteInsertQuarantine (channel : ChannelId) (closure : ClosureHash)
  | remoteAppendEventLog (host : HostId) (rolloutId : RolloutId) (payload : OutboundAgentEvent)
  | recordTransition (host : HostId) (rolloutId : RolloutId) (src dst : HostState) (at' : Time)
deriving DecidableEq, Repr

inductive TransitionError where
  | illegalForState (src : HostState) (event : String) (rolloutId : RolloutId)
      (hostname : HostId)
  | seqRegression (got last : Nat) (rolloutId : RolloutId) (hostname : HostId)
  | invariant (msg : String)
deriving DecidableEq, Repr

end Nixfleet
