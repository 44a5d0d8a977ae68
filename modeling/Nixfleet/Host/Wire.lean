import Nixfleet.Host.State

set_option autoImplicit false

/-!
# The wire events of an agent

The types of `POST /v1/agent/events` (`nixfleet-proto`) and their conversions from and to the
host machine. The agent converts the payload of an effect to an `AgentEvent`; the control plane
converts the `AgentEvent` to a remote event. The JSON text in between is left out: decoding it
gives the event back.
-/

namespace Nixfleet

/-! ## Wire types -/

inductive ProbeStatusWire where
  | pass
  | fail
deriving DecidableEq, Repr

inductive ProbeModeWire where
  | enforce
  | observe
  | disabled
deriving DecidableEq, Repr

inductive OnHealthFailureWire where
  | halt
  | rollbackAndHalt
deriving DecidableEq, Repr

structure ProbeTopologyEntryWire where
  probeName : String
  kind : String
  mode : ProbeModeWire
deriving DecidableEq, Repr

structure ProbeSubResultWire where
  controlId : String
  status : ProbeStatusWire
  framework : String
  article : Option String
  effectiveMode : ProbeModeWire
  overrideReason : Option String
deriving DecidableEq, Repr

/-- Inbound agent events. -/
inductive AgentEvent where
  | dispatchAck (currentClosureAtDispatch : ClosureHash) (receivedAt : Time) (seq : Nat)
  | activationStarted (startedAt : Time) (switchMethod : String) (seq : Nat)
  | activationCompleted (observedCurrentClosure : ClosureHash) (exitCode : Int)
      (completedAt : Time) (seq : Nat)
  | activationFailed (exitCode : Int) (stderrTail : String) (failedAt : Time) (seq : Nat)
  | activationDeferred (component : String) (deferredAt : Time) (seq : Nat)
  | probeTopologyDeclared (probes : List ProbeTopologyEntryWire) (declaredAt : Time) (seq : Nat)
  | probeObservedFirst (probeName : String) (mode : ProbeModeWire) (observedAt : Time)
      (seq : Nat)
  | probeResult (probeName : String) (mode : ProbeModeWire) (status : ProbeStatusWire)
      (observedAt : Time) (failureReason : Option String)
      (subResults : Option (List ProbeSubResultWire)) (seq : Nat)
  | probeFailureFirst (probeName : String) (mode : ProbeModeWire) (firstFailedAt : Time)
      (seq : Nat)
  | failed (failedAt : Time) (sustainedDurationSecs : Nat) (failingProbes : List String)
      (policyApplied : OnHealthFailureWire) (seq : Nat)
  | rollbackComplete (revertedToClosure : ClosureHash) (exitCode : Int) (completedAt : Time)
      (seq : Nat)
  | converged (convergedAt : Time) (currentClosure : ClosureHash) (seq : Nat)
deriving DecidableEq, Repr

/-- `AgentEvent::seq`. -/
def AgentEvent.seq : AgentEvent → Nat
  | .dispatchAck _ _ seq => seq
  | .activationStarted _ _ seq => seq
  | .activationCompleted _ _ _ seq => seq
  | .activationFailed _ _ _ seq => seq
  | .activationDeferred _ _ seq => seq
  | .probeTopologyDeclared _ _ seq => seq
  | .probeObservedFirst _ _ _ seq => seq
  | .probeResult _ _ _ _ _ _ seq => seq
  | .probeFailureFirst _ _ _ seq => seq
  | .failed _ _ _ _ seq => seq
  | .rollbackComplete _ _ _ seq => seq
  | .converged _ _ seq => seq

/-! ## Conversions of the fields -/

def ProbeStatus.ofWire : ProbeStatusWire → ProbeStatus
  | .pass => .pass
  | .fail => .fail

def ProbeStatus.toWire : ProbeStatus → ProbeStatusWire
  | .pass => .pass
  | .fail => .fail

def ProbeMode.ofWire : ProbeModeWire → ProbeMode
  | .enforce => .enforce
  | .observe => .observe
  | .disabled => .disabled

def ProbeMode.toWire : ProbeMode → ProbeModeWire
  | .enforce => .enforce
  | .observe => .observe
  | .disabled => .disabled

def OnHealthFailure.ofWire : OnHealthFailureWire → OnHealthFailure
  | .halt => .halt
  | .rollbackAndHalt => .rollbackAndHalt

def OnHealthFailure.toWire : OnHealthFailure → OnHealthFailureWire
  | .halt => .halt
  | .rollbackAndHalt => .rollbackAndHalt

def ProbeTopologyEntry.ofWire (w : ProbeTopologyEntryWire) : ProbeTopologyEntry :=
  ⟨w.probeName, w.kind, .ofWire w.mode⟩

def ProbeTopologyEntry.toWire (e : ProbeTopologyEntry) : ProbeTopologyEntryWire :=
  ⟨e.probeName, e.kind, e.mode.toWire⟩

def ProbeSubResult.ofWire (w : ProbeSubResultWire) : ProbeSubResult :=
  ⟨w.controlId, .ofWire w.status, w.framework, w.article, .ofWire w.effectiveMode,
    w.overrideReason⟩

def ProbeSubResult.toWire (s : ProbeSubResult) : ProbeSubResultWire :=
  ⟨s.controlId, s.status.toWire, s.framework, s.article, s.effectiveMode.toWire,
    s.overrideReason⟩

@[simp] theorem ProbeStatus.ofWire_toWire (s : ProbeStatus) : ofWire s.toWire = s := by
  cases s <;> rfl

@[simp] theorem ProbeMode.ofWire_toWire (m : ProbeMode) : ofWire m.toWire = m := by
  cases m <;> rfl

@[simp] theorem OnHealthFailure.ofWire_toWire (p : OnHealthFailure) : ofWire p.toWire = p := by
  cases p <;> rfl

/-! ## Conversions of the events -/

/-- `From<OutboundAgentEvent> for AgentEvent`. -/
def OutboundAgentEvent.toAgentEvent : OutboundAgentEvent → AgentEvent
  | .dispatchAck closure receivedAt seq => .dispatchAck closure receivedAt seq
  | .activationStarted startedAt method seq => .activationStarted startedAt method seq
  | .activationCompleted observed exitCode completedAt seq =>
      .activationCompleted observed exitCode completedAt seq
  | .activationFailed exitCode stderrTail failedAt seq =>
      .activationFailed exitCode stderrTail failedAt seq
  | .activationDeferred component deferredAt seq => .activationDeferred component deferredAt seq
  | .probeTopologyDeclared probes declaredAt seq =>
      .probeTopologyDeclared (probes.map (·.toWire)) declaredAt seq
  | .probeObservedFirst name mode observedAt seq =>
      .probeObservedFirst name mode.toWire observedAt seq
  | .probeResult name mode status observedAt reason subResults seq =>
      .probeResult name mode.toWire status.toWire observedAt reason
        (subResults.map fun v => v.map (·.toWire)) seq
  | .probeFailureFirst name mode firstFailedAt seq =>
      .probeFailureFirst name mode.toWire firstFailedAt seq
  | .failed failedAt secs failing policyApplied seq =>
      .failed failedAt secs failing policyApplied.toWire seq
  | .rollbackComplete closure exitCode completedAt seq =>
      .rollbackComplete closure exitCode completedAt seq
  | .converged convergedAt closure seq => .converged convergedAt closure seq

/-- `From<AgentEvent> for Event`. -/
def AgentEvent.toEvent : AgentEvent → Event
  | .dispatchAck closure receivedAt seq => .remoteDispatchAck closure receivedAt seq
  | .activationStarted startedAt method seq => .remoteActivationStarted startedAt method seq
  | .activationCompleted observed exitCode completedAt seq =>
      .remoteActivationCompleted observed exitCode completedAt seq
  | .activationFailed exitCode stderrTail failedAt seq =>
      .remoteActivationFailed exitCode stderrTail failedAt seq
  | .activationDeferred component deferredAt seq =>
      .remoteActivationDeferred component deferredAt seq
  | .probeTopologyDeclared probes declaredAt seq =>
      .remoteProbeTopologyDeclared (probes.map .ofWire) declaredAt seq
  | .probeObservedFirst name mode observedAt seq =>
      .remoteProbeObservedFirst name (.ofWire mode) observedAt seq
  | .probeResult name mode status observedAt reason subResults seq =>
      .remoteProbeResult name (.ofWire mode) (.ofWire status) observedAt reason
        (subResults.map fun v => v.map .ofWire) seq
  | .probeFailureFirst name mode firstFailedAt seq =>
      .remoteProbeFailureFirst name (.ofWire mode) firstFailedAt seq
  | .failed failedAt secs failing policyApplied seq =>
      .remoteFailed failedAt secs failing (.ofWire policyApplied) seq
  | .rollbackComplete closure exitCode completedAt seq =>
      .remoteRollbackComplete closure exitCode completedAt seq
  | .converged convergedAt closure seq => .remoteConverged convergedAt closure seq

@[simp] theorem seq_toEvent (e : AgentEvent) : e.toEvent.seq = e.seq := by
  cases e <;> rfl

/-- The remote event that a payload arrives as. -/
def OutboundAgentEvent.remote (payload : OutboundAgentEvent) : Event :=
  payload.toAgentEvent.toEvent

end Nixfleet
