import Nixfleet.Host.State

set_option autoImplicit false

/-!
# The host state machine

`hostStep` is the reducer of `nixfleet-state-machine`: it refuses an event whose sequence
number is not above the last one, then dispatches on the state. One handler per state, one
arm per event, as in the source's `transitions` directory.
-/

namespace Nixfleet

/-! ## Effects and record updates the arms share -/

/-- Append the mirrored event to the control plane's event log. -/
def HostRolloutState.appendEventLog (s : HostRolloutState) (payload : OutboundAgentEvent) :
    Effect := .remoteAppendEventLog s.hostname s.rolloutId payload

/-- Send the event to the control plane. -/
def HostRolloutState.emitEvent (s : HostRolloutState) (payload : OutboundAgentEvent)
    (durable : Bool) : Effect := .localEmitEvent s.rolloutId payload durable

/-- Record the transition out of the current state. -/
def HostRolloutState.recordTransition (s : HostRolloutState) (dst : HostState) (at' : Time) :
    Effect := .recordTransition s.hostname s.rolloutId s.state dst at'

/-- The rollback a `rollback-and-halt` failure fires, when the dispatch recorded a closure. -/
def HostRolloutState.rollbackEffects (s : HostRolloutState) (policy : OnHealthFailure) :
    List Effect :=
  match policy, s.currentClosureAtDispatch with
  | .rollbackAndHalt, some prior => [.localFireRollbackTo s.rolloutId prior]
  | _, _ => []

/-- `Pending → Activating`. -/
def HostRolloutState.activate (s : HostRolloutState) (prior : ClosureHash) (receivedAt : Time)
    (seq : Nat) : HostRolloutState :=
  { s with state := .activating, currentClosureAtDispatch := some prior,
           dispatchAckedAt := some receivedAt, lastEventSeq := seq }

/-- `Activating → Soaking` and `Deferred → Soaking`: the probes start afresh. -/
def HostRolloutState.complete (s : HostRolloutState) (observed : ClosureHash)
    (completedAt : Time) (seq : Nat) : HostRolloutState :=
  { s with state := .soaking, activationCompletedAt := some completedAt,
           currentClosure := some observed, probes := ∅, lastEventSeq := seq }

/-- `Failed → Reverted`. -/
def HostRolloutState.revert (s : HostRolloutState) (revertedTo : ClosureHash)
    (completedAt : Time) (seq : Nat) : HostRolloutState :=
  { s with state := .reverted, revertedAt := some completedAt, revertedTo := some revertedTo,
           currentClosure := some revertedTo, lastEventSeq := seq }

/-- `illegal`. -/
def illegal (s : HostRolloutState) (e : Event) : TransitionError :=
  .illegalForState s.state e.name s.rolloutId s.hostname

/-- The result of a transition: the next record and its effects. -/
abbrev StepResult := Except TransitionError (HostRolloutState × List Effect)

/-! ## Handlers -/

/-- `pending::handle`. -/
def pendingHandle (s : HostRolloutState) (e : Event) (_policy : RolloutPolicy) : StepResult :=
  match e with
  | .localActivate prior _ receivedAt _ seq =>
      .ok (s.activate prior receivedAt seq,
        [s.recordTransition .activating receivedAt,
         s.emitEvent (.dispatchAck prior receivedAt seq) true,
         .localFireSwitch s.rolloutId s.targetClosure])
  | .remoteDispatchAck prior receivedAt seq =>
      .ok (s.activate prior receivedAt seq,
        [s.appendEventLog (.dispatchAck prior receivedAt seq),
         s.recordTransition .activating receivedAt])
  | e => .error (illegal s e)

/-- `activating::handle`. -/
def activatingHandle (s : HostRolloutState) (e : Event) (policy : RolloutPolicy) : StepResult :=
  match e with
  | .localActivationStarted startedAt method seq =>
      .ok ({ s with activationStartedAt := some startedAt, lastEventSeq := seq },
        [s.emitEvent (.activationStarted startedAt method seq) true])
  | .remoteActivationStarted startedAt method seq =>
      .ok ({ s with activationStartedAt := some startedAt, lastEventSeq := seq },
        [s.appendEventLog (.activationStarted startedAt method seq)])
  | .localActivationCompleted observed exitCode completedAt seq =>
      .ok (s.complete observed completedAt seq,
        [.localResetProbeCache s.rolloutId,
         s.emitEvent (.activationCompleted observed exitCode completedAt seq) true,
         s.recordTransition .soaking completedAt])
  | .remoteActivationCompleted observed exitCode completedAt seq =>
      .ok (s.complete observed completedAt seq,
        [s.appendEventLog (.activationCompleted observed exitCode completedAt seq),
         s.recordTransition .soaking completedAt])
  | .localActivationDeferred component deferredAt seq =>
      .ok ({ s with state := .deferred, lastEventSeq := seq },
        [s.emitEvent (.activationDeferred component deferredAt seq) true,
         s.recordTransition .deferred deferredAt])
  | .remoteActivationDeferred component deferredAt seq =>
      .ok ({ s with state := .deferred, lastEventSeq := seq },
        [s.appendEventLog (.activationDeferred component deferredAt seq),
         s.recordTransition .deferred deferredAt])
  | .localActivationFailed exitCode stderrTail failedAt seq =>
      .ok ({ s with state := .failed, activationFailedAt := some failedAt,
                    failedAt := some failedAt, policyApplied := some policy.onHealthFailure,
                    lastEventSeq := seq },
        [s.emitEvent (.activationFailed exitCode stderrTail failedAt seq) true,
         s.recordTransition .failed failedAt] ++ s.rollbackEffects policy.onHealthFailure)
  | .remoteActivationFailed exitCode stderrTail failedAt seq =>
      .ok ({ s with state := .failed, activationFailedAt := some failedAt,
                    failedAt := some failedAt, policyApplied := some policy.onHealthFailure,
                    lastEventSeq := seq },
        [s.appendEventLog (.activationFailed exitCode stderrTail failedAt seq),
         s.recordTransition .failed failedAt])
  | e => .error (illegal s e)

/-- `deferred::handle`. A failure here neither records the policy nor rolls back. -/
def deferredHandle (s : HostRolloutState) (e : Event) (_policy : RolloutPolicy) : StepResult :=
  match e with
  | .localActivationCompleted observed exitCode completedAt seq =>
      .ok (s.complete observed completedAt seq,
        [.localResetProbeCache s.rolloutId,
         s.emitEvent (.activationCompleted observed exitCode completedAt seq) true,
         s.recordTransition .soaking completedAt])
  | .remoteActivationCompleted observed exitCode completedAt seq =>
      .ok (s.complete observed completedAt seq,
        [s.appendEventLog (.activationCompleted observed exitCode completedAt seq),
         s.recordTransition .soaking completedAt])
  | .localActivationFailed exitCode stderrTail failedAt seq =>
      .ok ({ s with state := .failed, activationFailedAt := some failedAt,
                    failedAt := some failedAt, lastEventSeq := seq },
        [s.emitEvent (.activationFailed exitCode stderrTail failedAt seq) true,
         s.recordTransition .failed failedAt])
  | .remoteActivationFailed exitCode stderrTail failedAt seq =>
      .ok ({ s with state := .failed, activationFailedAt := some failedAt,
                    failedAt := some failedAt, lastEventSeq := seq },
        [s.appendEventLog (.activationFailed exitCode stderrTail failedAt seq),
         s.recordTransition .failed failedAt])
  | e => .error (illegal s e)

/-- `update_probe`. -/
def updateProbe (probes : Table String ProbeRecord) (name : String) (mode : ProbeMode)
    (status : ProbeStatus) (observedAt : Time) (failureReason : Option String) :
    Table String ProbeRecord :=
  let entry := (probes.lookup name).getD ⟨status, mode, observedAt, none, none⟩
  probes.insert name
    { entry with
      status := status
      mode := mode
      lastObservedAt := observedAt
      lastPassAt := if status = .pass then some observedAt else entry.lastPassAt
      failureReason := if status = .pass then none else failureReason }

/-- `verify_converged_invariants`: the first of the three checks that fails. -/
def verifyConvergedInvariants (s : HostRolloutState) (currentClosure : ClosureHash)
    (convergedAt : Time) : Except TransitionError Unit :=
  if currentClosure ≠ s.targetClosure then
    .error (.invariant "Converged event: current_closure != target_closure")
  else if s.soakDueAt.any (fun soakDue => convergedAt < soakDue) then
    .error (.invariant "Converged event: converged_at before soak_due_at")
  else if s.probes.rows.any (fun p => p.2.mode = .enforce ∧ p.2.status ≠ .pass) then
    .error (.invariant "Converged event: at least one enforce-mode probe is not Pass")
  else .ok ()

/-- `soaking::handle`. -/
def soakingHandle (s : HostRolloutState) (e : Event) (_policy : RolloutPolicy) : StepResult :=
  match e with
  | .localProbeTopologyDeclared probes declaredAt seq =>
      .ok ({ s with lastEventSeq := seq },
        [s.emitEvent (.probeTopologyDeclared probes declaredAt seq) true])
  | .remoteProbeTopologyDeclared probes declaredAt seq =>
      .ok ({ s with lastEventSeq := seq },
        [s.appendEventLog (.probeTopologyDeclared probes declaredAt seq)])
  | .localProbeObservedFirst name mode observedAt seq =>
      .ok ({ s with probeObservedFirstAt := s.probeObservedFirstAt.or (some observedAt),
                    lastEventSeq := seq },
        [s.emitEvent (.probeObservedFirst name mode observedAt seq) false])
  | .remoteProbeObservedFirst name mode observedAt seq =>
      .ok ({ s with probeObservedFirstAt := s.probeObservedFirstAt.or (some observedAt),
                    lastEventSeq := seq },
        [s.appendEventLog (.probeObservedFirst name mode observedAt seq)])
  | .localProbeResult name mode status observedAt reason subResults seq =>
      .ok ({ s with probes := updateProbe s.probes name mode status observedAt reason,
                    lastEventSeq := seq },
        [s.emitEvent (.probeResult name mode status observedAt reason subResults seq) false])
  | .remoteProbeResult name mode status observedAt reason subResults seq =>
      .ok ({ s with probes := updateProbe s.probes name mode status observedAt reason,
                    lastEventSeq := seq },
        [s.appendEventLog (.probeResult name mode status observedAt reason subResults seq)])
  | .localProbeFailureFirst name mode firstFailedAt seq =>
      .ok ({ s with probeFailureFirstAt := s.probeFailureFirstAt.or (some firstFailedAt),
                    lastEventSeq := seq },
        [s.emitEvent (.probeFailureFirst name mode firstFailedAt seq) false])
  | .remoteProbeFailureFirst name mode firstFailedAt seq =>
      .ok ({ s with probeFailureFirstAt := s.probeFailureFirstAt.or (some firstFailedAt),
                    lastEventSeq := seq },
        [s.appendEventLog (.probeFailureFirst name mode firstFailedAt seq)])
  | .localSustainedFailureCrossed failedAt secs failing policyApplied seq =>
      .ok ({ s with state := .failed, failedAt := some failedAt,
                    policyApplied := some policyApplied, lastEventSeq := seq },
        [s.emitEvent (.failed failedAt secs failing policyApplied seq) true,
         s.recordTransition .failed failedAt] ++ s.rollbackEffects policyApplied)
  | .remoteFailed failedAt secs failing policyApplied seq =>
      .ok ({ s with state := .failed, failedAt := some failedAt,
                    policyApplied := some policyApplied, lastEventSeq := seq },
        [s.appendEventLog (.failed failedAt secs failing policyApplied seq),
         s.recordTransition .failed failedAt])
  | .localConvergedReached convergedAt currentClosure seq => do
      verifyConvergedInvariants s currentClosure convergedAt
      .ok ({ s with state := .converged, convergedAt := some convergedAt,
                    currentClosure := some currentClosure, lastEventSeq := seq },
        [s.emitEvent (.converged convergedAt currentClosure seq) true,
         s.recordTransition .converged convergedAt])
  | .remoteConverged convergedAt currentClosure seq => do
      verifyConvergedInvariants s currentClosure convergedAt
      .ok ({ s with state := .converged, convergedAt := some convergedAt,
                    currentClosure := some currentClosure, lastEventSeq := seq },
        [s.appendEventLog (.converged convergedAt currentClosure seq),
         s.recordTransition .converged convergedAt])
  | e => .error (illegal s e)

/-- `failed::handle`. The control plane's mirror quarantines the closure that failed. -/
def failedHandle (s : HostRolloutState) (e : Event) (_policy : RolloutPolicy) : StepResult :=
  match e with
  | .localRollbackCompleted revertedTo exitCode completedAt seq =>
      .ok (s.revert revertedTo completedAt seq,
        [s.emitEvent (.rollbackComplete revertedTo exitCode completedAt seq) true,
         s.recordTransition .reverted completedAt])
  | .remoteRollbackComplete revertedTo exitCode completedAt seq =>
      .ok (s.revert revertedTo completedAt seq,
        [s.appendEventLog (.rollbackComplete revertedTo exitCode completedAt seq),
         .remoteInsertQuarantine s.channel s.targetClosure,
         s.recordTransition .reverted completedAt])
  | e => .error (illegal s e)

/-- `transitions::dispatch`, the body of `step`. The clock parameter of the source is
unused by every handler. -/
def hostStep (s : HostRolloutState) (e : Event) (policy : RolloutPolicy) : StepResult :=
  if e.seq ≤ s.lastEventSeq then
    .error (.seqRegression e.seq s.lastEventSeq s.rolloutId s.hostname)
  else
    match s.state with
    | .pending => pendingHandle s e policy
    | .activating => activatingHandle s e policy
    | .deferred => deferredHandle s e policy
    | .soaking => soakingHandle s e policy
    | .failed => failedHandle s e policy
    | .converged => .error (illegal s e)
    | .reverted => .error (illegal s e)

end Nixfleet
