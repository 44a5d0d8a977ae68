import Nixfleet.Agent.Activation
import Nixfleet.Agent.Reducer
import Nixfleet.Lib.Machine

set_option autoImplicit false

/-!
# Runs of an agent

The tasks of an agent share two channels: workers post inputs to the reducer, and the reducer
sends activation intents to the activation worker, which handles one at a time. A step of the
machine is a step of one task, or a change of the system from outside the agent.
-/

namespace Nixfleet

/-- What the applier sends to the activation worker. -/
structure ActivationIntent where
  rolloutId : RolloutId
  targetClosure : ClosureHash
  rollback : Bool
deriving DecidableEq, Repr

/-- The intent of an effect, if it has one. -/
def Effect.intent? : Effect → Option ActivationIntent
  | .localFireSwitch rid target => some ⟨rid, target, false⟩
  | .localFireRollbackTo rid closure => some ⟨rid, closure, true⟩
  | _ => none

/-- `DispatchResponse`, checked against the rollout's manifest. -/
structure DispatchResponse where
  rolloutId : RolloutId
  targetClosure : ClosureHash
  soakDueAt : Time
  enqueuedAt : Time
deriving DecidableEq, Repr

/-! ## The activation worker -/

/-- The event that reports an activation. -/
def activationEvent (target : ClosureHash) (now : Time) :
    Except String ActivationOutcome → Event
  | .ok .firedAndPolled => .localActivationCompleted target 0 now 0
  | .ok (.deferredPendingReboot component) => .localActivationDeferred component now 0
  | .ok (.signatureMismatch closureHash stderrTail) =>
      .localActivationFailed (-2)
        ("signature mismatch on " ++ closureHash ++ ": " ++ stderrTail) now 0
  | .ok (.realiseFailed reason) =>
      .localActivationFailed (-1) ("realise failed: " ++ reason) now 0
  | .ok (.switchFailed phase exitCode) =>
      .localActivationFailed (exitCode.getD (-1)) ("switch failed at phase " ++ phase) now 0
  | .ok (.verifyMismatch expected actual) =>
      .localActivationFailed (-3)
        ("verify mismatch: expected=" ++ expected ++ " actual=" ++ actual) now 0
  | .error err => .localActivationFailed (-1) ("activation pipeline error: " ++ err) now 0

/-- The event that reports a rollback. -/
def rollbackEvent (now : Time) : Except String RollbackOutcome → Event
  | .ok (.firedAndPolled revertedTo) => .localRollbackCompleted revertedTo 0 now 0
  | .ok (.failed phase exitCode) =>
      .localActivationFailed (exitCode.getD (-1)) ("rollback failed at phase " ++ phase) now 0
  | .error err => .localActivationFailed (-1) ("rollback pipeline error: " ++ err) now 0

/-- What the worker's commands do, whichever pipeline it runs. -/
structure WorkerRun where
  activation : ActivationRun
  rollback : RollbackRun

/-- `handle_intent`, outside the test mode: the events it posts and the system it leaves. -/
def handleIntent (nix : NixEnv) (now : Time) (sys : System) (intent : ActivationIntent)
    (run : WorkerRun) : List Event × System :=
  if intent.rollback then
    let out := rollbackWith sys run.rollback
    ([rollbackEvent now out.1], out.2)
  else
    let out := activateWith nix sys intent.targetClosure run.activation
    ([.localActivationStarted now "switch-to-configuration" 0,
      activationEvent intent.targetClosure now out.1], out.2)

/-! ## The machine -/

/-- An agent: its reducer, the system it runs on, and its two channels. -/
structure AgentState where
  reducer : AgentReducer
  sys : System
  inbox : List ReducerInput
  intents : List ActivationIntent

/-- An agent that has just started. -/
def AgentState.started (sys : System) : AgentState := ⟨⟨∅, none⟩, sys, [], []⟩

inductive AgentInput where
  /-- The probe, ticker, manifest or heartbeat worker posts an input. -/
  | post (input : ReducerInput)
  /-- The long-poll worker hands on a dispatch, with the closure the system runs. -/
  | dispatch (d : DispatchResponse)
  /-- The reducer reads its next input. -/
  | reduce (orders : AgentOrders) (now : Time)
  /-- The activation worker handles its next intent. -/
  | work (now : Time) (run : WorkerRun)
  /-- An operator, a reboot or a garbage collection changes the system. -/
  | system (sys : System)

/-- `handle_dispatch`: what the long-poll worker posts. -/
def handleDispatch (sys : System) (d : DispatchResponse) : ReducerInput :=
  .hostEvent d.rolloutId
    (.localActivate (sys.running.getD "") d.targetClosure d.enqueuedAt d.soakDueAt 0)

/-- What a step reports: the rollback intent that was handled and its outcome. -/
abbrev RollbackReport := ActivationIntent × Except String RollbackOutcome

def agentStep (nix : NixEnv) (s : AgentState) : AgentInput → AgentState × List RollbackReport
  | .post input => ({ s with inbox := s.inbox ++ [input] }, [])
  | .dispatch d => ({ s with inbox := s.inbox ++ [handleDispatch s.sys d] }, [])
  | .reduce orders now =>
      match s.inbox with
      | [] => (s, [])
      | input :: rest =>
          let out := handleInput orders now s.reducer input
          ({ s with reducer := out.1, inbox := rest,
                    intents := s.intents ++ out.2.filterMap Effect.intent? }, [])
  | .work now run =>
      match s.intents with
      | [] => (s, [])
      | intent :: rest =>
          let out := handleIntent nix now s.sys intent run
          ({ s with sys := out.2, intents := rest,
                    inbox := s.inbox ++ out.1.map (.hostEvent intent.rolloutId) },
            if intent.rollback then [(intent, (rollbackWith s.sys run.rollback).1)] else [])
  | .system sys => ({ s with sys := sys }, [])

def agentMachine (nix : NixEnv) : Machine AgentState AgentInput RollbackReport := ⟨agentStep nix⟩

end Nixfleet
