import Nixfleet.Host.State

set_option autoImplicit false

/-!
# The rollout state machine

`rolloutStep` is the rollout reducer of `nixfleet-state-machine`: the aggregate state of a
rollout over its hosts. One handler per source state. A transition returns the next record
and the effects that the control plane writes to the `rollouts` row.
-/

namespace Nixfleet

inductive RolloutState where
  | opening
  | active
  | converging
  | terminal
  | reverted
  | failed
  | superseded
  | pruned
deriving DecidableEq, Repr

structure RolloutRecord where
  rolloutId : RolloutId
  channel : ChannelId
  targetRef : ChannelRef
  state : RolloutState
  currentWave : Nat
  openedEventLogSeq : Option Int
  lastTransitionEventLogSeq : Option Int
  openedAt : Time
  terminalAt : Option Time
  supersededAt : Option Time
deriving DecidableEq, Repr

inductive RolloutEvent where
  | rolloutOpened (rolloutId : RolloutId) (channel : ChannelId) (targetRef : ChannelRef)
      (at' : Time)
  | hostJoined (rolloutId : RolloutId) (hostId : HostId) (wave : Nat) (at' : Time)
  | hostStateChanged (rolloutId : RolloutId) (hostId : HostId) (src dst : HostState) (at' : Time)
  | waveAdvanced (rolloutId : RolloutId) (fromWave toWave : Nat) (at' : Time)
  | rolloutTerminal (rolloutId : RolloutId) (at' : Time)
  | successorOpened (supersededRolloutId successorRolloutId : RolloutId) (at' : Time)
  | retentionExpired (rolloutId : RolloutId) (at' : Time)
  | operatorClearance (rolloutId : RolloutId) (operator reason : String) (at' : Time)
deriving DecidableEq, Repr

/-- `RolloutEvent::kind`. -/
def RolloutEvent.kind : RolloutEvent → String
  | .rolloutOpened .. => "RolloutOpened"
  | .hostJoined .. => "HostJoined"
  | .hostStateChanged .. => "HostStateChanged"
  | .waveAdvanced .. => "WaveAdvanced"
  | .rolloutTerminal .. => "RolloutTerminal"
  | .successorOpened .. => "SuccessorOpened"
  | .retentionExpired .. => "RetentionExpired"
  | .operatorClearance .. => "OperatorClearance"

/-- `rollout_event_rollout_id`: the rollout an event is about; for `SuccessorOpened` the
predecessor. -/
def RolloutEvent.rolloutId : RolloutEvent → RolloutId
  | .rolloutOpened rid _ _ _ => rid
  | .hostJoined rid _ _ _ => rid
  | .hostStateChanged rid _ _ _ _ => rid
  | .waveAdvanced rid _ _ _ => rid
  | .rolloutTerminal rid _ => rid
  | .successorOpened superseded _ _ => superseded
  | .retentionExpired rid _ => rid
  | .operatorClearance rid _ _ _ => rid

/-- Effects of a rollout transition. The quarantine and pruning effects of the source are
left out: no transition returns them. -/
inductive RolloutEffect where
  | recordRolloutTransition (rolloutId : RolloutId) (src dst : RolloutState) (at' : Time)
  | updateCurrentWave (rolloutId : RolloutId) (wave : Nat)
deriving DecidableEq, Repr

inductive RolloutTransitionError where
  | illegalForState (src : RolloutState) (event : String) (rolloutId : RolloutId)
  | unimplemented (src : RolloutState) (event : String)
deriving DecidableEq, Repr

/-- The result of a rollout transition. -/
abbrev RolloutStepResult := Except RolloutTransitionError (RolloutRecord × List RolloutEffect)

/-! ## Transitions the handlers share -/

/-- Move to `dst` and record it. -/
def RolloutRecord.moveTo (r : RolloutRecord) (dst : RolloutState) (at' : Time) :
    RolloutStepResult :=
  .ok ({ r with state := dst }, [.recordRolloutTransition r.rolloutId r.state dst at'])

/-- Move to `Terminal`, stamping `terminal_at`. -/
def RolloutRecord.finish (r : RolloutRecord) (at' : Time) : RolloutStepResult :=
  .ok ({ r with state := .terminal, terminalAt := some at' },
    [.recordRolloutTransition r.rolloutId r.state .terminal at'])

/-- Move to `Superseded`, stamping `superseded_at`. -/
def RolloutRecord.supersede (r : RolloutRecord) (at' : Time) : RolloutStepResult :=
  .ok ({ r with state := .superseded, supersededAt := some at' },
    [.recordRolloutTransition r.rolloutId r.state .superseded at'])

/-- The event is observed and changes nothing. -/
def RolloutRecord.observe (r : RolloutRecord) : RolloutStepResult := .ok (r, [])

/-- A host reached `dst`: a failed or reverted host fails or reverts the rollout. -/
def RolloutRecord.hostMoved (r : RolloutRecord) (dst : HostState) (at' : Time) :
    RolloutStepResult :=
  match dst with
  | .reverted => r.moveTo .reverted at'
  | .failed => r.moveTo .failed at'
  | _ => r.observe

/-- `illegal`. -/
def RolloutRecord.illegal (r : RolloutRecord) (e : RolloutEvent) : RolloutStepResult :=
  .error (.illegalForState r.state e.kind r.rolloutId)

/-! ## Handlers -/

/-- `opening::step`. A joining host does not move the wave cursor. -/
def openingStep (r : RolloutRecord) (e : RolloutEvent) : RolloutStepResult :=
  match e with
  | .hostJoined _ _ _ at' => r.moveTo .active at'
  | .successorOpened _ _ at' => r.supersede at'
  | e => r.illegal e

/-- `active::step`. -/
def activeStep (r : RolloutRecord) (e : RolloutEvent) : RolloutStepResult :=
  match e with
  | .hostJoined .. => r.observe
  | .hostStateChanged _ _ _ dst at' => r.hostMoved dst at'
  | .waveAdvanced _ fromWave toWave at' =>
      if toWave > fromWave then
        -- the cursor never moves back
        if toWave > r.currentWave then
          .ok ({ r with currentWave := toWave }, [.updateCurrentWave r.rolloutId toWave])
        else r.observe
      else r.moveTo .converging at'
  | .rolloutTerminal _ at' => r.finish at'
  | .successorOpened _ _ at' => r.supersede at'
  | e => r.illegal e

/-- `converging::step`. -/
def convergingStep (r : RolloutRecord) (e : RolloutEvent) : RolloutStepResult :=
  match e with
  | .waveAdvanced _ fromWave toWave at' =>
      if toWave > fromWave then
        let transition := .recordRolloutTransition r.rolloutId r.state .active at'
        if toWave > r.currentWave then
          .ok ({ r with state := .active, currentWave := toWave },
            [transition, .updateCurrentWave r.rolloutId toWave])
        else .ok ({ r with state := .active }, [transition])
      else r.observe
  | .rolloutTerminal _ at' => r.finish at'
  | .hostStateChanged _ _ _ dst at' => r.hostMoved dst at'
  | .successorOpened _ _ at' => r.supersede at'
  | .hostJoined .. => r.observe
  | e => r.illegal e

/-- `failed::step` and `reverted::step`, which have the same arms: only a successor, the
retention timer or an operator ends a halted rollout. -/
def haltedStep (r : RolloutRecord) (e : RolloutEvent) : RolloutStepResult :=
  match e with
  | .successorOpened _ _ at' => r.supersede at'
  | .retentionExpired _ at' => r.moveTo .pruned at'
  | .operatorClearance .. => .error (.unimplemented r.state e.kind)
  | .hostStateChanged .. => r.observe
  | .hostJoined .. => r.observe
  | .waveAdvanced .. => r.observe
  | .rolloutTerminal .. => r.observe
  | e => r.illegal e

/-- `failed::step`. -/
def failedStep : RolloutRecord → RolloutEvent → RolloutStepResult := haltedStep

/-- `reverted::step`. -/
def revertedStep : RolloutRecord → RolloutEvent → RolloutStepResult := haltedStep

/-- `superseded::step`. -/
def supersededStep (r : RolloutRecord) (e : RolloutEvent) : RolloutStepResult :=
  match e with
  | .retentionExpired _ at' => r.moveTo .pruned at'
  | .hostStateChanged .. => r.observe
  | .hostJoined .. => r.observe
  | .waveAdvanced .. => r.observe
  | .rolloutTerminal .. => r.observe
  | .successorOpened .. => r.observe
  | e => r.illegal e

/-- `terminal::step`. -/
def terminalStep (r : RolloutRecord) (e : RolloutEvent) : RolloutStepResult :=
  match e with
  | .successorOpened _ _ at' => r.supersede at'
  | .retentionExpired _ at' => r.moveTo .pruned at'
  | .rolloutTerminal .. => r.observe
  | .hostStateChanged .. => r.observe
  | .hostJoined .. => r.observe
  | e => r.illegal e

/-- `transitions::dispatch`, the body of the rollout machine's `step`. -/
def rolloutStep (r : RolloutRecord) (e : RolloutEvent) : RolloutStepResult :=
  match r.state with
  | .opening => openingStep r e
  | .active => activeStep r e
  | .converging => convergingStep r e
  | .terminal => terminalStep r e
  | .reverted => revertedStep r e
  | .failed => failedStep r e
  | .superseded => supersededStep r e
  | .pruned => r.illegal e

end Nixfleet
