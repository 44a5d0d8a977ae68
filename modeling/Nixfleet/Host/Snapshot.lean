import Nixfleet.Host.State

set_option autoImplicit false

/-!
# Snapshots of a host record

The part of a record that the control plane sends to an agent that lost its own, and the
effects that prime the agent's workers again when it takes the snapshot over.
-/

namespace Nixfleet

/-- `HostRolloutSnapshot`: the part of a record that is sent to a restarted agent. -/
structure HostRolloutSnapshot where
  rolloutId : RolloutId
  hostname : HostId
  channel : ChannelId
  state : HostState
  targetClosure : ClosureHash
  currentClosureAtDispatch : Option ClosureHash
  currentClosure : Option ClosureHash
  dispatchedAt : Time
  dispatchAckedAt : Option Time
  activationStartedAt : Option Time
  activationCompletedAt : Option Time
  soakDueAt : Option Time
  lastEventSeq : Nat
deriving DecidableEq, Repr

/-- `host_rollout_state_to_snapshot`. -/
def HostRolloutState.toSnapshot (s : HostRolloutState) : HostRolloutSnapshot where
  rolloutId := s.rolloutId
  hostname := s.hostname
  channel := s.channel
  state := s.state
  targetClosure := s.targetClosure
  currentClosureAtDispatch := s.currentClosureAtDispatch
  currentClosure := s.currentClosure
  dispatchedAt := s.dispatchedAt
  dispatchAckedAt := s.dispatchAckedAt
  activationStartedAt := s.activationStartedAt
  activationCompletedAt := s.activationCompletedAt
  soakDueAt := s.soakDueAt
  lastEventSeq := s.lastEventSeq

/-- `rehydration_effects`. -/
def rehydrationEffects (s : HostRolloutState) : List Effect :=
  match s.state with
  | .pending => []
  | .activating | .deferred | .soaking | .converged | .failed | .reverted =>
      [.localResetProbeCache s.rolloutId]

end Nixfleet
