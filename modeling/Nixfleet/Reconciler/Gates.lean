import Mathlib.Algebra.Ring.Nat
import Nixfleet.Host.State

set_option autoImplicit false

/-!
# The planner's input and its dispatch gates

The fleet state the planner reads, and the six gates that decide whether a `Pending` host may
be dispatched. `evaluateForDispatch` asks them in a fixed order and the first block wins.
-/

namespace Nixfleet

/-- The projection of one `rollouts` row, with the budgets of the manifest. -/
structure RolloutSummary where
  rolloutId : RolloutId
  channel : ChannelId
  targetRef : ChannelRef
  openedAt : Time
  terminalAt : Option Time
  currentWave : Nat
  budgets : List RolloutBudget
deriving DecidableEq, Repr

/-- What the planner sees of the database. -/
structure FleetState where
  hostStates : Table (RolloutId × HostId) HostRolloutState
  rollouts : Table RolloutId RolloutSummary
  outstandingFailingEnforceProbes : Table RolloutId (Table HostId Nat)

/-- Quarantined closures by channel. -/
abbrev QuarantineSet := Table ChannelId (List ClosureHash)

/-- `QuarantineSet::new`. -/
def QuarantineSet.new : QuarantineSet := ∅

/-- The planner's per-tick counter, by budget selector. -/
abbrev TickDispatched := Selector → Nat

/-- Why a gate holds a host back. -/
inductive GateBlock where
  | channelEdges (predecessorChannel : ChannelId)
  | wavePromotion (hostWave currentWave : Nat)
  | hostUnstaged (channel : ChannelId)
  | hostEdge (gatingHost : HostId)
  | disruptionBudget (inFlight max : Nat) (selectorSummary : String)
  | complianceWave (failingEventsCount hostWave : Nat)
  | quarantined (channel : ChannelId) (closureHash : ClosureHash)
deriving DecidableEq, Repr

/-- `GateBlock::discriminator`. -/
def GateBlock.discriminator : GateBlock → String
  | .channelEdges .. => "channel-edges"
  | .wavePromotion .. => "wave-promotion"
  | .hostUnstaged .. => "wave-promotion-host-unstaged"
  | .hostEdge .. => "host-edge"
  | .disruptionBudget .. => "disruption-budget"
  | .complianceWave .. => "compliance-wave"
  | .quarantined .. => "quarantine"

/-- `GateBlock::reason`. -/
def GateBlock.reason : GateBlock → String
  | .channelEdges predecessor =>
      "channelEdges predecessor channel '" ++ predecessor ++ "' not converged"
  | .wavePromotion hostWave currentWave =>
      "wave-promotion: host_wave=" ++ toString hostWave ++ " > current_wave="
        ++ toString currentWave
  | .hostUnstaged channel =>
      "wave-promotion: channel '" ++ channel ++ "' declares waves but this host is not "
        ++ "assigned to any of them — fix the fleet declaration or the host's tag/wave selector"
  | .hostEdge gatingHost =>
      "host-edge: gating host '" ++ gatingHost ++ "' not yet Converged"
  | .disruptionBudget inFlight max summary =>
      "disruption-budget: " ++ toString inFlight ++ "/" ++ toString max ++ " in flight ("
        ++ summary ++ ")"
  | .complianceWave count hostWave =>
      "compliance-wave: " ++ toString count ++ " outstanding failure(s) on hosts in wave < "
        ++ toString hostWave
  | .quarantined channel closureHash =>
      "channel " ++ channel ++ " closure " ++ closureHash ++ " quarantined (sustained probe "
        ++ "failures); push a new closure to clear"

/-! ## The gates -/

/-- `quarantine::check`. -/
def quarantineCheck (quarantines : QuarantineSet) (channel : ChannelId)
    (targetClosure : ClosureHash) : Option GateBlock :=
  match quarantines.lookup channel with
  | none => none
  | some set => if set.contains targetClosure then some (.quarantined channel targetClosure)
      else none

/-- `channel_edges::predecessor_active`. A predecessor without a manifest has no work; one
whose rollout is not open yet is about to have some. -/
def predecessorActive (fs : FleetState) (manifests : SignedManifestSet)
    (predecessor : ChannelId) : Bool :=
  match manifests.rollouts.lookup predecessor with
  | none => false
  | some manifest =>
      match fs.rollouts.lookup (.new predecessor manifest.channelRef) with
      | none => true
      | some summary => summary.terminalAt.isNone

/-- `channel_edges::check`. -/
def channelEdgesCheck (fs : FleetState) (manifests : SignedManifestSet)
    (successorChannel : ChannelId) : Option GateBlock :=
  ((manifests.fleet.channelEdges.filter (·.gated = successorChannel)).find? fun e =>
    predecessorActive fs manifests e.gates).map fun e => .channelEdges e.gates

/-- The first wave that lists the host. -/
def waveOf (waves : List Wave) (host : HostId) : Option Nat :=
  waves.findIdx? fun w => w.hosts.any (· == host)

/-- `wave_promotion::check`. A channel without waves does not gate; a host in none of its
channel's waves is held back. -/
def wavePromotionCheck (fs : FleetState) (manifests : SignedManifestSet) (host : HostId)
    (rolloutId : RolloutId) : Option GateBlock :=
  match manifests.fleet.hosts.lookup host with
  | none => none
  | some h =>
      match manifests.fleet.waves.lookup h.channel with
      | none => none
      | some [] => none
      | some waves =>
          match waveOf waves host with
          | none => some (.hostUnstaged h.channel)
          | some hostWave =>
              let currentWave := ((fs.rollouts.lookup rolloutId).map (·.currentWave)).getD 0
              if hostWave > currentWave then some (.wavePromotion hostWave currentWave) else none

/-- Converged, or staged for the next reboot: the host no longer holds others back. -/
def HostState.orderingEligible (s : HostState) : Bool := s = .converged || s = .deferred

/-- `host_edges::check`. Edges to another channel's host are skipped; a gating host without
a record in this rollout blocks. -/
def hostEdgesCheck (fs : FleetState) (manifests : SignedManifestSet) (host : HostId)
    (rolloutId : RolloutId) : Option GateBlock :=
  match manifests.fleet.hosts.lookup host with
  | none => none
  | some h =>
      ((manifests.fleet.edges.filter (·.gated = host)).find? fun e =>
        (match manifests.fleet.hosts.lookup e.gates with
          | some g => g.channel = h.channel
          | none => false) &&
        !(match fs.hostStates.lookup (rolloutId, e.gates) with
          | some s => s.state.orderingEligible
          | none => false)).map fun e => .hostEdge e.gates

/-- `disruption_budget::is_in_flight`. A `Pending` host is not in flight. -/
def HostState.isInFlight (s : HostState) : Bool := s = .activating || s = .soaking

/-- The rows of one rollout whose host is in `hosts` and in flight. -/
def inFlightRows (fs : FleetState) (rolloutId : RolloutId) (hosts : List HostId) :
    List ((RolloutId × HostId) × HostRolloutState) :=
  fs.hostStates.rows.filter fun r =>
    r.1.1 = rolloutId ∧ hosts.any (· == r.1.2) ∧ r.2.state.isInFlight

/-- `disruption_budget::in_flight_count`: over every rollout, the hosts in flight of the
first of its budgets with this selector. -/
def inFlightCount (fs : FleetState) (selector : Selector) : Nat :=
  (fs.rollouts.rows.map fun r =>
    match r.2.budgets.find? (·.selector = selector) with
    | none => 0
    | some budget => (inFlightRows fs r.1 budget.hosts).length).sum

/-- `disruption_budget::check`. A budget without `max_in_flight` is skipped. -/
def disruptionBudgetCheck (fs : FleetState) (rolloutId : RolloutId) (host : HostId)
    (tickDispatched : TickDispatched) : Option GateBlock :=
  match fs.rollouts.lookup rolloutId with
  | none => none
  | some rollout =>
      rollout.budgets.findSome? fun budget =>
        if !budget.hosts.any (· == host) then none
        else
          match budget.maxInFlight with
          | none => none
          | some max =>
              let total := inFlightCount fs budget.selector + tickDispatched budget.selector
              if total ≥ max then
                some (.disruptionBudget total max budget.selector.summary) else none

/-- `compliance_wave::check`: outstanding failures on hosts of earlier waves. -/
def complianceWaveCheck (fs : FleetState) (manifests : SignedManifestSet) (host : HostId)
    (rolloutId : RolloutId) : Option GateBlock :=
  match manifests.fleet.hosts.lookup host with
  | none => none
  | some h =>
      let waves := (manifests.fleet.waves.lookup h.channel).getD []
      match waveOf waves host with
      | none => none
      | some 0 => none
      | some hostWave =>
          match fs.outstandingFailingEnforceProbes.lookup rolloutId with
          | none => none
          | some perHost =>
              let failingCount := ((waves.take hostWave).flatMap fun w =>
                w.hosts.map fun h => (perHost.lookup h).getD 0).sum
              if failingCount > 0 then some (.complianceWave failingCount hostWave) else none

/-- `evaluate_for_dispatch`: the first gate that blocks. -/
def evaluateForDispatch (fs : FleetState) (manifests : SignedManifestSet)
    (quarantines : QuarantineSet) (rolloutId : RolloutId) (host : HostId)
    (targetClosure : ClosureHash) (channel : ChannelId) (tickDispatched : TickDispatched) :
    Option GateBlock :=
  (quarantineCheck quarantines channel targetClosure).or <|
  (channelEdgesCheck fs manifests channel).or <|
  (wavePromotionCheck fs manifests host rolloutId).or <|
  (hostEdgesCheck fs manifests host rolloutId).or <|
  (disruptionBudgetCheck fs rolloutId host tickDispatched).or <|
  complianceWaveCheck fs manifests host rolloutId

end Nixfleet
