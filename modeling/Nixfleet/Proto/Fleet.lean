import Nixfleet.Lib.Table

set_option autoImplicit false

/-!
# The signed fleet and the rollout manifests

The wire types of `nixfleet-proto` that the control plane decides on: the resolved fleet
(`fleet.resolved.json`), the per-channel rollout manifest and the canonical rollout id.
A timestamp is a count of nanoseconds, and a JSON object keyed by a name is a `Table`.
-/

namespace Nixfleet

/-- A UTC timestamp, in nanoseconds. -/
abbrev Time := Int

/-- `chrono::Duration::minutes`. -/
def minutes (m : Nat) : Int := (m : Int) * 60 * 1000000000

/-- `chrono::Duration::hours`. -/
def hours (h : Int) : Int := h * 3600 * 1000000000

abbrev HostId := String
abbrev ChannelId := String
abbrev ChannelRef := String
abbrev ClosureHash := String
abbrev Bytes := List UInt8

/-- The canonical rollout id, the string `"{channel}@{channel_ref}"`. -/
structure RolloutId where
  asStr : String
deriving DecidableEq, Repr

/-- `RolloutId::new`. -/
def RolloutId.new (channel : ChannelId) (channelRef : ChannelRef) : RolloutId :=
  ⟨channel ++ "@" ++ channelRef⟩

/-! ## The resolved fleet -/

inductive OnHealthFailure where
  | halt
  | rollbackAndHalt
deriving DecidableEq, Repr

structure Host where
  system : String
  tags : List String
  channel : ChannelId
  closureHash : Option ClosureHash
  pubkey : Option String
deriving DecidableEq, Repr

structure Channel where
  rolloutPolicy : String
  reconcileIntervalMinutes : Nat
  freshnessWindow : Nat
  signingIntervalMinutes : Nat
deriving DecidableEq, Repr

structure Selector where
  tags : List String
  tagsAny : List String
  hosts : List HostId
  channel : Option ChannelId
  all : Bool
deriving DecidableEq, Repr

/-- `Selector::default`. -/
def Selector.empty : Selector := ⟨[], [], [], none, false⟩

/-- `Selector::matches`: the fields are alternatives, the tags of one field conjoin. -/
def Selector.matches (s : Selector) (hostName : HostId) (host : Host) : Bool :=
  s.all
    || (!s.hosts.isEmpty && s.hosts.any (· == hostName))
    || (match s.channel with
        | some ch => host.channel == ch
        | none => false)
    || (!s.tags.isEmpty && s.tags.all (host.tags.contains ·))
    || (!s.tagsAny.isEmpty && s.tagsAny.any (host.tags.contains ·))

/-- `Selector::resolve`: the names of the matching hosts, in the order given. -/
def Selector.resolve (s : Selector) (hosts : List (HostId × Host)) : List HostId :=
  (hosts.filter fun e => s.matches e.1 e.2).map Prod.fst

/-- `Selector::summary`: the first field that is set, with its names sorted. -/
def Selector.summary (s : Selector) : String :=
  let sorted (names : List String) := ",".intercalate (names.insertionSort (· ≤ ·))
  if s.all then "all"
  else
    match s.channel with
    | some channel => "channel:" ++ channel
    | none =>
        if !s.tags.isEmpty then "tags:" ++ sorted s.tags
        else if !s.tagsAny.isEmpty then "tags_any:" ++ sorted s.tagsAny
        else if !s.hosts.isEmpty then "hosts:" ++ sorted s.hosts
        else "unknown"

structure PolicyWave where
  selector : Selector
  soakMinutes : Nat
deriving DecidableEq, Repr

structure RolloutPolicy where
  strategy : String
  waves : List PolicyWave
  onHealthFailure : OnHealthFailure
deriving DecidableEq, Repr

structure Wave where
  hosts : List HostId
  soakMinutes : Nat
deriving DecidableEq, Repr

/-- A host ordering edge: `gated` waits for `gates`. -/
structure Edge where
  gated : HostId
  gates : HostId
  reason : Option String
deriving DecidableEq, Repr

/-- A channel ordering edge: `gated` waits for `gates`. -/
structure ChannelEdge where
  gates : ChannelId
  gated : ChannelId
  reason : Option String
deriving DecidableEq, Repr

structure DisruptionBudget where
  selector : Selector
  maxInFlight : Option Nat
  maxInFlightPct : Option Nat
deriving DecidableEq, Repr

structure Meta where
  schemaVersion : Nat
  signedAt : Option Time
  ciCommit : Option String
  signatureAlgorithm : Option String
deriving DecidableEq, Repr

/-- `fleet.resolved.json`. -/
structure FleetResolved where
  schemaVersion : Nat
  hosts : Table HostId Host
  channels : Table ChannelId Channel
  rolloutPolicies : Table String RolloutPolicy
  waves : Table ChannelId (List Wave)
  edges : List Edge
  channelEdges : List ChannelEdge
  disruptionBudgets : List DisruptionBudget
  fleetMeta : Meta

/-- `STRATEGY_ALL_AT_ONCE`. -/
def strategyAllAtOnce : String := "all-at-once"

/-- `normalize_rollout_policies`: an all-at-once policy that declares no waves gets one of all
hosts, without soak. -/
def normalizeRolloutPolicies (fleet : FleetResolved) : FleetResolved :=
  { fleet with
    rolloutPolicies := fleet.rolloutPolicies.mapRows fun _ policy =>
      if policy.strategy = strategyAllAtOnce ∧ policy.waves.isEmpty then
        { policy with waves := [⟨{ Selector.empty with all := true }, 0⟩] }
      else policy }

/-! ## Rollout manifests -/

structure HostWave where
  hostname : HostId
  waveIndex : Nat
  targetClosure : ClosureHash
deriving DecidableEq, Repr

structure RolloutBudget where
  selector : Selector
  hosts : List HostId
  maxInFlight : Option Nat
  maxInFlightPct : Option Nat
deriving DecidableEq, Repr

structure RolloutManifest where
  schemaVersion : Nat
  displayName : String
  channel : ChannelId
  channelRef : ChannelRef
  fleetResolvedHash : String
  hostSet : List HostWave
  disruptionBudgets : List RolloutBudget
  manifestMeta : Meta
deriving DecidableEq, Repr

/-- The verified artifacts the control plane holds: one fleet and a manifest per channel. -/
structure SignedManifestSet where
  fleet : FleetResolved
  rollouts : Table ChannelId RolloutManifest

end Nixfleet
