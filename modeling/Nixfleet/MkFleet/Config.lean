import Nixfleet.Host.State

set_option autoImplicit false

/-!
# The fleet as declared

The options of `mkFleet` that the invariant check and the resolved fleet read, and the
selectors of `fleet.nix`, which nest with `and` and `not`. An attribute set is a `Table`; Nix
lists its names in alphabetical order.
-/

namespace Nixfleet

/-- `lib.attrNames`. -/
def attrNames {β : Type*} (t : Table String β) : List String :=
  (t.rows.map Prod.fst).insertionSort (· ≤ ·)

/-- `lib.optional`. -/
def optional (cond : Bool) (message : String) : List String := if cond then [message] else []

@[simp] theorem mem_attrNames {β : Type*} {t : Table String β} {name : String} :
    name ∈ attrNames t ↔ (t.lookup name).isSome = true := by
  simp [attrNames, Option.isSome_iff_exists]

@[simp] theorem optional_eq_nil {cond : Bool} {message : String} :
    optional cond message = [] ↔ cond = false := by
  cases cond <;> simp [optional]

/-! ## Options -/

/-- `pinType`. -/
structure Pin where
  commit : String
  reason : String
  expiresAt : Option String
deriving DecidableEq, Repr

inductive ProbeKind where
  | http
  | tcp
  | exec
  | evidence
deriving DecidableEq, Repr

/-- The mode of one control, with the reason for it. -/
structure ControlOverride where
  mode : ProbeMode
  reason : String
deriving DecidableEq, Repr

/-- `healthProbeType`. -/
structure HealthProbe where
  kind : ProbeKind
  mode : ProbeMode
  intervalSeconds : Int
  runOnce : Bool
  url : Option String
  expectStatus : Int
  host : Option String
  port : Option Int
  connectTimeoutSecs : Int
  command : List String
  timeoutSecs : Int
  framework : Option String
  evidencePath : String
  controlOverrides : Table String ControlOverride
  controls : Table String ControlOverride

/-- `complianceFrameworkEntryType`, or the bare name of a framework. -/
inductive ComplianceEntry where
  | bare (name : String)
  | framework (name : String) (mode : Option ProbeMode)
      (controlOverrides : Table String ControlOverride)

/-- `complianceType`. -/
structure ChannelCompliance where
  frameworks : List ComplianceEntry
  mode : ProbeMode

/-- `hostType`. Of `configuration` only whether it is a nixosConfiguration is read. -/
structure HostConfig where
  system : String
  configuration : Option Bool
  tags : List String
  channel : ChannelId
  pubkey : Option String
  pin : Option Pin
  healthChecks : Table String HealthProbe

/-- `tagType`. -/
structure TagConfig where
  pin : Option Pin
  healthChecks : Table String HealthProbe

/-- `channelType`. -/
structure ChannelConfig where
  rolloutPolicy : String
  reconcileIntervalMinutes : Nat
  signingIntervalMinutes : Nat
  freshnessWindow : Nat
  healthChecks : Table String HealthProbe
  compliance : ChannelCompliance

/-- `selectorType`: `not` precedes `and`, and `and` precedes the other fields. -/
inductive NixSelector where
  | mk (tags tagsAny : List String) (hosts : List HostId) (channel : Option ChannelId)
      (all : Bool) (and : List NixSelector) (not : Option NixSelector)

/-- `waveType`. -/
structure WaveConfig where
  selector : NixSelector
  soakMinutes : Nat

/-- `policyType`. -/
structure PolicyConfig where
  strategy : String
  waves : List WaveConfig
  onHealthFailure : OnHealthFailure

/-- `hostEdgeType`. -/
structure HostEdgeConfig where
  gated : HostId
  gates : HostId
  reason : String
deriving DecidableEq, Repr

/-- `channelEdgeType`; `before` and `after` are aliases of `gates` and `gated`. -/
structure ChannelEdgeConfig where
  gates : Option ChannelId
  gated : Option ChannelId
  before : Option ChannelId
  after : Option ChannelId
  reason : String
deriving DecidableEq, Repr

/-- `budgetType`. -/
structure BudgetConfig where
  selector : NixSelector
  maxInFlight : Option Nat
  maxInFlightPct : Option Nat

/-- The options of `mkFleet`. -/
structure FleetConfig where
  hosts : Table HostId HostConfig
  tags : Table String TagConfig
  channels : Table ChannelId ChannelConfig
  rolloutPolicies : Table String PolicyConfig
  edges : List HostEdgeConfig
  channelEdges : List ChannelEdgeConfig
  disruptionBudgets : List BudgetConfig
  healthChecks : Table String HealthProbe

/-! ## Selectors -/

/-- The fields other than `and` and `not`, as alternatives. -/
def matchBase (tags tagsAny : List String) (hosts : List HostId) (channel : Option ChannelId)
    (all : Bool) (n : HostId) (h : HostConfig) : Bool :=
  all
    || (!hosts.isEmpty && hosts.contains n)
    || (channel.any fun c => h.channel == c)
    || (!tags.isEmpty && tags.all (h.tags.contains ·))
    || (!tagsAny.isEmpty && tagsAny.any (h.tags.contains ·))

mutual

/-- `matchHost`. -/
def matchHost : NixSelector → HostId → HostConfig → Bool
  | .mk _ _ _ _ _ _ (some s), n, h => !matchHost s n h
  | .mk _ _ _ _ _ (s :: ss) none, n, h => matchAll (s :: ss) n h
  | .mk tags tagsAny hosts channel all [] none, n, h =>
      matchBase tags tagsAny hosts channel all n h

/-- `lib.all` over the selectors of an `and`. -/
def matchAll : List NixSelector → HostId → HostConfig → Bool
  | [], _, _ => true
  | s :: ss, n, h => matchHost s n h && matchAll ss n h

end

/-- `resolveSelector`. -/
def resolveSelector (sel : NixSelector) (hosts : Table HostId HostConfig) : List HostId :=
  (attrNames hosts).filter fun n => (hosts.lookup n).any (matchHost sel n)

/-- The selector that Rust reads: `and` and `not` are not fields of its type. -/
def NixSelector.wire : NixSelector → Selector
  | .mk tags tagsAny hosts channel all _ _ => ⟨tags, tagsAny, hosts, channel, all⟩

end Nixfleet
