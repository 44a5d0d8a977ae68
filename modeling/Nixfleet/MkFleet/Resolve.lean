import Nixfleet.Lib.Except
import Nixfleet.MkFleet.Config
import Nixfleet.MkFleet.Cycle

set_option autoImplicit false

/-!
# The invariant check and the resolved fleet

`checkInvariants` collects the violations of a declared fleet, each with its message, and
`resolveFleet` projects an accepted fleet to the wire. Warnings and the probe sets that are
rendered into the hosts' closures are left out: the control plane reads neither.

`wellFormed_of_checkInvariants` reads off what an accepted fleet satisfies; the later results
use its acyclic host edges.
-/

namespace Nixfleet

/-- Why an evaluation fails: a `throw`, or a null where Nix needs a string. -/
inductive NixError where
  | thrown (message : String)
  | nullString
deriving DecidableEq, Repr

/-- The attributes of a set with their names, in the order of `lib.mapAttrsToList`. -/
def attrRows {β : Type*} (t : Table String β) : List (String × β) :=
  (attrNames t).filterMap fun n => (t.lookup n).map fun v => (n, v)

@[simp] theorem mem_attrRows {β : Type*} {t : Table String β} {n : String} {v : β} :
    (n, v) ∈ attrRows t ↔ t.lookup n = some v := by
  simp only [attrRows, List.mem_filterMap, mem_attrNames, Option.map_eq_some_iff,
    Prod.mk.injEq]
  constructor
  · rintro ⟨n', -, v', hv, rfl, rfl⟩
    exact hv
  · intro hv
    exact ⟨n, by rw [hv]; rfl, v, hv, rfl, rfl⟩

/-! ## Compliance probes -/

/-- An entry of `compliance.frameworks` with its defaults filled in. -/
structure ComplianceFramework where
  name : String
  mode : ProbeMode
  controlOverrides : Table String ControlOverride

/-- `normalizeComplianceEntry`. -/
def normalizeComplianceEntry (defaultMode : ProbeMode) : ComplianceEntry → ComplianceFramework
  | .bare name => ⟨name, defaultMode, ∅⟩
  | .framework name mode controlOverrides => ⟨name, mode.getD defaultMode, controlOverrides⟩

/-- The probe that an entry of `compliance.frameworks` stands for. -/
def ComplianceFramework.probe (fw : ComplianceFramework) : HealthProbe where
  kind := .evidence
  mode := fw.mode
  framework := some fw.name
  controlOverrides := fw.controlOverrides
  controls := ∅
  evidencePath := "/var/lib/nixfleet-compliance/evidence.json"
  intervalSeconds := 30
  runOnce := false
  url := none
  expectStatus := 200
  host := none
  port := none
  connectTimeoutSecs := 5
  command := []
  timeoutSecs := 10

/-- `synthesized`: of two entries of one name the first counts. -/
def ChannelConfig.synthesized (c : ChannelConfig) : Table String HealthProbe :=
  (c.compliance.frameworks.map (normalizeComplianceEntry c.compliance.mode)).foldr
    (fun fw t => t.insert ("evidence-" ++ fw.name) fw.probe) ∅

/-- `channelEffectiveHealthChecks`. -/
def channelEffectiveHealthChecks (channelName : ChannelId) (c : ChannelConfig) :
    Except NixError (Table String HealthProbe) :=
  let collisions := (attrNames c.synthesized).filter (attrNames c.healthChecks).contains
  if collisions ≠ [] then
    .error (.thrown ("channel '" ++ channelName ++ "': compliance.frameworks synthesizes probe(s) ["
      ++ ", ".intercalate collisions ++ "] that collide with explicit healthChecks entries. "
      ++ "Remove the framework from compliance.frameworks, or rename the explicit healthChecks "
      ++ "entry."))
  else .ok (c.synthesized.rows.foldl (fun t r => t.insert r.1 r.2) c.healthChecks)

/-! ## The violations -/

def hostChannelErrors (cfg : FleetConfig) : List String :=
  (attrRows cfg.hosts).flatMap fun h =>
    optional (!(cfg.channels.lookup h.2.channel).isSome)
      ("host '" ++ h.1 ++ "' references unknown channel '" ++ h.2.channel ++ "'")

def channelPolicyErrors (cfg : FleetConfig) : List String :=
  (attrRows cfg.channels).flatMap fun c =>
    optional (!(cfg.rolloutPolicies.lookup c.2.rolloutPolicy).isSome)
      ("channel '" ++ c.1 ++ "' references unknown rollout policy '" ++ c.2.rolloutPolicy ++ "'")

/-- The ends of an edge that are on different channels; an unknown end has no channel. -/
def crossChannel (cfg : FleetConfig) (e : HostEdgeConfig) : List String :=
  match cfg.hosts.lookup e.gated, cfg.hosts.lookup e.gates with
  | some gated, some gates =>
      optional (gated.channel ≠ gates.channel)
        ("edge.gated '" ++ e.gated ++ "' (channel '" ++ gated.channel ++ "') and edge.gates '"
          ++ e.gates ++ "' (channel '" ++ gates.channel
          ++ "') are on different channels; use channelEdges for cross-channel ordering")
  | _, _ => []

def edgeErrors (cfg : FleetConfig) : List String :=
  cfg.edges.flatMap fun e =>
    optional (!(cfg.hosts.lookup e.gated).isSome)
      ("edge.gated references unknown host '" ++ e.gated ++ "'")
    ++ optional (!(cfg.hosts.lookup e.gates).isSome)
      ("edge.gates references unknown host '" ++ e.gates ++ "'")
    ++ crossChannel cfg e

def channelEdgeShapeErrors (cfg : FleetConfig) : List String :=
  cfg.channelEdges.flatMap fun e =>
    optional (e.gates.isSome && e.before.isSome)
      "channelEdges entry sets both `gates` and `before` - pick one (canonical: `gates`)"
    ++ optional (e.gated.isSome && e.after.isSome)
      "channelEdges entry sets both `gated` and `after` - pick one (canonical: `gated`)"
    ++ optional (e.gates.isNone && e.before.isNone)
      "channelEdges entry must set `gates` (or legacy alias `before`)"
    ++ optional (e.gated.isNone && e.after.isNone)
      "channelEdges entry must set `gated` (or legacy alias `after`)"

/-- `normalizeChannelEdge`; `none` when an end is null. -/
def normalizeChannelEdge (e : ChannelEdgeConfig) : Option ChannelEdge :=
  match e.gates.or e.before, e.gated.or e.after with
  | some gates, some gated => some ⟨gates, gated, some e.reason⟩
  | _, _ => none

/-- `normalizedChannelEdges`. With a null end the cycle check, or the message about the unknown
channel, uses the null as a string. -/
def normalizedChannelEdges (cfg : FleetConfig) : Except NixError (List ChannelEdge) :=
  cfg.channelEdges.mapM fun e =>
    match normalizeChannelEdge e with
    | some edge => .ok edge
    | none => .error .nullString

def channelEdgeErrors (cfg : FleetConfig) (channelEdges : List ChannelEdge) : List String :=
  channelEdges.flatMap fun e =>
    optional (!(cfg.channels.lookup e.gates).isSome)
      ("channelEdges.gates references unknown channel '" ++ e.gates ++ "'")
    ++ optional (!(cfg.channels.lookup e.gated).isSome)
      ("channelEdges.gated references unknown channel '" ++ e.gated ++ "'")
    ++ optional (e.gates = e.gated)
      ("channelEdges entry has gates == gated ('" ++ e.gates
        ++ "'); use a wave-staged policy for intra-channel ordering instead")

def configurationErrors (cfg : FleetConfig) : List String :=
  (attrRows cfg.hosts).flatMap fun h =>
    optional (h.2.configuration = some false)
      ("host '" ++ h.1 ++ "' configuration is not a valid nixosConfiguration (missing "
        ++ "config.system.build.toplevel) and `nixosArgs` is not set")

/-- A declared probe, with the place where it is declared. -/
structure ProbeSite where
  scope : String
  probe : HealthProbe

/-- The sites of one set of probes. -/
def probeSites (scope : String) (probes : Table String HealthProbe) : List ProbeSite :=
  (attrRows probes).map fun p => ⟨scope ++ p.1, p.2⟩

/-- `probeDeclSites`. -/
def probeDeclSites (cfg : FleetConfig) : Except NixError (List ProbeSite) := do
  let channelSites ← (attrRows cfg.channels).mapM fun c => do
    let probes ← channelEffectiveHealthChecks c.1 c.2
    .ok (probeSites ("channel:" ++ c.1 ++ ":") probes)
  .ok (probeSites "fleet:" cfg.healthChecks
    ++ (attrRows cfg.tags).flatMap (fun t => probeSites ("tag:" ++ t.1 ++ ":") t.2.healthChecks)
    ++ channelSites.flatten
    ++ (attrRows cfg.hosts).flatMap (fun h => probeSites ("host:" ++ h.1 ++ ":") h.2.healthChecks))

/-- The violations of one site. -/
def ProbeSite.errors (site : ProbeSite) : List String :=
  let p := site.probe
  let hasControls := !p.controls.rows.isEmpty
  let hasOverrides := !p.controlOverrides.rows.isEmpty
  let violation (cond : Bool) (message : String) : List String :=
    optional cond ("probe " ++ site.scope ++ ": " ++ message)
  violation (p.intervalSeconds = 0 && !p.runOnce)
    "intervalSeconds = 0 is ambiguous; use runOnce = true for one-shot semantics"
  ++ violation (p.runOnce && p.intervalSeconds ≠ 30)
    "runOnce = true conflicts with non-default intervalSeconds"
  ++ violation (p.kind = .http && p.url.isNone) "kind=http requires url"
  ++ violation (p.kind = .tcp && p.port.isNone) "kind=tcp requires port"
  ++ violation (p.kind = .exec && p.command.isEmpty) "kind=exec requires non-empty command"
  ++ violation (p.kind = .evidence && p.framework.isNone && !hasControls)
    "kind=evidence requires either framework or controls"
  ++ violation (p.kind = .evidence && p.framework.isSome && hasControls)
    "kind=evidence accepts framework XOR controls, not both"
  ++ violation (p.kind = .evidence && p.framework.isNone && hasOverrides)
    ("controlOverrides only applies with framework set; use controls for explicit per-control "
      ++ "declaration")

def probeDeclErrors (sites : List ProbeSite) : List String := sites.flatMap (·.errors)

/-- The host edges as the cycle check reads them. -/
def FleetConfig.edgePairs (cfg : FleetConfig) : List (HostId × HostId) :=
  cfg.edges.map fun e => (e.gated, e.gates)

def cycleErrors (cfg : FleetConfig) : List String :=
  optional (hasCycle cfg.edgePairs) "edges form a cycle; the DAG invariant is violated"

def channelCycleErrors (channelEdges : List ChannelEdge) : List String :=
  optional (hasCycle (channelEdges.map fun e => (e.gated, e.gates)))
    "channelEdges form a cycle; cross-channel ordering must be a DAG"

def freshnessErrors (cfg : FleetConfig) : List String :=
  (attrRows cfg.channels).flatMap fun c =>
    optional (c.2.freshnessWindow < 2 * c.2.signingIntervalMinutes)
      ("channel '" ++ c.1 ++ "': freshnessWindow (" ++ toString c.2.freshnessWindow
        ++ ") must be ≥ 2 × signingIntervalMinutes (" ++ toString c.2.signingIntervalMinutes
        ++ ")")

/-- `pinnedTagNames`. -/
def pinnedTagNames (cfg : FleetConfig) (host : HostConfig) : List String :=
  host.tags.filter fun t => ((cfg.tags.lookup t).bind (·.pin)).isSome

def pinTagConflictErrors (cfg : FleetConfig) : List String :=
  (attrRows cfg.hosts).flatMap fun h =>
    optional (h.2.pin.isNone && (pinnedTagNames cfg h.2).length > 1)
      ("host '" ++ h.1 ++ "' is in multiple tags with pins ("
        ++ ", ".intercalate (pinnedTagNames cfg h.2)
        ++ ") - disambiguate by lifting one of these pins to a host-level declaration on '"
        ++ h.1 ++ "', or removing the pin from one of the tags")

/-- `errs`. -/
def violations (cfg : FleetConfig) (channelEdges : List ChannelEdge) (sites : List ProbeSite) :
    List String :=
  hostChannelErrors cfg ++ channelPolicyErrors cfg ++ edgeErrors cfg
    ++ channelEdgeShapeErrors cfg ++ channelEdgeErrors cfg channelEdges
    ++ configurationErrors cfg ++ probeDeclErrors sites ++ cycleErrors cfg
    ++ channelCycleErrors channelEdges ++ freshnessErrors cfg ++ pinTagConflictErrors cfg

/-- `checkInvariants`. The probe sites are evaluated before a null end of a channel edge is. -/
def checkInvariants (cfg : FleetConfig) : Except NixError Unit := do
  let sites ← probeDeclSites cfg
  let channelEdges ← normalizedChannelEdges cfg
  let errs := violations cfg channelEdges sites
  if errs = [] then .ok ()
  else
    .error (.thrown ("nixfleet invariant violations:\n  - " ++ "\n  - ".intercalate errs))

/-! ## The resolved fleet -/

/-- A host of the resolved fleet; the release tool fills in its closure. -/
def HostConfig.resolved (h : HostConfig) : Host := ⟨h.system, h.tags, h.channel, none, h.pubkey⟩

def ChannelConfig.resolved (c : ChannelConfig) : Channel :=
  ⟨c.rolloutPolicy, c.reconcileIntervalMinutes, c.freshnessWindow, c.signingIntervalMinutes⟩

def PolicyConfig.resolved (p : PolicyConfig) : RolloutPolicy :=
  ⟨p.strategy, p.waves.map fun w => ⟨w.selector.wire, w.soakMinutes⟩, p.onHealthFailure⟩

/-- The waves of a channel: those of its policy, over the hosts of the whole fleet. -/
def resolveWaves (cfg : FleetConfig) (c : ChannelConfig) : List Wave :=
  (((cfg.rolloutPolicies.lookup c.rolloutPolicy).map (·.waves)).getD []).map fun w =>
    ⟨resolveSelector w.selector cfg.hosts, w.soakMinutes⟩

/-- `resolveFleet`. -/
def resolveFleet (cfg : FleetConfig) : Except NixError FleetResolved := do
  checkInvariants cfg
  let channelEdges ← normalizedChannelEdges cfg
  .ok {
    schemaVersion := 1
    hosts := cfg.hosts.mapRows fun _ h => h.resolved
    channels := cfg.channels.mapRows fun _ c => c.resolved
    rolloutPolicies := cfg.rolloutPolicies.mapRows fun _ p => p.resolved
    waves := cfg.channels.mapRows fun _ c => resolveWaves cfg c
    edges := cfg.edges.map fun e => ⟨e.gated, e.gates, some e.reason⟩
    channelEdges := channelEdges
    disruptionBudgets := cfg.disruptionBudgets.map fun b =>
      ⟨b.selector.wire, b.maxInFlight, b.maxInFlightPct⟩
    fleetMeta := ⟨1, none, none, none⟩ }

/-! ## Accepted fleets -/

/-- What an accepted fleet satisfies. -/
structure FleetConfig.WellFormed (cfg : FleetConfig) : Prop where
  hostChannels : ∀ n h, cfg.hosts.lookup n = some h → (cfg.channels.lookup h.channel).isSome
  channelPolicies : ∀ n c, cfg.channels.lookup n = some c →
    (cfg.rolloutPolicies.lookup c.rolloutPolicy).isSome
  edgeHosts : ∀ e ∈ cfg.edges, ∃ gated gates, cfg.hosts.lookup e.gated = some gated ∧
    cfg.hosts.lookup e.gates = some gates ∧ gated.channel = gates.channel
  grounded : ∀ n, Grounded cfg.edgePairs n
  freshness : ∀ n c, cfg.channels.lookup n = some c →
    2 * c.signingIntervalMinutes ≤ c.freshnessWindow

theorem checkInvariants_eq_ok {cfg : FleetConfig} (h : checkInvariants cfg = .ok ()) :
    ∃ sites channelEdges, probeDeclSites cfg = .ok sites ∧
      normalizedChannelEdges cfg = .ok channelEdges ∧ violations cfg channelEdges sites = [] := by
  simp only [checkInvariants, Except.bind_eq_ok] at h
  obtain ⟨sites, hs, channelEdges, hn, h⟩ := h
  refine ⟨sites, channelEdges, hs, hn, ?_⟩
  by_contra hne
  simp [hne] at h

theorem edgeHosts_of_edgeErrors {cfg : FleetConfig} (h : edgeErrors cfg = [])
    {e : HostEdgeConfig} (he : e ∈ cfg.edges) :
    ∃ gated gates, cfg.hosts.lookup e.gated = some gated ∧
      cfg.hosts.lookup e.gates = some gates ∧ gated.channel = gates.channel := by
  have hone := List.flatMap_eq_nil_iff.mp h e he
  simp only [List.append_eq_nil_iff, optional_eq_nil, Bool.not_eq_false',
    Option.isSome_iff_exists] at hone
  obtain ⟨⟨⟨gated, hgated⟩, ⟨gates, hgates⟩⟩, hcross⟩ := hone
  refine ⟨gated, gates, hgated, hgates, ?_⟩
  simpa [crossChannel, hgated, hgates] using hcross

/-- **An accepted fleet is well formed.** -/
theorem wellFormed_of_checkInvariants {cfg : FleetConfig} (h : checkInvariants cfg = .ok ()) :
    cfg.WellFormed := by
  obtain ⟨sites, channelEdges, -, -, herrs⟩ := checkInvariants_eq_ok h
  simp only [violations, List.append_eq_nil_iff] at herrs
  obtain ⟨⟨⟨⟨⟨⟨⟨⟨⟨⟨hhost, hpolicy⟩, hedge⟩, -⟩, -⟩, -⟩, -⟩, hcycle⟩, -⟩, hfresh⟩, -⟩ := herrs
  constructor
  · intro n c hn
    simpa using List.flatMap_eq_nil_iff.mp hhost (n, c) (mem_attrRows.mpr hn)
  · intro n c hn
    simpa using List.flatMap_eq_nil_iff.mp hpolicy (n, c) (mem_attrRows.mpr hn)
  · intro e he
    exact edgeHosts_of_edgeErrors hedge he
  · exact grounded_of_hasCycle (by simpa [cycleErrors] using hcycle)
  · intro n c hn
    simpa using List.flatMap_eq_nil_iff.mp hfresh (n, c) (mem_attrRows.mpr hn)

/-- Only an accepted fleet is resolved, and its edges, hosts and budgets are the declared ones. -/
theorem resolveFleet_eq_ok {cfg : FleetConfig} {resolved : FleetResolved}
    (h : resolveFleet cfg = .ok resolved) :
    checkInvariants cfg = .ok () ∧
      resolved.edges.map (fun e => (e.gated, e.gates)) = cfg.edgePairs ∧
      resolved.hosts = cfg.hosts.mapRows (fun _ h => h.resolved) ∧
      resolved.disruptionBudgets = cfg.disruptionBudgets.map fun b =>
        ⟨b.selector.wire, b.maxInFlight, b.maxInFlightPct⟩ := by
  simp only [resolveFleet, Except.bind_eq_ok, Except.ok.injEq] at h
  obtain ⟨_, hc, channelEdges, -, rfl⟩ := h
  refine ⟨hc, ?_, rfl, rfl⟩
  simp [FleetConfig.edgePairs, Function.comp_def]

theorem exists_resolved {cfg : FleetConfig} (h : (resolveFleet cfg).isOk = true) :
    ∃ resolved, resolveFleet cfg = .ok resolved := by
  cases hr : resolveFleet cfg with
  | ok resolved => exact ⟨resolved, rfl⟩
  | error err => simp [hr, Except.isOk, Except.toBool] at h

end Nixfleet
