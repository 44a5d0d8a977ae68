import Nixfleet.MkFleet.Resolve

set_option autoImplicit false

/-!
# The probes of a host

A host's probes are those of the fleet, of its tags, of its channel and its own, each scope before
the ones it overrides, and a channel has a probe for each framework it enables. Such a probe takes
its mode and the overrides of its controls from the most specific scope that sets them
(`synthesized_scoped`). But so does every other evidence probe of the channel that is about an
enabled framework, so what is declared for it is kept only where it agrees
(`resolveHealthChecks_kept_iff`).
-/

namespace Nixfleet

/-! ## Attribute sets -/

/-- `a // b`. -/
def updateAttrs {β : Type} (a b : Table String β) : Table String β := b ∪ a

/-- `lib.listToAttrs`: of two pairs of one name the first counts. -/
def listToAttrs {β : Type} (l : List (String × β)) : Table String β :=
  l.foldr (fun a t => t.insert a.1 a.2) ∅

/-- `lib.genAttrs`. -/
def genAttrs {β : Type} (names : List String) (f : String → β) : Table String β :=
  names.foldr (fun n t => t.insert n (f n)) ∅

section Attrs

variable {β : Type}

@[simp] theorem lookup_updateAttrs (a b : Table String β) (n : String) :
    (updateAttrs a b).lookup n = (b.lookup n).or (a.lookup n) :=
  Table.lookup_union_eq b a n

theorem lookup_listToAttrs (l : List (String × β)) (n : String) :
    (listToAttrs l).lookup n = (l.find? fun a => a.1 = n).map Prod.snd :=
  Table.lookup_foldr_insert Prod.fst Prod.snd l n

theorem lookup_genAttrs (names : List String) (f : String → β) (n : String) :
    (genAttrs names f).lookup n = if n ∈ names then some (f n) else none := by
  refine (Table.lookup_foldr_insert (fun n => n) f names n).trans ?_
  induction names with
  | nil => rfl
  | cons m names ih =>
      rw [List.find?_cons]
      by_cases hm : m = n
      · simp [hm]
      · have hne : ¬ n = m := fun h => hm h.symm
        simpa [hm, hne] using ih

end Attrs

/-! ## Compliance -/

/-- `complianceFrameworkScopeType`: what a scope sets for a framework. -/
structure FrameworkScope where
  mode : Option ProbeMode
  reason : String
  controlOverrides : Table String ControlOverride

/-- `emptyFw`. -/
def emptyFw : FrameworkScope := ⟨none, "", ∅⟩

/-- The options of `mkFleet`, with `compliance.frameworks` of the fleet, of its tags and of its
hosts. -/
structure ComplianceConfig extends FleetConfig where
  fleetFw : Table String FrameworkScope
  tagFw : String → Table String FrameworkScope
  hostFw : HostId → Table String FrameworkScope

/-- `mergeFwValue`. -/
def mergeFwValue (acc v : FrameworkScope) : FrameworkScope where
  mode := v.mode.or acc.mode
  reason := if v.reason ≠ "" then v.reason else acc.reason
  controlOverrides := updateAttrs acc.controlOverrides v.controlOverrides

/-- What a scope sets for a framework, if anything. -/
def frameworkAt (scope : Table String FrameworkScope) (name : String) : FrameworkScope :=
  (scope.lookup name).getD emptyFw

/-- `mergeFwAttrs`. -/
def mergeFwAttrs (a b : Table String FrameworkScope) : Table String FrameworkScope :=
  genAttrs (attrNames a ++ attrNames b).eraseDups fun n =>
    mergeFwValue (frameworkAt a n) (frameworkAt b n)

def ComplianceEntry.name : ComplianceEntry → String
  | .bare name => name
  | .framework name _ _ => name

/-- What an entry sets by itself: a bare name nothing. -/
def ComplianceEntry.scope : ComplianceEntry → FrameworkScope
  | .bare _ => emptyFw
  | .framework _ mode controlOverrides => ⟨mode, "", controlOverrides⟩

/-- `channelByName`. -/
def channelByName (entries : List ComplianceEntry) : Table String FrameworkScope :=
  listToAttrs (entries.map fun raw => (raw.name, raw.scope))

/-- `tagFwMerged`. -/
def tagFwMerged (cfg : ComplianceConfig) (host : HostConfig) : Table String FrameworkScope :=
  host.tags.foldl (fun acc tag =>
    if (cfg.tags.lookup tag).isSome then mergeFwAttrs acc (cfg.tagFw tag) else acc) ∅

/-- A framework with what holds for a host. -/
structure EffectiveFramework where
  mode : ProbeMode
  reason : String
  controlOverrides : Table String ControlOverride

/-- `scoped`: the scopes of a host merged, the broadest first. -/
def scopedFw (cfg : ComplianceConfig) (hostName : HostId) (host : HostConfig)
    (channelByName : Table String FrameworkScope) : Table String FrameworkScope :=
  mergeFwAttrs (mergeFwAttrs (mergeFwAttrs cfg.fleetFw (tagFwMerged cfg host)) channelByName)
    (cfg.hostFw hostName)

/-- `resolveCompliance`. -/
def resolveCompliance (cfg : ComplianceConfig) (hostName : HostId) (host : HostConfig) :
    Table String EffectiveFramework :=
  let channel := (cfg.channels.lookup host.channel).map (·.compliance)
  let channelMode := (channel.map (·.mode)).getD .enforce
  let channelByName := channelByName ((channel.map (·.frameworks)).getD [])
  genAttrs (attrNames channelByName) fun name =>
    let r := frameworkAt (scopedFw cfg hostName host channelByName) name
    ⟨r.mode.getD channelMode, r.reason, r.controlOverrides⟩

/-! ## Probes -/

/-- What becomes of a probe of the channel. -/
def applyCompliance (effectiveCompliance : Table String EffectiveFramework)
    (probe : HealthProbe) : HealthProbe :=
  if probe.kind ≠ .evidence then probe
  else
    match probe.framework with
    | none => probe
    | some framework =>
        match effectiveCompliance.lookup framework with
        | none => probe
        | some fw =>
            { probe with
              mode := fw.mode
              controlOverrides := updateAttrs probe.controlOverrides fw.controlOverrides }

/-- The probes of a host's tags. -/
def tagScopes (cfg : ComplianceConfig) (host : HostConfig) : Table String HealthProbe :=
  host.tags.foldl (fun acc tag =>
    match cfg.tags.lookup tag with
    | some t => updateAttrs acc t.healthChecks
    | none => acc) ∅

/-- `resolveHealthChecks`. -/
def resolveHealthChecks (cfg : ComplianceConfig) (hostName : HostId) (host : HostConfig) :
    Except NixError (Table String HealthProbe) := do
  let rawChannelScope ← match cfg.channels.lookup host.channel with
    | some c => channelEffectiveHealthChecks host.channel c
    | none => .ok ∅
  let channelScope := rawChannelScope.mapRows fun _ probe =>
    applyCompliance (resolveCompliance cfg hostName host) probe
  .ok (updateAttrs (updateAttrs (updateAttrs cfg.healthChecks (tagScopes cfg host)) channelScope)
    host.healthChecks)

/-! ## What a scope sets -/

/-- The scopes that may set something for a framework on a host, the most specific one first. Of
two tags the later one is more specific. -/
def scopesOf (cfg : ComplianceConfig) (hostName : HostId) (host : HostConfig) (c : ChannelConfig)
    (framework : String) : List FrameworkScope :=
  [frameworkAt (cfg.hostFw hostName) framework,
    frameworkAt (channelByName c.compliance.frameworks) framework] ++
  ((host.tags.filter fun tag => (cfg.tags.lookup tag).isSome).reverse.map fun tag =>
    frameworkAt (cfg.tagFw tag) framework) ++
  [frameworkAt cfg.fleetFw framework]

/-- The mode from the most specific scope that sets one; the channel's if none does. -/
def mostSpecificMode (cfg : ComplianceConfig) (hostName : HostId) (host : HostConfig)
    (c : ChannelConfig) (framework : String) : ProbeMode :=
  ((scopesOf cfg hostName host c framework).findSome? (·.mode)).getD c.compliance.mode

/-- The override of a control from the most specific scope that sets one. -/
def mostSpecificOverride (cfg : ComplianceConfig) (hostName : HostId) (host : HostConfig)
    (c : ChannelConfig) (framework control : String) : Option ControlOverride :=
  (scopesOf cfg hostName host c framework).findSome? fun s => s.controlOverrides.lookup control

/-- The channel enables the framework. -/
def ChannelConfig.Enables (c : ChannelConfig) (framework : String) : Prop :=
  ∃ entry ∈ c.compliance.frameworks, entry.name = framework

/-- The probes are equal; their overrides are when they have the same entries. -/
structure HealthProbe.Same (p q : HealthProbe) : Prop where
  fields : { p with controlOverrides := ∅ } = { q with controlOverrides := ∅ }
  overrides : ∀ control, p.controlOverrides.lookup control = q.controlOverrides.lookup control

/-- Every explicit probe of the channel that the host does not declare again is as declared. -/
def ExplicitKept (host : HostConfig) (c : ChannelConfig) (probes : Table String HealthProbe) :
    Prop :=
  ∀ name probe, c.healthChecks.lookup name = some probe → host.healthChecks.lookup name = none →
    ∃ p, probes.lookup name = some p ∧ p.Same probe

/-- Every probe that an enabled framework stands for, and that the host does not declare again, has
its mode and its overrides from the most specific scopes. -/
def SynthesizedScoped (cfg : ComplianceConfig) (hostName : HostId) (host : HostConfig)
    (c : ChannelConfig) (probes : Table String HealthProbe) : Prop :=
  ∀ framework, c.Enables framework → host.healthChecks.lookup ("evidence-" ++ framework) = none →
    ∃ p, probes.lookup ("evidence-" ++ framework) = some p ∧ p.kind = .evidence ∧
      p.framework = some framework ∧ p.mode = mostSpecificMode cfg hostName host c framework ∧
      ∀ control, p.controlOverrides.lookup control =
        mostSpecificOverride cfg hostName host c framework control

/-- Every explicit evidence probe of an enabled framework declares what holds for the framework. -/
def ExplicitAgrees (cfg : ComplianceConfig) (hostName : HostId) (host : HostConfig)
    (c : ChannelConfig) : Prop :=
  ∀ name probe framework, c.healthChecks.lookup name = some probe →
    host.healthChecks.lookup name = none → probe.kind = .evidence →
    probe.framework = some framework → c.Enables framework →
    probe.mode = mostSpecificMode cfg hostName host c framework ∧
      ∀ control o, mostSpecificOverride cfg hostName host c framework control = some o →
        probe.controlOverrides.lookup control = some o

/-! ## Merging scopes -/

section Scopes

variable {cfg : ComplianceConfig} {hostName : HostId} {host : HostConfig} {c : ChannelConfig}

/-- A merge sets for a framework what its two sides set. -/
theorem frameworkAt_mergeFwAttrs (a b : Table String FrameworkScope) (n : String) :
    frameworkAt (mergeFwAttrs a b) n = mergeFwValue (frameworkAt a n) (frameworkAt b n) := by
  unfold frameworkAt mergeFwAttrs
  rw [lookup_genAttrs]
  by_cases hn : n ∈ (attrNames a ++ attrNames b).eraseDups
  · rw [if_pos hn]
    rfl
  · rw [if_neg hn]
    simp only [List.mem_eraseDups, List.mem_append, mem_attrNames, not_or, Bool.not_eq_true,
      Option.isSome_eq_false_iff, Option.isNone_iff_eq_none] at hn
    rw [hn.1, hn.2]
    rfl

/-- The first of two scopes that sets something, as a value of the merge. -/
theorem lookup_mergeFwValue (acc v : FrameworkScope) (control : String) :
    (mergeFwValue acc v).controlOverrides.lookup control =
      (v.controlOverrides.lookup control).or (acc.controlOverrides.lookup control) :=
  lookup_updateAttrs _ _ control

/-- Reading a setting of a fold of merges finds the last scope that sets it. -/
theorem foldl_merge_eq {γ : Type} (read : FrameworkScope → Option γ)
    (hread : ∀ acc v, read (mergeFwValue acc v) = (read v).or (read acc))
    (scopes : List FrameworkScope) (start : FrameworkScope) :
    read (scopes.foldl mergeFwValue start) = (scopes.reverse.findSome? read).or (read start) := by
  induction scopes using List.reverseRecOn with
  | nil => rfl
  | append_singleton scopes s ih =>
      rw [List.foldl_append, List.foldl_cons, List.foldl_nil, hread, ih, List.reverse_append,
        List.reverse_singleton, List.singleton_append, List.findSome?_cons]
      cases read s <;> rfl

/-- What the tags set for a framework, as a fold over the known ones. -/
theorem frameworkAt_tagFwMerged (framework : String) :
    frameworkAt (tagFwMerged cfg host) framework =
      ((host.tags.filter fun tag => (cfg.tags.lookup tag).isSome).map fun tag =>
        frameworkAt (cfg.tagFw tag) framework).foldl mergeFwValue emptyFw := by
  unfold tagFwMerged
  induction host.tags using List.reverseRecOn with
  | nil => rfl
  | append_singleton tags tag ih =>
      rw [List.foldl_append, List.foldl_cons, List.foldl_nil, List.filter_append, List.map_append,
        List.foldl_append]
      by_cases hknown : (cfg.tags.lookup tag).isSome = true
      · have hone : [tag].filter (fun tag => (cfg.tags.lookup tag).isSome) = [tag] :=
          List.filter_cons_of_pos hknown
        rw [if_pos hknown, frameworkAt_mergeFwAttrs, ih, hone]
        rfl
      · have hnone : [tag].filter (fun tag => (cfg.tags.lookup tag).isSome) = [] :=
          List.filter_cons_of_neg hknown
        rw [if_neg hknown, ih, hnone]
        rfl

/-- **What holds for a framework on a host.** A setting is read from the most specific scope that
sets it. -/
theorem read_scopes {γ : Type} (read : FrameworkScope → Option γ)
    (hread : ∀ acc v, read (mergeFwValue acc v) = (read v).or (read acc))
    (hempty : read emptyFw = none) (framework : String) :
    read (frameworkAt (scopedFw cfg hostName host (channelByName c.compliance.frameworks))
        framework) = (scopesOf cfg hostName host c framework).findSome? read := by
  simp only [scopedFw, frameworkAt_mergeFwAttrs, hread, frameworkAt_tagFwMerged,
    foldl_merge_eq read hread, hempty, Option.or_none, scopesOf, List.map_reverse,
    List.findSome?_append, List.findSome?_cons, List.findSome?_nil]
  cases read (frameworkAt (cfg.hostFw hostName) framework) <;>
    cases read (frameworkAt (channelByName c.compliance.frameworks) framework) <;>
    cases read (frameworkAt cfg.fleetFw framework) <;> simp

theorem mem_attrNames_channelByName {framework : String} :
    framework ∈ attrNames (channelByName c.compliance.frameworks) ↔ c.Enables framework := by
  rw [mem_attrNames, channelByName, lookup_listToAttrs]
  simp [ChannelConfig.Enables]

/-- The effective compliance is that of the enabled frameworks. -/
theorem lookup_resolveCompliance (hc : cfg.channels.lookup host.channel = some c)
    (framework : String) :
    (resolveCompliance cfg hostName host).lookup framework =
      if framework ∈ attrNames (channelByName c.compliance.frameworks) then
        let r := frameworkAt (scopedFw cfg hostName host
          (channelByName c.compliance.frameworks)) framework
        some ⟨r.mode.getD c.compliance.mode, r.reason, r.controlOverrides⟩
      else none := by
  unfold resolveCompliance
  rw [hc]
  exact lookup_genAttrs _ _ framework

/-- An enabled framework has the mode and the overrides of the most specific scopes. -/
theorem exists_effective (hostName : HostId)
    (hc : cfg.channels.lookup host.channel = some c) {framework : String}
    (henabled : c.Enables framework) :
    ∃ fw, (resolveCompliance cfg hostName host).lookup framework = some fw ∧
      fw.mode = mostSpecificMode cfg hostName host c framework ∧
      ∀ control, fw.controlOverrides.lookup control =
        mostSpecificOverride cfg hostName host c framework control := by
  obtain ⟨r, hr⟩ : ∃ r, frameworkAt (scopedFw cfg hostName host
      (channelByName c.compliance.frameworks)) framework = r := ⟨_, rfl⟩
  have hmode : r.mode = (scopesOf cfg hostName host c framework).findSome? (·.mode) := by
    rw [← hr]
    exact read_scopes (·.mode) (fun _ _ => rfl) rfl framework
  have hoverrides : ∀ control, r.controlOverrides.lookup control =
      mostSpecificOverride cfg hostName host c framework control := by
    intro control
    have hempty : emptyFw.controlOverrides.lookup control = none := rfl
    rw [← hr]
    exact read_scopes (fun s => s.controlOverrides.lookup control)
      (fun acc v => lookup_mergeFwValue acc v control) hempty framework
  refine ⟨⟨r.mode.getD c.compliance.mode, r.reason, r.controlOverrides⟩, ?_, ?_, hoverrides⟩
  · rw [lookup_resolveCompliance hc, if_pos (mem_attrNames_channelByName.mpr henabled), hr]
  · show r.mode.getD c.compliance.mode = _
    rw [hmode, mostSpecificMode]

theorem effective_eq_none (hc : cfg.channels.lookup host.channel = some c) {framework : String}
    (hdisabled : ¬ c.Enables framework) :
    (resolveCompliance cfg hostName host).lookup framework = none := by
  rw [lookup_resolveCompliance hc,
    if_neg fun hmem => hdisabled (mem_attrNames_channelByName.mp hmem)]

end Scopes

/-! ## One probe -/

section Probes

variable {cfg : ComplianceConfig} {hostName : HostId} {host : HostConfig} {c : ChannelConfig}
  {effective : Table String EffectiveFramework} {probe : HealthProbe}

/-- A probe that is about a framework with a compliance takes its mode and overrides. -/
theorem applyCompliance_of_some {framework : String} {fw : EffectiveFramework}
    (hkind : probe.kind = .evidence) (hframework : probe.framework = some framework)
    (hfw : effective.lookup framework = some fw) :
    applyCompliance effective probe =
      { probe with
        mode := fw.mode
        controlOverrides := updateAttrs probe.controlOverrides fw.controlOverrides } := by
  simp only [applyCompliance, hkind, hframework, hfw, ne_eq, not_true_eq_false, if_false]

/-- Any other probe stays as it is. -/
theorem applyCompliance_of_none
    (h : ∀ framework, probe.kind = .evidence → probe.framework = some framework →
      effective.lookup framework = none) :
    applyCompliance effective probe = probe := by
  unfold applyCompliance
  split
  · rfl
  · rename_i hkind
    split
    · rfl
    · rename_i framework hframework
      rw [h framework (not_not.mp hkind) hframework]

/-- **What is left of a declared probe.** A probe of the channel stays as it is iff it is about no
enabled framework, or declares what holds for the framework. -/
theorem applyCompliance_same_iff (hc : cfg.channels.lookup host.channel = some c) :
    (applyCompliance (resolveCompliance cfg hostName host) probe).Same probe ↔
      ∀ framework, probe.kind = .evidence → probe.framework = some framework →
        c.Enables framework →
        probe.mode = mostSpecificMode cfg hostName host c framework ∧
          ∀ control o, mostSpecificOverride cfg hostName host c framework control = some o →
            probe.controlOverrides.lookup control = some o := by
  by_cases habout : ∃ framework, probe.kind = .evidence ∧ probe.framework = some framework ∧
      c.Enables framework
  · obtain ⟨framework, hkind, hframework, henabled⟩ := habout
    obtain ⟨fw, hfw, hmode, hoverrides⟩ := exists_effective hostName hc henabled
    rw [applyCompliance_of_some hkind hframework hfw]
    constructor
    · rintro ⟨hfields, hsame⟩ framework' - hframework' -
      obtain rfl : framework = framework' := Option.some.inj (hframework.symm.trans hframework')
      refine ⟨?_, fun control o ho => ?_⟩
      · have hprobe : fw.mode = probe.mode := congrArg HealthProbe.mode hfields
        rw [← hprobe, hmode]
      · have hcontrol : (updateAttrs probe.controlOverrides fw.controlOverrides).lookup control =
            probe.controlOverrides.lookup control := hsame control
        rw [lookup_updateAttrs, hoverrides, ho, Option.some_or] at hcontrol
        exact hcontrol.symm
    · intro h
      obtain ⟨hprobe, hdeclared⟩ := h framework hkind hframework henabled
      refine ⟨?_, fun control => ?_⟩
      · rw [hmode, ← hprobe]
      · show (updateAttrs probe.controlOverrides fw.controlOverrides).lookup control = _
        rw [lookup_updateAttrs, hoverrides]
        cases ho : mostSpecificOverride cfg hostName host c framework control with
        | none => rfl
        | some o => rw [hdeclared control o ho, Option.some_or]
  · have hnone : ∀ framework, probe.kind = .evidence → probe.framework = some framework →
        ¬ c.Enables framework :=
      fun framework hkind hframework henabled => habout ⟨framework, hkind, hframework, henabled⟩
    rw [applyCompliance_of_none fun framework hkind hframework =>
      effective_eq_none hc (hnone framework hkind hframework)]
    refine iff_of_true ⟨rfl, fun _ => rfl⟩ ?_
    intro framework hkind hframework henabled
    exact absurd henabled (hnone framework hkind hframework)

end Probes

/-! ## The probes of a channel -/

section Channel

variable {c : ChannelConfig}

@[simp] theorem name_normalizeComplianceEntry (mode : ProbeMode) (entry : ComplianceEntry) :
    (normalizeComplianceEntry mode entry).name = entry.name := by
  cases entry <;> rfl

@[simp] theorem controlOverrides_normalizeComplianceEntry (mode : ProbeMode)
    (entry : ComplianceEntry) :
    (normalizeComplianceEntry mode entry).controlOverrides = entry.scope.controlOverrides := by
  cases entry <;> rfl

/-- The probe of a framework is that of its first entry. -/
theorem lookup_synthesized (c : ChannelConfig) (framework : String) :
    c.synthesized.lookup ("evidence-" ++ framework) =
      (c.compliance.frameworks.find? fun entry => entry.name = framework).map fun entry =>
        (normalizeComplianceEntry c.compliance.mode entry).probe := by
  have hsame : ((fun fw : ComplianceFramework => decide ("evidence-" ++ fw.name =
      "evidence-" ++ framework)) ∘ normalizeComplianceEntry c.compliance.mode) =
        fun entry => decide (entry.name = framework) := by
    funext entry
    simp
  refine (Table.lookup_foldr_insert (fun fw : ComplianceFramework => "evidence-" ++ fw.name)
    (fun fw => fw.probe) _ _).trans ?_
  rw [List.find?_map, hsame, Option.map_map]
  rfl

/-- So is what the channel sets for it. -/
theorem frameworkAt_channelByName (framework : String) :
    frameworkAt (channelByName c.compliance.frameworks) framework =
      ((c.compliance.frameworks.find? fun entry => entry.name = framework).map
        ComplianceEntry.scope).getD emptyFw := by
  rw [frameworkAt, channelByName, lookup_listToAttrs, List.find?_map, Option.map_map]
  rfl

/-- The probes of a channel: no explicit one has the name of one that a framework stands for. -/
theorem channelEffectiveHealthChecks_eq_ok {channelName : ChannelId}
    {raw : Table String HealthProbe}
    (h : channelEffectiveHealthChecks channelName c = .ok raw) :
    (∀ name, raw.lookup name = (c.synthesized.lookup name).or (c.healthChecks.lookup name)) ∧
      ∀ name, (c.healthChecks.lookup name).isSome = true → c.synthesized.lookup name = none := by
  unfold channelEffectiveHealthChecks at h
  dsimp only at h
  split at h
  · cases h
  · rename_i hcollisions
    obtain rfl := Except.ok.inj h
    refine ⟨fun name => Table.lookup_foldl_insert_table _ _ name, fun name hexplicit => ?_⟩
    have hnone := List.filter_eq_nil_iff.mp (not_not.mp hcollisions) name
    simpa [hexplicit] using hnone

/-- In an accepted fleet every channel has its probes. -/
theorem exists_channelEffectiveHealthChecks {cfg : FleetConfig} {channelName : ChannelId}
    (hcfg : checkInvariants cfg = .ok ()) (hc : cfg.channels.lookup channelName = some c) :
    ∃ raw, channelEffectiveHealthChecks channelName c = .ok raw := by
  obtain ⟨sites, -, hsites, -⟩ := checkInvariants_eq_ok hcfg
  obtain ⟨channelSites, hchannels, -⟩ := Except.bind_eq_ok.mp hsites
  obtain ⟨site, hsite⟩ := Except.exists_ok_of_mapM hchannels (mem_attrRows.mpr hc)
  obtain ⟨raw, hraw, -⟩ := Except.bind_eq_ok.mp hsite
  exact ⟨raw, hraw⟩

end Channel

/-! ## The probes of a host -/

section Resolved

variable {cfg : ComplianceConfig} {hostName : HostId} {host : HostConfig} {c : ChannelConfig}
  {raw probes : Table String HealthProbe}

/-- What the host does not declare again comes from the channel. -/
theorem lookup_resolveHealthChecks (hc : cfg.channels.lookup host.channel = some c)
    (hraw : channelEffectiveHealthChecks host.channel c = .ok raw)
    (hprobes : resolveHealthChecks cfg hostName host = .ok probes) {name : String}
    {probe : HealthProbe} (hprobe : raw.lookup name = some probe)
    (hhost : host.healthChecks.lookup name = none) :
    probes.lookup name =
      some (applyCompliance (resolveCompliance cfg hostName host) probe) := by
  have hchannel : (raw.mapRows fun _ probe =>
      applyCompliance (resolveCompliance cfg hostName host) probe).lookup name =
        some (applyCompliance (resolveCompliance cfg hostName host) probe) :=
    (Table.lookup_mapRows _ raw name _).mpr ⟨probe, hprobe, rfl⟩
  unfold resolveHealthChecks at hprobes
  rw [hc] at hprobes
  obtain ⟨raw', hraw', hmerged⟩ := Except.bind_eq_ok.mp hprobes
  obtain rfl := Except.ok.inj (hraw.symm.trans hraw')
  obtain rfl := Except.ok.inj hmerged
  rw [lookup_updateAttrs, lookup_updateAttrs, hhost, hchannel, Option.none_or, Option.some_or]

/-- **The probes of the enabled frameworks** have the mode and the overrides of the most specific
scopes. -/
theorem synthesized_scoped (hc : cfg.channels.lookup host.channel = some c)
    (hraw : channelEffectiveHealthChecks host.channel c = .ok raw)
    (hprobes : resolveHealthChecks cfg hostName host = .ok probes) :
    SynthesizedScoped cfg hostName host c probes := by
  intro framework henabled hhost
  obtain ⟨fw, hfw, hmode, hoverrides⟩ := exists_effective hostName hc henabled
  have hsome : (c.compliance.frameworks.find? fun entry => entry.name = framework).isSome =
      true := by
    obtain ⟨entry, hentry, hname⟩ := henabled
    exact List.find?_isSome.mpr ⟨entry, hentry, decide_eq_true hname⟩
  obtain ⟨entry, hentry⟩ := Option.isSome_iff_exists.mp hsome
  have hname : entry.name = framework := by simpa using List.find?_some hentry
  have hprobe : raw.lookup ("evidence-" ++ framework) =
      some (normalizeComplianceEntry c.compliance.mode entry).probe := by
    rw [(channelEffectiveHealthChecks_eq_ok hraw).1, lookup_synthesized, hentry]
    rfl
  have hframework : (normalizeComplianceEntry c.compliance.mode entry).probe.framework =
      some framework := by
    rw [ComplianceFramework.probe, name_normalizeComplianceEntry, hname]
  refine ⟨_, lookup_resolveHealthChecks hc hraw hprobes hprobe hhost, ?_⟩
  rw [applyCompliance_of_some rfl hframework hfw]
  refine ⟨rfl, hframework, hmode, fun control => ?_⟩
  show (updateAttrs (normalizeComplianceEntry c.compliance.mode entry).controlOverrides
    fw.controlOverrides).lookup control = _
  rw [lookup_updateAttrs, hoverrides, controlOverrides_normalizeComplianceEntry]
  cases ho : mostSpecificOverride cfg hostName host c framework control with
  | some o => rfl
  | none =>
      -- the channel is one of the scopes that set nothing
      have hscope : frameworkAt (channelByName c.compliance.frameworks) framework ∈
          scopesOf cfg hostName host c framework := by
        simp [scopesOf]
      have hnone := List.findSome?_eq_none_iff.mp ho _ hscope
      rw [frameworkAt_channelByName, hentry] at hnone
      exact hnone

/-- **Where compliance leaves explicit probes alone.** In an accepted fleet the explicit probes of a
host's channel are kept, and the probes of its frameworks scoped, iff every explicit evidence probe
of an enabled framework declares what holds for the framework. -/
theorem resolveHealthChecks_kept_iff (hcfg : checkInvariants cfg.toFleetConfig = .ok ())
    (hhost : cfg.hosts.lookup hostName = some host) :
    ∃ c, cfg.channels.lookup host.channel = some c ∧
      ((∃ probes, resolveHealthChecks cfg hostName host = .ok probes ∧
          ExplicitKept host c probes ∧ SynthesizedScoped cfg hostName host c probes) ↔
        ExplicitAgrees cfg hostName host c) := by
  obtain ⟨c, hc⟩ := Option.isSome_iff_exists.mp
    ((wellFormed_of_checkInvariants hcfg).hostChannels hostName host hhost)
  obtain ⟨raw, hraw⟩ := exists_channelEffectiveHealthChecks hcfg hc
  obtain ⟨probes, hprobes⟩ : ∃ probes, resolveHealthChecks cfg hostName host = .ok probes := by
    unfold resolveHealthChecks
    rw [hc]
    exact ⟨_, Except.bind_eq_ok.mpr ⟨raw, hraw, rfl⟩⟩
  obtain ⟨hlookup, hdistinct⟩ := channelEffectiveHealthChecks_eq_ok hraw
  have hexplicit : ∀ name probe, c.healthChecks.lookup name = some probe →
      host.healthChecks.lookup name = none →
      probes.lookup name =
        some (applyCompliance (resolveCompliance cfg hostName host) probe) := by
    intro name probe hprobe hfree
    refine lookup_resolveHealthChecks hc hraw hprobes ?_ hfree
    rw [hlookup, hdistinct name (by rw [hprobe]; rfl), hprobe, Option.none_or]
  refine ⟨c, hc, ?_⟩
  constructor
  · rintro ⟨probes', hprobes', hkept, -⟩
    obtain rfl := Except.ok.inj (hprobes.symm.trans hprobes')
    intro name probe framework hprobe hfree hkind hframework henabled
    obtain ⟨p, hp, hsame⟩ := hkept name probe hprobe hfree
    rw [hexplicit name probe hprobe hfree] at hp
    obtain rfl := Option.some.inj hp
    exact (applyCompliance_same_iff hc).mp hsame framework hkind hframework henabled
  · intro hagrees
    refine ⟨probes, hprobes, ?_, synthesized_scoped hc hraw hprobes⟩
    intro name probe hprobe hfree
    exact ⟨_, hexplicit name probe hprobe hfree, (applyCompliance_same_iff hc).mpr
      fun framework => hagrees name probe framework hprobe hfree⟩

end Resolved

/-- The explicit probe of a team that audits `nis2` on its own. -/
def auditProbe (mode : ProbeMode) : HealthProbe where
  kind := .evidence
  mode := mode
  intervalSeconds := 30
  runOnce := false
  url := none
  expectStatus := 200
  host := none
  port := none
  connectTimeoutSecs := 5
  command := []
  timeoutSecs := 10
  framework := some "nis2"
  evidencePath := "/var/lib/audit/evidence.json"
  controlOverrides := ∅
  controls := ∅

def auditHost : HostConfig := ⟨"x86_64-linux", none, [], "stable", none, none, ∅⟩

/-- The channel enforces `nis2`. -/
def auditChannel (mode : ProbeMode) : ChannelConfig :=
  ⟨"all", 5, 30, 60, (∅ : Table String HealthProbe).insert "nis2-audit" (auditProbe mode),
    ⟨[.bare "nis2"], .enforce⟩⟩

def auditConfig (mode : ProbeMode) : ComplianceConfig where
  hosts := (∅ : Table HostId HostConfig).insert "a" auditHost
  tags := ∅
  channels := (∅ : Table ChannelId ChannelConfig).insert "stable" (auditChannel mode)
  rolloutPolicies := (∅ : Table String PolicyConfig).insert "all" ⟨"all-at-once", [], .halt⟩
  edges := []
  channelEdges := []
  disruptionBudgets := []
  healthChecks := ∅
  fleetFw := ∅
  tagFw := fun _ => ∅
  hostFw := fun _ => ∅

set_option maxRecDepth 4000 in
/-- An audit that enforces is kept. -/
theorem auditProbe_enforce_kept :
    ∃ c, (auditConfig .enforce).channels.lookup auditHost.channel = some c ∧
      ∃ probes, resolveHealthChecks (auditConfig .enforce) "a" auditHost = .ok probes ∧
        ExplicitKept auditHost c probes ∧
        SynthesizedScoped (auditConfig .enforce) "a" auditHost c probes := by
  have hcfg : checkInvariants (auditConfig .enforce).toFleetConfig = .ok () := by decide
  have hhost : (auditConfig .enforce).hosts.lookup "a" = some auditHost := rfl
  obtain ⟨c, hc, hiff⟩ := resolveHealthChecks_kept_iff hcfg hhost
  refine ⟨c, hc, hiff.mpr ?_⟩
  have hchannel : (auditConfig .enforce).channels.lookup auditHost.channel =
      some (auditChannel .enforce) := rfl
  obtain rfl := Option.some.inj (hchannel.symm.trans hc)
  rintro name probe framework hprobe - - hframework -
  have hrow : (auditChannel .enforce).healthChecks.lookup name =
      if name = "nis2-audit" then some (auditProbe .enforce) else none :=
    Table.lookup_insert_eq _ _ _ _
  rw [hrow] at hprobe
  split at hprobe
  · obtain rfl := Option.some.inj hprobe
    obtain rfl := Option.some.inj hframework
    exact ⟨by decide, fun control o ho => nomatch ho⟩
  · cases hprobe

set_option maxRecDepth 4000 in
/-- One that observes enforces on the host. -/
theorem auditProbe_observe_enforces :
    checkInvariants (auditConfig .observe).toFleetConfig = .ok () ∧
      (auditConfig .observe).hosts.lookup "a" = some auditHost ∧
      (auditConfig .observe).channels.lookup auditHost.channel = some (auditChannel .observe) ∧
      (auditChannel .observe).healthChecks.lookup "nis2-audit" = some (auditProbe .observe) ∧
      auditHost.healthChecks.lookup "nis2-audit" = none ∧
      ∃ probes p, resolveHealthChecks (auditConfig .observe) "a" auditHost = .ok probes ∧
        probes.lookup "nis2-audit" = some p ∧ p.mode = .enforce ∧
        ¬ ExplicitKept auditHost (auditChannel .observe) probes := by
  refine ⟨by decide, rfl, rfl, rfl, rfl, ?_⟩
  have hmode : ((resolveHealthChecks (auditConfig .observe) "a" auditHost).toOption.bind
      fun probes => (probes.lookup "nis2-audit").map (·.mode)) = some .enforce := by decide
  cases hr : resolveHealthChecks (auditConfig .observe) "a" auditHost with
  | error e =>
      rw [hr] at hmode
      cases hmode
  | ok probes =>
      rw [hr] at hmode
      obtain ⟨p, hp, hpmode⟩ := Option.map_eq_some_iff.mp hmode
      refine ⟨probes, p, rfl, hp, hpmode, fun hkept => ?_⟩
      obtain ⟨p', hp', hsame⟩ := hkept "nis2-audit" (auditProbe .observe) rfl rfl
      obtain rfl := Option.some.inj (hp.symm.trans hp')
      have hdeclared : p.mode = .observe := congrArg HealthProbe.mode hsame.fields
      exact absurd (hpmode.symm.trans hdeclared) (by decide)

end Nixfleet
