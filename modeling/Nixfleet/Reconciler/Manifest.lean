import Nixfleet.Reconciler.Gates

set_option autoImplicit false

/-!
# The rollout manifest of a channel

`projectManifest` projects one channel out of the resolved fleet; the release tool and the
control plane share it. The fixtures at the end build one-channel fleets and their manifests.
-/

namespace Nixfleet

/-- The wave a manifest records for a host: its first wave in the channel, else `0`. -/
def waveIndexOf (waves : Option (List Wave)) (host : HostId) : Nat :=
  (waves.bind fun ws => waveOf ws host).getD 0

/-- The hosts of a channel that have a closure, by name. -/
def hostSetOf (fleet : FleetResolved) (channel : ChannelId) : List HostWave :=
  (fleet.hosts.rows.filterMap fun h =>
    if h.2.channel ≠ channel then none
    else h.2.closureHash.map fun targetClosure =>
      (⟨h.1, waveIndexOf (fleet.waves.lookup channel) h.1, targetClosure⟩ : HostWave)).insertionSort
    fun a b => a.hostname ≤ b.hostname

/-- The budgets of the fleet, with the hosts their selectors resolve to. -/
def budgetSnapshots (fleet : FleetResolved) : List RolloutBudget :=
  fleet.disruptionBudgets.map fun b =>
    ⟨b.selector, (b.selector.resolve fleet.hosts.rows).insertionSort (· ≤ ·), b.maxInFlight,
      b.maxInFlightPct⟩

/-- `project_manifest`; `none` when no host of the channel has a closure. -/
def projectManifest (fleet : FleetResolved) (channel : ChannelId) (fleetResolvedHash : String)
    (signedAt : Time) (ciCommit : Option String) (signatureAlgorithm : String) :
    Except String (Option RolloutManifest) :=
  match fleet.channels.lookup channel with
  | none => .error ("channel " ++ channel ++ " missing from fleet.channels")
  | some channelDef =>
      match fleet.rolloutPolicies.lookup channelDef.rolloutPolicy with
      | none =>
          .error ("rollout policy " ++ channelDef.rolloutPolicy ++ " for channel " ++ channel
            ++ " not found in fleet.rolloutPolicies")
      | some _ =>
          if (hostSetOf fleet channel).isEmpty then .ok none
          else
            .ok (some {
              schemaVersion := 1
              displayName := channel ++ "@" ++
                ((ciCommit.map fun c => String.ofList (c.toList.take 8)).getD "unknown")
              channel := channel
              channelRef := ciCommit.getD ""
              fleetResolvedHash := fleetResolvedHash
              hostSet := hostSetOf fleet channel
              disruptionBudgets := budgetSnapshots fleet
              manifestMeta := ⟨1, some signedAt, ciCommit, some signatureAlgorithm⟩ })

theorem mem_hostSetOf {fleet : FleetResolved} {channel : ChannelId} {hw : HostWave} :
    hw ∈ hostSetOf fleet channel ↔
      ∃ h, fleet.hosts.lookup hw.hostname = some h ∧ h.channel = channel ∧
        h.closureHash = some hw.targetClosure ∧
        hw.waveIndex = waveIndexOf (fleet.waves.lookup channel) hw.hostname := by
  simp only [hostSetOf, List.mem_insertionSort, List.mem_filterMap, Prod.exists, Table.mem_rows]
  constructor
  · rintro ⟨n, h, hh, hif⟩
    split at hif
    · cases hif
    · rename_i hch
      obtain ⟨c, hc, rfl⟩ := Option.map_eq_some_iff.mp hif
      exact ⟨h, hh, not_not.mp hch, hc, rfl⟩
  · rintro ⟨h, hh, hch, hc, hwave⟩
    refine ⟨hw.hostname, h, hh, ?_⟩
    rw [if_neg (not_not.mpr hch), hc, Option.map_some, ← hwave]

theorem waveIndex_of_mem_hostSetOf {fleet : FleetResolved} {channel : ChannelId} {hw : HostWave}
    (h : hw ∈ hostSetOf fleet channel) :
    hw.waveIndex = waveIndexOf (fleet.waves.lookup channel) hw.hostname := by
  obtain ⟨_, -, -, -, hwave⟩ := mem_hostSetOf.mp h
  exact hwave

theorem projectManifest_spec {fleet : FleetResolved} {channel : ChannelId} {hash : String}
    {signedAt : Time} {commit : Option String} {algorithm : String} {manifest : RolloutManifest}
    (h : projectManifest fleet channel hash signedAt commit algorithm = .ok (some manifest)) :
    manifest.hostSet = hostSetOf fleet channel ∧ manifest.channelRef = commit.getD "" ∧
      manifest.disruptionBudgets = budgetSnapshots fleet := by
  unfold projectManifest at h
  split at h
  · cases h
  · split at h
    · cases h
    · split at h
      · cases h
      · cases h
        exact ⟨rfl, rfl, rfl⟩

/-- Only a channel of the fleet has a manifest. -/
theorem projectManifest_channel {fleet : FleetResolved} {channel : ChannelId} {hash : String}
    {signedAt : Time} {commit : Option String} {algorithm : String} {manifest : RolloutManifest}
    (h : projectManifest fleet channel hash signedAt commit algorithm = .ok (some manifest)) :
    manifest.channel = channel ∧ (fleet.channels.lookup channel).isSome = true := by
  unfold projectManifest at h
  split at h
  · cases h
  · rename_i hchannel
    rw [hchannel]
    split at h
    · cases h
    · split at h
      · cases h
      · cases h
        exact ⟨rfl, rfl⟩

/-- The hosts of a budget snapshot are those of its selector, so the first snapshot of a
selector lists the same hosts as any other. -/
theorem budgetSnapshots_find {fleet : FleetResolved} {b : RolloutBudget}
    (hb : b ∈ budgetSnapshots fleet) :
    ∃ first, (budgetSnapshots fleet).find? (·.selector = b.selector) = some first ∧
      first.hosts = b.hosts := by
  have hhosts : ∀ c ∈ budgetSnapshots fleet,
      c.hosts = (c.selector.resolve fleet.hosts.rows).insertionSort (· ≤ ·) := by
    intro c hc
    obtain ⟨d, -, rfl⟩ := List.mem_map.mp hc
    rfl
  cases hfind : (budgetSnapshots fleet).find? (·.selector = b.selector) with
  | none =>
      have hnot := List.find?_eq_none.mp hfind b hb
      simp at hnot
  | some first =>
      have hsel : first.selector = b.selector := by simpa using List.find?_some hfind
      refine ⟨first, rfl, ?_⟩
      rw [hhosts first (List.mem_of_find?_eq_some hfind), hhosts b hb, hsel]

/-- Every manifest is the projection of the fleet it is signed with. -/
def SignedManifestSet.Projected (m : SignedManifestSet) : Prop :=
  ∀ channel manifest, m.rollouts.lookup channel = some manifest →
    ∃ hash signedAt commit algorithm,
      projectManifest m.fleet channel hash signedAt commit algorithm = .ok (some manifest)

/-- The wave a projected manifest records for a host is the host's wave in the fleet. -/
theorem SignedManifestSet.Projected.waveIndex {m : SignedManifestSet} (h : m.Projected)
    {channel : ChannelId} {manifest : RolloutManifest}
    (hm : m.rollouts.lookup channel = some manifest) {hw : HostWave}
    (hhw : hw ∈ manifest.hostSet) :
    hw.waveIndex = waveIndexOf (m.fleet.waves.lookup channel) hw.hostname := by
  obtain ⟨hash, signedAt, commit, algorithm, hp⟩ := h channel manifest hm
  rw [(projectManifest_spec hp).1] at hhw
  exact waveIndex_of_mem_hostSetOf hhw

/-! ## Fixtures -/

/-- A fleet whose hosts are all on the channel `stable`, under one policy. -/
def stableFleet (commit : String) (hosts : List (HostId × ClosureHash)) (policy : RolloutPolicy)
    (waves : List Wave) (edges : List Edge) (budgets : List DisruptionBudget) :
    FleetResolved where
  schemaVersion := 1
  hosts := hosts.foldl (fun t h =>
    t.insert h.1 ⟨"x86_64-linux", [], "stable", some h.2, none⟩) ∅
  channels := (∅ : Table ChannelId Channel).insert "stable" ⟨"policy", 5, 60, 60⟩
  rolloutPolicies := (∅ : Table String RolloutPolicy).insert "policy" policy
  waves := (∅ : Table ChannelId (List Wave)).insert "stable" waves
  edges := edges
  channelEdges := []
  disruptionBudgets := budgets
  fleetMeta := ⟨1, some 0, some commit, none⟩

/-- A fleet with the manifest of its channel `stable`. -/
def stableManifests (fleet : FleetResolved) : SignedManifestSet where
  fleet := fleet
  rollouts :=
    match projectManifest fleet "stable" "" 0 fleet.fleetMeta.ciCommit "ed25519" with
    | .ok (some manifest) => (∅ : Table ChannelId RolloutManifest).insert "stable" manifest
    | _ => ∅

theorem stableManifests_projected (fleet : FleetResolved) : (stableManifests fleet).Projected := by
  intro channel manifest hm
  unfold stableManifests at hm
  dsimp only at hm
  split at hm
  · rename_i manifest' hp
    rw [Table.lookup_insert_eq] at hm
    split at hm
    · rename_i hch
      subst hch
      cases hm
      exact ⟨_, _, _, _, hp⟩
    · cases hm
  · cases hm

/-- The fleet state after the rollout of `stable` was opened at time `0`, all hosts pending. -/
def stableOpened (manifests : SignedManifestSet) : FleetState :=
  match manifests.rollouts.lookup "stable" with
  | none => ⟨∅, ∅, ∅⟩
  | some manifest =>
      let rid := RolloutId.new "stable" manifest.channelRef
      { hostStates := manifest.hostSet.foldl (fun t hw => t.insert (rid, hw.hostname)
          (.newPending rid hw.hostname "stable" hw.targetClosure 0 0)) ∅
        rollouts := (∅ : Table RolloutId RolloutSummary).insert rid
          ⟨rid, "stable", manifest.channelRef, 0, none, 0, manifest.disruptionBudgets⟩
        outstandingFailingEnforceProbes := ∅ }

end Nixfleet
