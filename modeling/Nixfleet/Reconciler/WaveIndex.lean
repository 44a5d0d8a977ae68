import Nixfleet.Reconciler.Manifest

set_option autoImplicit false

/-!
# The wave of a host, recorded and gated

The wave of a host is computed twice: for the manifest (`waveIndexOf`), where a host that no wave
lists is recorded in wave `0`, and in the gate (`wavePromotionCheck`), which holds such a host back.
-/

namespace Nixfleet

/-- The wave the gate compares with; a rollout that is not open counts as in its first wave. -/
def FleetState.currentWave (fs : FleetState) (rid : RolloutId) : Nat :=
  ((fs.rollouts.lookup rid).map (·.currentWave)).getD 0

section Gate

variable {m : SignedManifestSet} {host : HostId} {h : Host}

/-- A channel without waves does not gate. -/
theorem wavePromotionCheck_of_no_waves (hh : m.fleet.hosts.lookup host = some h)
    (hwaves : (m.fleet.waves.lookup h.channel).getD [] = []) (fs : FleetState) (rid : RolloutId) :
    wavePromotionCheck fs m host rid = none := by
  unfold wavePromotionCheck
  simp only [hh]
  cases hlookup : m.fleet.waves.lookup h.channel with
  | none => rfl
  | some waves =>
      rw [hlookup, Option.getD_some] at hwaves
      rw [hwaves]

/-- A host that a wave lists is held back until the rollout has reached that wave. -/
theorem wavePromotionCheck_of_listed (hh : m.fleet.hosts.lookup host = some h) {k : Nat}
    (hk : waveOf ((m.fleet.waves.lookup h.channel).getD []) host = some k) (fs : FleetState)
    (rid : RolloutId) :
    wavePromotionCheck fs m host rid =
      if k > fs.currentWave rid then some (.wavePromotion k (fs.currentWave rid)) else none := by
  unfold wavePromotionCheck
  simp only [hh]
  cases hlookup : m.fleet.waves.lookup h.channel with
  | none =>
      rw [hlookup] at hk
      cases hk
  | some waves =>
      rw [hlookup, Option.getD_some] at hk
      cases waves with
      | nil => cases hk
      | cons wave waves =>
          simp only [hk]
          rfl

/-- A host that none of its channel's waves lists is held back for good. -/
theorem wavePromotionCheck_of_unlisted (hh : m.fleet.hosts.lookup host = some h)
    (hwaves : (m.fleet.waves.lookup h.channel).getD [] ≠ [])
    (hk : waveOf ((m.fleet.waves.lookup h.channel).getD []) host = none) (fs : FleetState)
    (rid : RolloutId) : wavePromotionCheck fs m host rid = some (.hostUnstaged h.channel) := by
  unfold wavePromotionCheck
  simp only [hh]
  cases hlookup : m.fleet.waves.lookup h.channel with
  | none =>
      rw [hlookup] at hwaves
      exact absurd rfl hwaves
  | some waves =>
      rw [hlookup, Option.getD_some] at hwaves hk
      cases waves with
      | nil => exact absurd rfl hwaves
      | cons wave waves => simp only [hk]

end Gate

theorem waveOf_eq_none {waves : List Wave} {host : HostId} :
    waveOf waves host = none ↔ ∀ wave ∈ waves, host ∉ wave.hosts := by
  rw [waveOf, List.findIdx?_eq_none_iff]
  refine forall_congr' fun wave => imp_congr_right fun _ => ?_
  rw [List.any_eq_false]
  constructor
  · intro h hmem
    exact h host hmem (beq_self_eq_true host)
  · intro h other hother hsame
    exact h (eq_of_beq hsame ▸ hother)

/-- **Wave index agreement.** A host of a projected manifest that a wave lists is recorded in the
wave the gate finds it in. In a channel without waves hosts are recorded in wave `0` and not gated.
A host that no wave of its channel lists is recorded in wave `0` and held back. -/
theorem projectManifest_waveIndex {fleet : FleetResolved} {channel : ChannelId} {hash : String}
    {signedAt : Time} {commit : Option String} {algorithm : String} {manifest : RolloutManifest}
    (hproject :
      projectManifest fleet channel hash signedAt commit algorithm = .ok (some manifest))
    {hw : HostWave} (hhw : hw ∈ manifest.hostSet) (rollouts : Table ChannelId RolloutManifest)
    (fs : FleetState) (rid : RolloutId) :
    (∀ k, waveOf ((fleet.waves.lookup channel).getD []) hw.hostname = some k →
      hw.waveIndex = k ∧
      wavePromotionCheck fs ⟨fleet, rollouts⟩ hw.hostname rid =
        if hw.waveIndex > fs.currentWave rid then
          some (.wavePromotion hw.waveIndex (fs.currentWave rid)) else none) ∧
    ((fleet.waves.lookup channel).getD [] = [] →
      hw.waveIndex = 0 ∧ wavePromotionCheck fs ⟨fleet, rollouts⟩ hw.hostname rid = none) ∧
    ((fleet.waves.lookup channel).getD [] ≠ [] →
      (∀ wave ∈ (fleet.waves.lookup channel).getD [], hw.hostname ∉ wave.hosts) →
      hw.waveIndex = 0 ∧
      wavePromotionCheck fs ⟨fleet, rollouts⟩ hw.hostname rid = some (.hostUnstaged channel)) := by
  rw [(projectManifest_spec hproject).1] at hhw
  obtain ⟨h, hh, hchannel, -, hindex⟩ := mem_hostSetOf.mp hhw
  subst hchannel
  have hrecorded : hw.waveIndex =
      (waveOf ((fleet.waves.lookup h.channel).getD []) hw.hostname).getD 0 := by
    rw [hindex, waveIndexOf]
    cases fleet.waves.lookup h.channel with
    | none => rfl
    | some waves => rfl
  refine ⟨?_, ?_, ?_⟩
  · intro k hk
    have hsame : hw.waveIndex = k := by rw [hrecorded, hk, Option.getD_some]
    rw [hsame]
    exact ⟨rfl, wavePromotionCheck_of_listed (m := ⟨fleet, rollouts⟩) hh hk fs rid⟩
  · intro hwaves
    refine ⟨?_, wavePromotionCheck_of_no_waves (m := ⟨fleet, rollouts⟩) hh hwaves fs rid⟩
    rw [hrecorded, hwaves]
    rfl
  · intro hwaves hunlisted
    have hk := waveOf_eq_none.mpr hunlisted
    refine ⟨?_, wavePromotionCheck_of_unlisted (m := ⟨fleet, rollouts⟩) hh hwaves hk fs rid⟩
    rw [hrecorded, hk, Option.getD_none]

/-- Three hosts, of which the waves list `b` and `c`. -/
def partlyStagedFleet : FleetResolved :=
  stableFleet "c1" [("a", "new"), ("b", "new"), ("c", "new")] ⟨"staged", [], .halt⟩
    [⟨["b"], 0⟩, ⟨["c"], 0⟩] [] []

/-- The manifest of its channel. -/
def partlyStagedManifest : RolloutManifest where
  schemaVersion := 1
  displayName := "stable@c1"
  channel := "stable"
  channelRef := "c1"
  fleetResolvedHash := ""
  hostSet := [⟨"a", 0, "new"⟩, ⟨"b", 0, "new"⟩, ⟨"c", 1, "new"⟩]
  disruptionBudgets := []
  manifestMeta := ⟨1, some 0, some "c1", some "ed25519"⟩

theorem projectManifest_partlyStaged :
    projectManifest partlyStagedFleet "stable" "" 0 (some "c1") "ed25519" =
      .ok (some partlyStagedManifest) := by decide

/-- The host `c` is recorded in wave `1`, and held back in wave `0`. -/
theorem projectManifest_waveIndex_second :
    wavePromotionCheck ⟨∅, ∅, ∅⟩ ⟨partlyStagedFleet, ∅⟩ "c" (.new "stable" "c1") =
      some (.wavePromotion 1 0) := by
  have hmem : (⟨"c", 1, "new"⟩ : HostWave) ∈ partlyStagedManifest.hostSet := by decide
  have hc := (projectManifest_waveIndex projectManifest_partlyStaged hmem ∅ ⟨∅, ∅, ∅⟩
    (.new "stable" "c1")).1 1 (by decide)
  exact hc.2

/-- The host `a` is recorded in wave `0`, and in no wave for the gate. -/
theorem projectManifest_unlisted_host :
    ¬ ∀ (fleet : FleetResolved) (channel : ChannelId) (hash : String) (signedAt : Time)
      (commit : Option String) (algorithm : String) (manifest : RolloutManifest),
      projectManifest fleet channel hash signedAt commit algorithm = .ok (some manifest) →
      ∀ hw ∈ manifest.hostSet, ∀ rollouts fs rid,
        wavePromotionCheck fs ⟨fleet, rollouts⟩ hw.hostname rid ≠ some (.hostUnstaged channel) := by
  intro h
  exact h partlyStagedFleet "stable" "" 0 (some "c1") "ed25519" partlyStagedManifest
    projectManifest_partlyStaged ⟨"a", 0, "new"⟩ (by decide) ∅ ⟨∅, ∅, ∅⟩ (.new "stable" "c1")
    (by decide)

end Nixfleet
