import Nixfleet.Agent.ManifestCache
import Nixfleet.Release.Delivery

set_option autoImplicit false

/-!
# From channel names to rollout ids

The declared fleet may name a channel as it likes. The name goes into the rollout id, which the
control plane's route and the agent's path check read in their own ways. What they all take is what
the route takes (`rolledOut_iff`): a channel of another name is signed and never fetched. The ids
themselves are told apart in any case, as a commit has no `@`.
-/

namespace Nixfleet

/-- A lower-case hexadecimal commit. -/
def IsCommit (commit : String) : Prop := commit ≠ "" ∧ ∀ c ∈ commit.toList, isRefChar c = true

instance (commit : String) : Decidable (IsCommit commit) :=
  decidable_of_iff (commit ≠ "" ∧ commit.toList.all isRefChar = true) (by simp [IsCommit])

/-- A release of the accepted fleet at the commit has the manifest for the channel. -/
def ManifestOf (cfg : FleetConfig) (commit : String) (channel : ChannelId)
    (manifest : RolloutManifest) : Prop :=
  ∃ resolved hashes signedAt algorithm hash, checkInvariants cfg = .ok () ∧
    resolveFleet cfg = .ok resolved ∧
    projectManifest (signedFleet resolved hashes signedAt (some commit) algorithm) channel hash
      signedAt (some commit) algorithm = .ok (some manifest)

/-- The id of a manifest. -/
def RolloutManifest.rolloutId (manifest : RolloutManifest) : RolloutId :=
  .new manifest.channel manifest.channelRef

/-- The manifest's id is taken by the control plane and by the agent, gives back its parts, and is
the id of no other channel and ref. -/
structure RolledOut (manifest : RolloutManifest) : Prop where
  served : looksLikeRolloutId manifest.rolloutId.asStr = true
  loaded : validateRolloutIdForPath manifest.rolloutId = .ok ()
  parts : manifest.rolloutId.channel = manifest.channel ∧
    manifest.rolloutId.channelRef = manifest.channelRef
  own : ∀ cfg commit channel other, IsCommit commit → ManifestOf cfg commit channel other →
    other.rolloutId = manifest.rolloutId →
      other.channel = manifest.channel ∧ other.channelRef = manifest.channelRef

/-- The channel is named as the control plane's route expects it. -/
def RoutableName (channel : ChannelId) : Prop :=
  channel ≠ "" ∧ ∀ c ∈ channel.toList, isChannelChar c = true

instance (channel : ChannelId) : Decidable (RoutableName channel) :=
  decidable_of_iff (channel ≠ "" ∧ channel.toList.all isChannelChar = true)
    (by simp [RoutableName])

section Names

variable {cfg : FleetConfig} {commit : String} {channel : ChannelId} {manifest : RolloutManifest}

theorem ManifestOf.parts (h : ManifestOf cfg commit channel manifest) :
    manifest.channel = channel ∧ manifest.channelRef = commit := by
  obtain ⟨resolved, hashes, signedAt, algorithm, hash, -, -, hp⟩ := h
  exact ⟨(projectManifest_channel hp).1, (projectManifest_spec hp).2.1⟩

theorem IsCommit.noAt (h : IsCommit commit) : '@' ∉ commit.toList :=
  fun hmem => absurd (h.2 _ hmem) (by decide)

theorem RoutableName.noAt (h : RoutableName channel) : '@' ∉ channel.toList :=
  fun hmem => absurd (h.2 _ hmem) (by decide)

/-- The route takes the id of a channel and a commit iff it takes the channel's name. -/
theorem looksLikeRolloutId_new (hcommit : IsCommit commit) :
    looksLikeRolloutId (RolloutId.new channel commit).asStr = true ↔ RoutableName channel := by
  rw [looksLikeRolloutId_iff]
  constructor
  · rintro ⟨channel', ref', heq, hname, hne, hchars⟩
    have hid : RolloutId.new channel commit = RolloutId.new channel' ref' := congrArg _ heq
    obtain ⟨rfl, -⟩ := rolloutId_new_inj hcommit.noAt (IsCommit.noAt ⟨hne, hchars⟩) hid
    exact hname
  · intro hname
    exact ⟨channel, commit, rfl, hname, hcommit⟩

/-- **A channel can be rolled out iff its name is routable**, for every accepted fleet and every
commit. -/
theorem rolledOut_iff (hcommit : IsCommit commit) (h : ManifestOf cfg commit channel manifest) :
    RolledOut manifest ↔ RoutableName channel := by
  obtain ⟨hchannel, href⟩ := h.parts
  have hid : manifest.rolloutId = .new channel commit := by
    rw [RolloutManifest.rolloutId, hchannel, href]
  constructor
  · intro hrolled
    rw [← looksLikeRolloutId_new hcommit, ← hid]
    exact hrolled.served
  · intro hname
    have hserved : looksLikeRolloutId manifest.rolloutId.asStr = true := by
      rw [hid]
      exact (looksLikeRolloutId_new hcommit).mpr hname
    refine ⟨hserved, validateRolloutIdForPath_of_looksLike hserved, ?_, ?_⟩
    · rw [hid, hchannel, href]
      exact (rolloutId_parts_iff channel commit).mpr hname.noAt
    · intro cfg' commit' channel' other hcommit' hother hsame
      obtain ⟨hchannel', href'⟩ := hother.parts
      rw [hid, RolloutManifest.rolloutId, hchannel', href'] at hsame
      rw [hchannel, href, hchannel', href']
      exact rolloutId_new_inj hcommit'.noAt hcommit.noAt hsame

end Names

/-- One host on a channel of the given name. -/
def namedConfig (channel : ChannelId) : FleetConfig where
  hosts := (∅ : Table HostId HostConfig).insert "a"
    ⟨"x86_64-linux", none, [], channel, none, none, ∅⟩
  tags := ∅
  channels := (∅ : Table ChannelId ChannelConfig).insert channel
    ⟨"all", 5, 30, 60, ∅, ⟨[], .enforce⟩⟩
  rolloutPolicies := (∅ : Table String PolicyConfig).insert "all" ⟨"all-at-once", [], .halt⟩
  edges := []
  channelEdges := []
  disruptionBudgets := []
  healthChecks := ∅

/-- The manifest of its release. -/
def namedManifest (channel : ChannelId) : RolloutManifest :=
  ⟨1, channel ++ "@c1", channel, "c1", "", [⟨"a", 0, "new"⟩], [],
    ⟨1, some 0, some "c1", some "ed25519"⟩⟩

/-- The manifest of a release at the commit `c1`. -/
def releasedManifest (cfg : FleetConfig) (channel : ChannelId) : Option RolloutManifest :=
  match resolveFleet cfg with
  | .error _ => none
  | .ok resolved =>
      match projectManifest (signedFleet resolved [("a", "new")] 0 (some "c1") "ed25519") channel ""
        0 (some "c1") "ed25519" with
      | .error _ => none
      | .ok manifest => manifest

theorem manifestOf_of_released {cfg : FleetConfig} {channel : ChannelId}
    {manifest : RolloutManifest} (h : releasedManifest cfg channel = some manifest) :
    ManifestOf cfg "c1" channel manifest := by
  unfold releasedManifest at h
  split at h
  · cases h
  · rename_i resolved hresolved
    split at h
    · cases h
    · rename_i manifest? hp
      subst h
      exact ⟨resolved, _, _, _, _, (resolveFleet_eq_ok hresolved).1, hresolved, hp⟩

/-- A channel in lower case. -/
theorem stable_rolledOut :
    RolledOut (namedManifest "stable") ↔ RoutableName "stable" :=
  have h : ManifestOf (namedConfig "stable") "c1" "stable" (namedManifest "stable") :=
    manifestOf_of_released (by decide)
  rolledOut_iff (by decide) h

/-- A channel with a capital letter. -/
theorem capital_not_rolledOut :
    IsCommit "c1" ∧ ManifestOf (namedConfig "Stable") "c1" "Stable" (namedManifest "Stable") ∧
      ¬ RolledOut (namedManifest "Stable") := by
  refine ⟨by decide, manifestOf_of_released (by decide), fun h => ?_⟩
  exact absurd h.served (by decide)

end Nixfleet
