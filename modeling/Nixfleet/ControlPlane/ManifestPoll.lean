import Nixfleet.Agent.ManifestPoll
import Nixfleet.Reconciler.Acceptance

set_option autoImplicit false

/-!
# What the control plane polls

The control plane polls the fleet that CI has signed and, of every channel of it, the manifest. A
poll whose fleet does not verify changes nothing; a channel whose manifest does not verify, or names
another rollout than the one asked for, is left out of the set. The trust file is read again at
every poll.
-/

namespace Nixfleet

/-- `VerifiedFleetSnapshot`. -/
structure VerifiedFleetSnapshot where
  fleet : FleetResolved
  fleetResolvedHash : String
  artifactBytes : Bytes
  signatureBytes : Bytes

/-- What a poll meets: the clock, the trust file (`none` where it cannot be read or parsed), the
token file, the signed fleet, and the signed manifests by the id that they are asked for under
(`none` where a fetch fails). -/
structure PollEnv where
  now : Time
  trust : Option KeySlot
  tokenReads : Bool
  fleet : Option (Bytes × Bytes)
  rollouts : RolloutId → Option (Bytes × Bytes)

/-- What a poll is configured with. `channelRefsSource` holds its freshness window; the urls and
paths are in what a poll meets. -/
structure PollConfig where
  hooks : VerifyHooks
  channelRefsSource : Option Int
  rolloutsSource : Bool

/-- What ends a poll. -/
inductive PollError where
  | readTrustFile
  | readTokenFile
  | fetchSignedPair
  | verifyArtifact (err : VerifyError)
  | canonicalHashFromBytes (err : VerifyError)
deriving DecidableEq, Repr

/-- What leaves a channel out of a poll. -/
inductive ChannelError where
  | project (text : String)
  | fetchPair
  | verifyRolloutManifest (channel : ChannelId) (err : VerifyError)
  | discriminator (text : String)
deriving DecidableEq, Repr

/-- `check_rollout_id_discriminator`. -/
def checkRolloutIdDiscriminator (manifestChannel : ChannelId) (manifestChannelRef : ChannelRef)
    (requested : RolloutId) : Except String Unit :=
  let parsed := RolloutId.new manifestChannel manifestChannelRef
  if parsed ≠ requested then
    .error ("rollout_id discriminator failed: requested " ++ requested.asStr ++
      " but signed manifest declares " ++ parsed.asStr)
  else .ok ()

section Poll

variable (hooks : VerifyHooks) (env : PollEnv) (slot : KeySlot) (window : Int)

/-- `fetch_and_verify_channel_manifest`. -/
def fetchAndVerifyChannelManifest (fleet : FleetResolved) (fleetHash : String)
    (channel : ChannelId) : Except ChannelError (Option (Verified RolloutManifest)) :=
  match computeRolloutIdForChannel fleet fleetHash channel with
  | .error text => .error (.project text)
  | .ok none => .ok none
  | .ok (some rolloutId) =>
      match env.rollouts rolloutId with
      | none => .error .fetchPair
      | some (manifestBytes, signatureBytes) =>
          match verifyRolloutManifest hooks manifestBytes signatureBytes
            (slot.activeKeysAt env.now) env.now window slot.rejectBefore with
          | .error err => .error (.verifyRolloutManifest channel err)
          | .ok verified =>
              match checkRolloutIdDiscriminator verified.inner.channel verified.inner.channelRef
                rolloutId with
              | .error text => .error (.discriminator (channel ++ ": " ++ text))
              | .ok () => .ok (some verified)

/-- The manifests of a poll; a channel without one is left out. -/
def fetchRollouts (fleet : FleetResolved) (fleetHash : String) :
    Table ChannelId RolloutManifest :=
  fleet.channels.rows.foldl (fun rollouts row =>
    match fetchAndVerifyChannelManifest hooks env slot window fleet fleetHash row.1 with
    | .ok (some verified) => rollouts.insert row.1 verified.inner
    | .ok none | .error _ => rollouts) ∅

end Poll

/-- `poll_once`. -/
def pollOnce (cfg : PollConfig) (env : PollEnv) :
    Except PollError (Option (SignedManifestSet × VerifiedFleetSnapshot)) :=
  match cfg.channelRefsSource with
  | none => .ok none
  | some window =>
      match env.trust with
      | none => .error .readTrustFile
      | some slot =>
          if env.tokenReads = false then .error .readTokenFile
          else
            match env.fleet with
            | none => .error .fetchSignedPair
            | some (artifactBytes, signatureBytes) =>
                match verifyArtifact cfg.hooks artifactBytes signatureBytes
                  (slot.activeKeysAt env.now) env.now window slot.rejectBefore with
                | .error err => .error (.verifyArtifact err)
                | .ok fleet =>
                    match canonicalHashFromBytes cfg.hooks artifactBytes with
                    | .error err => .error (.canonicalHashFromBytes err)
                    | .ok fleetHash =>
                        let rollouts :=
                          if cfg.rolloutsSource then
                            fetchRollouts cfg.hooks env slot window fleet.inner fleetHash
                          else ∅
                        .ok (some (⟨fleet.inner, rollouts⟩,
                          ⟨fleet.inner, fleetHash, artifactBytes, signatureBytes⟩))

/-! ## What a poll vouches for -/

/-- The fleet and its hash are those of the signed bytes. -/
structure VerifiedFleetSnapshot.Verifies (snapshot : VerifiedFleetSnapshot) (hooks : VerifyHooks)
    (slot : KeySlot) (now : Time) (window : Int) : Prop where
  fleet : ∃ verified, verifyArtifact hooks snapshot.artifactBytes snapshot.signatureBytes
    (slot.activeKeysAt now) now window slot.rejectBefore = .ok verified ∧
      verified.inner = snapshot.fleet
  hash : canonicalHashFromBytes hooks snapshot.artifactBytes = .ok snapshot.fleetResolvedHash

/-- The manifest verifies, as one of the rollout that the fleet has on the channel. -/
structure PolledManifest (hooks : VerifyHooks) (env : PollEnv) (slot : KeySlot) (window : Int)
    (fleet : FleetResolved) (channel : ChannelId) (manifest : RolloutManifest) : Prop where
  onFleet : (fleet.channels.lookup channel).isSome = true
  signed : ∃ bytes sig signedAt, Acceptable hooks bytes sig (slot.activeKeysAt env.now) env.now
    window slot.rejectBefore ⟨manifest, signedAt⟩
  named : RolloutId.new manifest.channel manifest.channelRef =
    .new channel (fleet.fleetMeta.ciCommit.getD "")

/-- The poll verifies a fleet, and the manifest as that of the fleet's channel. -/
def PollEnv.Vouches (cfg : PollConfig) (env : PollEnv) (channel : ChannelId)
    (manifest : RolloutManifest) : Prop :=
  ∃ (window : Int) (slot : KeySlot) (snapshot : VerifiedFleetSnapshot),
    cfg.channelRefsSource = some window ∧ env.trust = some slot ∧
      snapshot.Verifies cfg.hooks slot env.now window ∧
        PolledManifest cfg.hooks env slot window snapshot.fleet channel manifest

section Vouches

variable {hooks : VerifyHooks} {cfg : PollConfig} {env : PollEnv} {slot : KeySlot} {window : Int}
  {fleet : FleetResolved} {fleetHash : String} {channel : ChannelId}

theorem checkRolloutIdDiscriminator_eq_ok {manifestChannel : ChannelId}
    {manifestChannelRef : ChannelRef} {requested : RolloutId} :
    checkRolloutIdDiscriminator manifestChannel manifestChannelRef requested = .ok () ↔
      RolloutId.new manifestChannel manifestChannelRef = requested := by
  unfold checkRolloutIdDiscriminator
  by_cases h : RolloutId.new manifestChannel manifestChannelRef = requested <;> simp [h]

/-- A channel's turn returns a manifest that verifies as the channel's. -/
theorem fetchAndVerify_eq_ok {verified : Verified RolloutManifest}
    (h : fetchAndVerifyChannelManifest hooks env slot window fleet fleetHash channel =
      .ok (some verified)) :
    PolledManifest hooks env slot window fleet channel verified.inner := by
  unfold fetchAndVerifyChannelManifest at h
  split at h
  · cases h
  · cases h
  · rename_i requested hid
    obtain ⟨hrequested, hchannel⟩ := computeRolloutIdForChannel_eq_some hid
    split at h
    · cases h
    · rename_i bytes sig hfetch
      split at h
      · cases h
      · rename_i v hverify
        split at h
        · cases h
        · rename_i hnamed
          cases h
          have hacc := verifySignedSidecar_eq_ok.mp hverify
          exact ⟨hchannel, ⟨bytes, sig, verified.signedAt, hacc⟩,
            (checkRolloutIdDiscriminator_eq_ok.mp hnamed).trans hrequested⟩

/-- **The manifests of a poll.** Each is the one that its channel's turn has verified. -/
theorem fetchRollouts_lookup {manifest : RolloutManifest}
    (h : (fetchRollouts hooks env slot window fleet fleetHash).lookup channel = some manifest) :
    ∃ verified, fetchAndVerifyChannelManifest hooks env slot window fleet fleetHash channel =
      .ok (some verified) ∧ verified.inner = manifest := by
  refine List.foldlRecOn (motive := fun rollouts : Table ChannelId RolloutManifest =>
    ∀ manifest, rollouts.lookup channel = some manifest → ∃ verified,
      fetchAndVerifyChannelManifest hooks env slot window fleet fleetHash channel =
        .ok (some verified) ∧ verified.inner = manifest) _ _ ?_ ?_ manifest h
  · intro manifest hnone
    cases hnone
  · intro rollouts ih row _
    split
    · rename_i verified hverified
      intro manifest hlook
      rw [Table.lookup_insert_eq] at hlook
      split at hlook
      · -- the turn of the channel itself
        rename_i heq
        cases hlook
        exact ⟨verified, heq ▸ hverified, rfl⟩
      · exact ih manifest hlook
    · exact ih
    · exact ih

/-- **What a poll returns.** A snapshot that verifies, and a set of its fleet whose manifests the
poll vouches for. -/
theorem pollOnce_eq_ok {set : SignedManifestSet} {snapshot : VerifiedFleetSnapshot}
    (h : pollOnce cfg env = .ok (some (set, snapshot))) :
    set.fleet = snapshot.fleet ∧
      (∃ window slot, cfg.channelRefsSource = some window ∧ env.trust = some slot ∧
        snapshot.Verifies cfg.hooks slot env.now window) ∧
      ∀ channel manifest, set.rollouts.lookup channel = some manifest →
        env.Vouches cfg channel manifest := by
  unfold pollOnce at h
  split at h
  · cases h
  · rename_i window hwindow
    split at h
    · cases h
    · rename_i slot hslot
      split at h
      · cases h
      · split at h
        · cases h
        · rename_i artifactBytes signatureBytes hfleet
          split at h
          · cases h
          · rename_i fleet hverify
            split at h
            · cases h
            · rename_i fleetHash hhash
              cases h
              have hsnapshot : VerifiedFleetSnapshot.Verifies
                  ⟨fleet.inner, fleetHash, artifactBytes, signatureBytes⟩ cfg.hooks slot env.now
                  window := ⟨⟨fleet, hverify, rfl⟩, hhash⟩
              refine ⟨rfl, ⟨window, slot, hwindow, hslot, hsnapshot⟩, ?_⟩
              intro channel manifest hlook
              by_cases hsource : cfg.rolloutsSource = true
              · simp only [hsource, if_true] at hlook
                obtain ⟨verified, hfetch, rfl⟩ := fetchRollouts_lookup hlook
                exact ⟨window, slot, _, hwindow, hslot, hsnapshot, fetchAndVerify_eq_ok hfetch⟩
              · rw [if_neg hsource] at hlook
                cases hlook

end Vouches

end Nixfleet
