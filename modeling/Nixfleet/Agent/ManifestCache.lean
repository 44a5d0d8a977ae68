import Mathlib.Data.List.Infix
import Nixfleet.ControlPlane.RolloutRoutes
import Nixfleet.Reconciler.Manifest
import Nixfleet.Reconciler.Verify

set_option autoImplicit false

/-!
# The agent's manifest cache

The agent keeps the fleet and the manifests that it has fetched on disk. It verifies what it finds
there like something fetched, takes it if it verifies, and asks the control plane only otherwise. A
poll loads the fleet, then the manifest of every channel, and keeps the manifests that name the
fleet's hash. One load is taken at one reading of the clock.
-/

namespace Nixfleet

/-! ## The cache -/

/-- `ManifestError`; a failed verification keeps its cause in place of its text. -/
inductive ManifestError where
  | missing (reason : String)
  | trustRoots
  | verifyFailed (err : VerifyError)
  | mismatch (reason : String)
deriving DecidableEq, Repr

/-- The files of the cache directories. The manifest and the signature of a rollout are two
files, each of which may be there without the other. -/
structure CacheDisk where
  fleet : Option Bytes
  fleetSig : Option Bytes
  manifests : Table RolloutId Bytes
  sigs : Table RolloutId Bytes

/-- The files that a write-through writes. -/
inductive CacheFile where
  | fleet
  | fleetSig
  | manifest (rolloutId : RolloutId)
  | sig (rolloutId : RolloutId)
deriving DecidableEq, Repr

/-- What the agent meets when it loads: the clock, the trust file (`none` where it cannot be read or
parsed), the artifacts behind the control plane's routes, and the writes that fail. -/
structure LoadEnv where
  now : Time
  trust : Option KeySlot
  store : ArtifactStore
  writeFails : CacheFile → Bool

/-- `ManifestCache`, with the third-party code it calls. -/
structure ManifestCache where
  hooks : VerifyHooks
  freshnessWindow : Int

/-- `fetch`, of one of the two halves of a pair. -/
def fetch (url : String) (answer : Except RouteStatus Bytes) : Except ManifestError Bytes :=
  match answer with
  | .ok bytes => .ok bytes
  | .error .notFound => .error (.missing ("404 from " ++ url))
  | .error .internalServerError => .error (.missing (url ++ ": 500 Internal Server Error"))
  | .error .badGateway => .error (.missing (url ++ ": 502 Bad Gateway"))
  | .error .serviceUnavailable => .error (.missing (url ++ ": 503 Service Unavailable"))

/-- `validate_rollout_id_for_path`; the error shows the id without escapes. -/
def validateRolloutIdForPath (rolloutId : RolloutId) : Except ManifestError Unit :=
  if rolloutId.asStr.toList.contains '/' || ['.', '.'] <:+: rolloutId.asStr.toList then
    .error (.mismatch
      ("rollout_id \"" ++ rolloutId.asStr ++ "\" contains path-traversal characters"))
  else .ok ()

/-- What the control plane's route takes, the path check takes. -/
theorem validateRolloutIdForPath_of_looksLike {rolloutId : RolloutId}
    (h : looksLikeRolloutId rolloutId.asStr = true) :
    validateRolloutIdForPath rolloutId = .ok () := by
  have hslash : '/' ∉ rolloutId.asStr.toList := fun hmem =>
    (mem_of_looksLikeRolloutId h hmem).1 rfl
  have hdots : ¬ ['.', '.'] <:+: rolloutId.asStr.toList := fun hpart =>
    (mem_of_looksLikeRolloutId h (hpart.subset (by simp))).2 rfl
  simp [validateRolloutIdForPath, hslash, hdots]

/-- `assert_rollout_id_matches`. -/
def assertRolloutIdMatches (manifest : RolloutManifest) (advertised : RolloutId) :
    Except ManifestError Unit :=
  let parsed := RolloutId.new manifest.channel manifest.channelRef
  if parsed ≠ advertised then
    .error (.mismatch ("advertised rolloutId " ++ advertised.asStr ++ " != parsed RolloutId "
      ++ parsed.asStr))
  else .ok ()

namespace ManifestCache

variable (cache : ManifestCache) (env : LoadEnv)

/-- `verify_bytes`. -/
def verifyBytes (manifestBytes sigBytes : Bytes) (rolloutId : RolloutId) :
    Except ManifestError (Verified RolloutManifest) :=
  match env.trust with
  | none => .error .trustRoots
  | some slot =>
      match verifyRolloutManifest cache.hooks manifestBytes sigBytes (slot.activeKeysAt env.now)
        env.now cache.freshnessWindow slot.rejectBefore with
      | .error err => .error (.verifyFailed err)
      | .ok verified => (assertRolloutIdMatches verified.inner rolloutId).map fun _ => verified

/-- `verify_fleet_bytes`. -/
def verifyFleetBytes (artifactBytes sigBytes : Bytes) :
    Except ManifestError (Verified FleetResolved) :=
  match env.trust with
  | none => .error .trustRoots
  | some slot =>
      (verifyArtifact cache.hooks artifactBytes sigBytes (slot.activeKeysAt env.now) env.now
        cache.freshnessWindow slot.rejectBefore).mapError .verifyFailed

/-- `read_cached_bytes`. -/
def readCachedBytes (disk : CacheDisk) (rolloutId : RolloutId) : Option (Bytes × Bytes) :=
  (disk.manifests.lookup rolloutId).bind fun manifest =>
    (disk.sigs.lookup rolloutId).map fun sig => (manifest, sig)

/-- `write_cache`: a failed write leaves out the ones after it. -/
def writeCache (disk : CacheDisk) (rolloutId : RolloutId) (manifestBytes sigBytes : Bytes) :
    CacheDisk :=
  if env.writeFails (.manifest rolloutId) then disk
  else
    let disk := { disk with manifests := disk.manifests.insert rolloutId manifestBytes }
    if env.writeFails (.sig rolloutId) then disk
    else { disk with sigs := disk.sigs.insert rolloutId sigBytes }

/-- The cached manifest of a rollout, if it verifies. -/
def cachedManifest (disk : CacheDisk) (rolloutId : RolloutId) : Option (Verified RolloutManifest) :=
  (readCachedBytes disk rolloutId).bind fun pair =>
    (cache.verifyBytes env pair.1 pair.2 rolloutId).toOption

/-- The pair that the control plane serves for a rollout, and the manifest if it verifies. -/
def fetchManifest (rolloutId : RolloutId) :
    Except ManifestError ((Bytes × Bytes) × Verified RolloutManifest) := do
  let url := "/v1/rollouts/" ++ rolloutId.asStr
  let manifestBytes ← fetch url ((loadPair env.store rolloutId.asStr).map (·.1))
  let sigBytes ← fetch (url ++ "/sig") ((loadPair env.store rolloutId.asStr).map (·.2))
  let verified ← cache.verifyBytes env manifestBytes sigBytes rolloutId
  .ok ((manifestBytes, sigBytes), verified)

/-- `fetch_or_load`. -/
def fetchOrLoad (disk : CacheDisk) (rolloutId : RolloutId) :
    Except ManifestError (Verified RolloutManifest) × CacheDisk :=
  match validateRolloutIdForPath rolloutId with
  | .error err => (.error err, disk)
  | .ok () =>
      match cache.cachedManifest env disk rolloutId with
      | some verified => (.ok verified, disk)
      | none =>
          match cache.fetchManifest env rolloutId with
          | .error err => (.error err, disk)
          | .ok (pair, verified) => (.ok verified, writeCache env disk rolloutId pair.1 pair.2)

/-- `read_cached_fleet_bytes`. -/
def readCachedFleetBytes (disk : CacheDisk) : Option (Bytes × Bytes) :=
  disk.fleet.bind fun artifact => disk.fleetSig.map fun sig => (artifact, sig)

/-- `write_fleet_cache`. -/
def writeFleetCache (disk : CacheDisk) (artifactBytes sigBytes : Bytes) : CacheDisk :=
  if env.writeFails .fleet then disk
  else
    let disk := { disk with fleet := some artifactBytes }
    if env.writeFails .fleetSig then disk else { disk with fleetSig := some sigBytes }

/-- The hash of a fleet's bytes. -/
def hashFleet (which : String) (artifactBytes : Bytes) : Except ManifestError String :=
  (canonicalHashFromBytes cache.hooks artifactBytes).mapError fun _ =>
    .mismatch ("hash " ++ which ++ " fleet")

/-- The cached fleet with its bytes, if it verifies. -/
def cachedFleet (disk : CacheDisk) : Option (Bytes × Verified FleetResolved) :=
  (readCachedFleetBytes disk).bind fun pair =>
    (cache.verifyFleetBytes env pair.1 pair.2).toOption.map fun verified => (pair.1, verified)

/-- The pair that the control plane serves for the fleet, and the fleet with its hash if it
verifies. -/
def fetchFleet : Except ManifestError ((Bytes × Bytes) × Verified FleetResolved × String) := do
  let url := "/v1/fleet.resolved"
  let artifactBytes ← fetch url ((loadFleet env.store).map (·.1))
  let sigBytes ← fetch (url ++ "/sig") ((loadFleet env.store).map (·.2))
  let verified ← cache.verifyFleetBytes env artifactBytes sigBytes
  let hash ← cache.hashFleet "fetched" artifactBytes
  .ok ((artifactBytes, sigBytes), verified, hash)

/-- `fetch_or_load_fleet`. -/
def fetchOrLoadFleet (disk : CacheDisk) :
    Except ManifestError (Verified FleetResolved × String) × CacheDisk :=
  match cache.cachedFleet env disk with
  | some (artifactBytes, verified) =>
      ((cache.hashFleet "cached" artifactBytes).map fun hash => (verified, hash), disk)
  | none =>
      match cache.fetchFleet env with
      | .error err => (.error err, disk)
      | .ok (pair, loaded) => (.ok loaded, writeFleetCache env disk pair.1 pair.2)

end ManifestCache

/-! ## The poll -/

/-- `compute_rollout_id_for_channel`. -/
def computeRolloutIdForChannel (fleet : FleetResolved) (fleetResolvedHash : String)
    (channel : ChannelId) : Except String (Option RolloutId) :=
  match fleet.fleetMeta.signedAt with
  | none => .error "fleet.meta.signedAt is None - cannot project manifest"
  | some signedAt =>
      (projectManifest fleet channel fleetResolvedHash signedAt fleet.fleetMeta.ciCommit
        (fleet.fleetMeta.signatureAlgorithm.getD "ed25519")).map fun manifest =>
          manifest.map fun m => .new m.channel m.channelRef

namespace ManifestCache

variable (cache : ManifestCache) (env : LoadEnv)

/-- The body of the loop of `tick_once`: a channel is skipped, or its manifest is added. -/
def pollChannel (fleet : FleetResolved) (fleetHash : String)
    (acc : Table ChannelId RolloutManifest × CacheDisk) (channel : ChannelId) :
    Table ChannelId RolloutManifest × CacheDisk :=
  match computeRolloutIdForChannel fleet fleetHash channel with
  | .error _ | .ok none => acc
  | .ok (some rolloutId) =>
      match cache.fetchOrLoad env acc.2 rolloutId with
      | (.error _, disk) => (acc.1, disk)
      | (.ok verified, disk) =>
          if verified.inner.fleetResolvedHash ≠ fleetHash then (acc.1, disk)
          else (acc.1.insert channel verified.inner, disk)

/-- `tick_once`; `order` is the iteration order of the channels. -/
def tickOnce (order : ChannelId → Nat) (disk : CacheDisk) :
    Except ManifestError SignedManifestSet × CacheDisk :=
  match cache.fetchOrLoadFleet env disk with
  | (.error err, disk) => (.error err, disk)
  | (.ok (fleet, fleetHash), disk) =>
      let channels := (iterBy order fleet.inner.channels.rows).map (·.1)
      let (rollouts, disk) := channels.foldl (cache.pollChannel env fleet.inner fleetHash) (∅, disk)
      (.ok ⟨fleet.inner, rollouts⟩, disk)

end ManifestCache

end Nixfleet
