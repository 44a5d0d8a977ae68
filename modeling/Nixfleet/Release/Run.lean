import Nixfleet.Proto.Fleet

set_option autoImplicit false

/-!
# A release run

`run` of the release tool from the evaluated fleet on: the closure hashes are injected, the
metadata is stamped, the canonical bytes are signed (or the signature on disk is reused) and
written next to their signature, then the other artifacts of the release. Evaluation, builds
and pushes come before and are its input; git comes after.
-/

namespace Nixfleet

/-- Third-party code: the sign hook with its output file, `serde_json` and JCS. -/
structure ReleaseHooks where
  signCmd : Bytes → Option Bytes
  canonicalizeResolved : FleetResolved → Option Bytes
  parseResolved : Bytes → Option FleetResolved

structure ReleaseConfig where
  signatureAlgorithm : String
  smokeVerify : Bool
  reuseUnchangedSignature : Bool
deriving DecidableEq, Repr

/-- The default of `artifact_name`. -/
def fleetArtifact : String := "fleet.resolved.json"

/-- The files of the release directory, by their path in it. -/
abbrev ReleaseDir := Table String Bytes

/-- The artifacts a run writes after the fleet, with their canonical bytes. -/
inductive OtherArtifact where
  | revocations (canonical : Bytes)
  | bootstrapNonces (canonical : Bytes)
  | manifest (rolloutId : RolloutId) (canonical : Bytes)
deriving DecidableEq, Repr

def OtherArtifact.path : OtherArtifact → String
  | .revocations _ => "revocations.json"
  | .bootstrapNonces _ => "bootstrap-nonces.json"
  | .manifest rolloutId _ => "rollouts/" ++ rolloutId.asStr ++ ".json"

def OtherArtifact.canonical : OtherArtifact → Bytes
  | .revocations canonical => canonical
  | .bootstrapNonces canonical => canonical
  | .manifest _ canonical => canonical

/-- What a run has when it starts to write: the evaluated fleet without its expired pins, the
closure hashes of the built hosts, the commit, the clock and the other artifacts. -/
structure ReleaseInput where
  resolved : FleetResolved
  hashes : List (HostId × ClosureHash)
  currentCommit : Option String
  now : Time
  others : List OtherArtifact

/-! ## The steps -/

/-- `validate_config`, of the fields modelled here. -/
def validateConfig (c : ReleaseConfig) : Except String Unit :=
  if c.signatureAlgorithm = "ed25519" ∨ c.signatureAlgorithm = "ecdsa-p256" then .ok ()
  else
    .error ("--signature-algorithm must be 'ed25519' or 'ecdsa-p256', got '"
      ++ c.signatureAlgorithm ++ "'")

/-- `inject_closure_hashes`: unknown hosts are skipped. -/
def injectClosureHashes (resolved : FleetResolved) (hashes : List (HostId × ClosureHash)) :
    FleetResolved :=
  hashes.foldl (fun r h =>
    { r with hosts := r.hosts.modify h.1 fun host => { host with closureHash := some h.2 } })
    resolved

/-- `stamp_meta`. -/
def stampMeta (resolved : FleetResolved) (signedAt : Time) (ciCommit : Option String)
    (signatureAlgorithm : String) : FleetResolved :=
  { resolved with
    fleetMeta := { resolved.fleetMeta with
      signedAt := some signedAt
      ciCommit := ciCommit
      signatureAlgorithm := some signatureAlgorithm } }

/-- The closure hashes of a fleet, by host name. -/
def closureHashesOf (fleet : FleetResolved) : List (HostId × Option ClosureHash) :=
  (fleet.hosts.rows.map fun h => (h.1, h.2.closureHash)).insertionSort fun a b => a.1 ≤ b.1

/-- `load_existing_signed_at_if_unchanged`: it compares the closure hashes only. -/
def loadExistingSignedAtIfUnchanged (hooks : ReleaseHooks) (dir : ReleaseDir)
    (resolved : FleetResolved) : Except String (Option Time) :=
  match dir.lookup fleetArtifact with
  | none => .ok none
  | some raw =>
      match hooks.parseResolved raw with
      | none => .error "parse existing release file"
      | some existing =>
          if closureHashesOf resolved = closureHashesOf existing then
            .ok existing.fleetMeta.signedAt
          else .ok none

/-- `sign`. -/
def sign (hooks : ReleaseHooks) (canonical : Bytes) : Except String Bytes :=
  match hooks.signCmd canonical with
  | none => .error "sign hook exited"
  | some sig =>
      if sig.isEmpty then .error "sign hook produced 0-byte signature - refusing to publish"
      else .ok sig

/-- `smoke_verify`. -/
def smokeVerify (hooks : ReleaseHooks) (canonical signature : Bytes) : Except String Unit :=
  match hooks.parseResolved canonical with
  | none => .error "smoke verify: canonical bytes don't parse as FleetResolved"
  | some parsed =>
      match hooks.canonicalizeResolved parsed with
      | none => .error "smoke verify: re-canonicalize failed"
      | some recanonical =>
          if recanonical ≠ canonical then
            .error "smoke verify: canonicalization is not byte-stable round-trip"
          else if signature.isEmpty then .error "smoke verify: empty signature"
          else .ok ()

/-- `write_release`. -/
def writeRelease (dir : ReleaseDir) (artifactName : String) (canonical signature : Bytes) :
    ReleaseDir :=
  (dir.insert artifactName canonical).insert (artifactName ++ ".sig") signature

/-- The signature of another artifact: the one on disk iff the bytes on disk are the ones to be
written. -/
def otherSignature (hooks : ReleaseHooks) (dir : ReleaseDir) (a : OtherArtifact) :
    Except String Bytes :=
  if dir.lookup a.path = some a.canonical then
    match dir.lookup (a.path ++ ".sig") with
    | some sig => .ok sig
    | none => sign hooks a.canonical
  else sign hooks a.canonical

/-- How another artifact is written. -/
def writeOther (hooks : ReleaseHooks) (dir : ReleaseDir) (a : OtherArtifact) :
    Except String ReleaseDir :=
  match otherSignature hooks dir a with
  | .error e => .error e
  | .ok sig => .ok (writeRelease dir a.path a.canonical sig)

/-- The signing time that is kept from the release on disk. -/
def preservedSignedAt (hooks : ReleaseHooks) (config : ReleaseConfig) (dir : ReleaseDir)
    (resolved : FleetResolved) : Except String (Option Time) :=
  if config.reuseUnchangedSignature then
    loadExistingSignedAtIfUnchanged hooks dir resolved
  else .ok none

/-- The canonical bytes of the stamped fleet. -/
def canonicalBytes (hooks : ReleaseHooks) (config : ReleaseConfig) (input : ReleaseInput)
    (resolved : FleetResolved) (signedAt : Time) : Except String Bytes :=
  match hooks.canonicalizeResolved
      (stampMeta resolved signedAt input.currentCommit config.signatureAlgorithm) with
  | none => .error "canonicalize fleet.resolved"
  | some canonical => .ok canonical

/-- The signature that is written with the canonical bytes. -/
def signatureFor (hooks : ReleaseHooks) (dir : ReleaseDir) (preserved : Option Time)
    (canonical : Bytes) : Except String Bytes :=
  match preserved, dir.lookup (fleetArtifact ++ ".sig") with
  | some _, some sig => .ok sig
  | _, _ => sign hooks canonical

/-- The part of `run` that writes the fleet: the directory with the new pair. -/
def writeFleet (hooks : ReleaseHooks) (config : ReleaseConfig) (dir : ReleaseDir)
    (input : ReleaseInput) : Except String ReleaseDir := do
  let resolved := injectClosureHashes input.resolved input.hashes
  let preserved ← preservedSignedAt hooks config dir resolved
  let canonical ← canonicalBytes hooks config input resolved (preserved.getD input.now)
  let sig ← signatureFor hooks dir preserved canonical
  if config.smokeVerify then smokeVerify hooks canonical sig
  .ok (writeRelease dir fleetArtifact canonical sig)

/-- `run`: the release directory of a run that succeeds. -/
def runRelease (hooks : ReleaseHooks) (config : ReleaseConfig) (dir : ReleaseDir)
    (input : ReleaseInput) : Except String ReleaseDir := do
  validateConfig config
  if input.hashes.isEmpty then .error "no hosts to release - empty enumeration"
  else do
    let dir ← writeFleet hooks config dir input
    input.others.foldlM (writeOther hooks) dir

end Nixfleet
