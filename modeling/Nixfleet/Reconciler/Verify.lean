import Nixfleet.Proto.Fleet

set_option autoImplicit false

/-!
# Verified artifacts

Every signed artifact passes the same gates: its signature fits one of the trusted keys, its schema
is known, and its signing time is neither before the compromise switch, nor older than the freshness
window, nor in the future. Text, JSON, its canonical form, the two signature schemes and the hash
are third-party code.
-/

namespace Nixfleet

/-! ## Trust roots -/

/-- A trusted key; `public_b64` is the source's `public`. -/
structure TrustedPubkey where
  algorithm : String
  publicB64 : String
deriving DecidableEq, Repr

/-- `KeySlot`: the keys of one purpose, over a rotation. -/
structure KeySlot where
  current : Option TrustedPubkey
  previous : Option TrustedPubkey
  rejectBefore : Option Time
  successor : Option TrustedPubkey
  retireAt : Option Time
deriving DecidableEq, Repr

/-- `KeySlot::active_keys`. -/
def KeySlot.activeKeys (slot : KeySlot) : List TrustedPubkey :=
  slot.current.toList ++ slot.previous.toList

/-- `KeySlot::active_keys_at`: until the current key retires its successor counts too. -/
def KeySlot.activeKeysAt (slot : KeySlot) (now : Time) : List TrustedPubkey :=
  slot.activeKeys ++
    match slot.successor, slot.retireAt with
    | some key, some retireAt => if now < retireAt then [key] else []
    | _, _ => []

/-! ## Verification -/

/-- Third-party code: UTF-8 with `serde_json`, JCS, the signature schemes and SHA-256. -/
structure VerifyHooks where
  isJson : Bytes → Bool
  canonicalize : Bytes → Option Bytes
  verifyEd25519 : Bytes → Bytes → String → Bool
  verifyEcdsaP256 : Bytes → Bytes → String → Bool
  parseResolved : Bytes → Option FleetResolved
  parseManifest : Bytes → Option RolloutManifest
  sha256Hex : Bytes → String

/-- `SignedSidecar`: what the gates read of an artifact, and how it is parsed. -/
class SignedSidecar (α : Type) where
  schemaVersion : α → Nat
  signedAt : α → Option Time
  parse : VerifyHooks → Bytes → Option α

instance : SignedSidecar FleetResolved where
  schemaVersion := (·.schemaVersion)
  signedAt := (·.fleetMeta.signedAt)
  parse := (·.parseResolved)

instance : SignedSidecar RolloutManifest where
  schemaVersion := (·.schemaVersion)
  signedAt := (·.manifestMeta.signedAt)
  parse := (·.parseManifest)

/-- `Verified`: an artifact that has passed the gates. -/
structure Verified (α : Type) where
  inner : α
  signedAt : Time

/-- `VerifyError`, less the malformed keys, which count as keys that do not fit. -/
inductive VerifyError where
  | parse
  | badSignature
  | notSigned
  | stale (signedAt now : Time) (window : Int)
  | futureDated (signedAt now : Time) (slackSecs : Int)
  | rejectedBeforeTimestamp (signedAt rejectBefore : Time)
  | schemaVersionUnsupported (version : Nat)
  | canonicalize
  | unsupportedAlgorithm (algorithm : String)
  | noTrustRoots
deriving DecidableEq, Repr

/-- `ACCEPTED_SCHEMA_VERSION`. -/
def acceptedSchemaVersion : Nat := 1

/-- `CLOCK_SKEW_SLACK_SECS`. -/
def clockSkewSlackSecs : Int := 60

/-- `chrono::Duration::seconds`. -/
def seconds (s : Int) : Int := s * 1000000000

/-- The key is of a supported algorithm. -/
def TrustedPubkey.supported (key : TrustedPubkey) : Bool :=
  key.algorithm = "ed25519" || key.algorithm = "ecdsa-p256"

/-- The signature fits the key; keys of other algorithms are skipped. -/
def TrustedPubkey.fits (hooks : VerifyHooks) (canonical signature : Bytes) (key : TrustedPubkey) :
    Bool :=
  if key.algorithm = "ed25519" then hooks.verifyEd25519 canonical signature key.publicB64
  else if key.algorithm = "ecdsa-p256" then
    hooks.verifyEcdsaP256 canonical signature key.publicB64
  else false

/-- `verify_signature_against_trust_roots`: the canonical bytes, if a key fits. -/
def verifySignatureAgainstTrustRoots (hooks : VerifyHooks) (signedBytes signature : Bytes)
    (trustedKeys : List TrustedPubkey) : Except VerifyError Bytes :=
  match trustedKeys with
  | [] => .error .noTrustRoots
  | first :: _ =>
      if hooks.isJson signedBytes = false then .error .parse
      else
        match hooks.canonicalize signedBytes with
        | none => .error .canonicalize
        | some canonical =>
            if trustedKeys.any (TrustedPubkey.fits hooks canonical signature) then .ok canonical
            else if trustedKeys.any TrustedPubkey.supported then .error .badSignature
            else .error (.unsupportedAlgorithm first.algorithm)

section Sidecar

variable {α : Type} [SignedSidecar α]

/-- `finish_sidecar_verification`. -/
def finishSidecarVerification (hooks : VerifyHooks) (canonical : Bytes) (now : Time) (window : Int)
    (rejectBefore : Option Time) : Except VerifyError (Verified α) :=
  match SignedSidecar.parse hooks canonical with
  | none => .error .parse
  | some (payload : α) =>
      if SignedSidecar.schemaVersion payload ≠ acceptedSchemaVersion then
        .error (.schemaVersionUnsupported (SignedSidecar.schemaVersion payload))
      else
        match SignedSidecar.signedAt payload with
        | none => .error .notSigned
        | some signedAt =>
            match rejectBefore.filter (signedAt < ·) with
            | some rb => .error (.rejectedBeforeTimestamp signedAt rb)
            | none =>
                if now - signedAt > window + seconds clockSkewSlackSecs then
                  .error (.stale signedAt now window)
                else if -(now - signedAt) > seconds clockSkewSlackSecs then
                  .error (.futureDated signedAt now clockSkewSlackSecs)
                else .ok ⟨payload, signedAt⟩

/-- `verify_signed_sidecar`. -/
def verifySignedSidecar (hooks : VerifyHooks) (signedBytes signature : Bytes)
    (trustedKeys : List TrustedPubkey) (now : Time) (window : Int) (rejectBefore : Option Time) :
    Except VerifyError (Verified α) :=
  (verifySignatureAgainstTrustRoots hooks signedBytes signature trustedKeys).bind
    (finishSidecarVerification hooks · now window rejectBefore)

end Sidecar

/-- `verify_artifact`: a verified fleet is normalized. -/
def verifyArtifact (hooks : VerifyHooks) (signedBytes signature : Bytes)
    (trustedKeys : List TrustedPubkey) (now : Time) (window : Int) (rejectBefore : Option Time) :
    Except VerifyError (Verified FleetResolved) :=
  (verifySignedSidecar hooks signedBytes signature trustedKeys now window rejectBefore).map
    fun verified => { verified with inner := normalizeRolloutPolicies verified.inner }

/-- `verify_rollout_manifest`. -/
def verifyRolloutManifest (hooks : VerifyHooks) (signedBytes signature : Bytes)
    (trustedKeys : List TrustedPubkey) (now : Time) (window : Int) (rejectBefore : Option Time) :
    Except VerifyError (Verified RolloutManifest) :=
  verifySignedSidecar hooks signedBytes signature trustedKeys now window rejectBefore

/-- `canonical_hash_from_bytes`. -/
def canonicalHashFromBytes (hooks : VerifyHooks) (bytes : Bytes) : Except VerifyError String :=
  match hooks.canonicalize bytes with
  | none => .error .canonicalize
  | some canonical => .ok (hooks.sha256Hex canonical)

end Nixfleet
