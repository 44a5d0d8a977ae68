import Nixfleet.Lib.Except
import Nixfleet.Reconciler.Manifest
import Nixfleet.Reconciler.Verify

set_option autoImplicit false

/-!
# What a signed artifact is accepted for

`Acceptable` lists the conditions of the gates with no order and no error: some trusted key of a
supported algorithm fits, the schema is known, and the signing time is within its bounds.
`verifySignedSidecarStd` is the call with the freshness window as its callers give it, an
unsigned length of time, which the library's signed one may not be able to hold: the call then
panics. Where the window can be held, the gates accept exactly what is acceptable
(`verifySignedSidecar_accepts_iff`).
-/

namespace Nixfleet

/-- The largest length of time that `chrono::TimeDelta` holds, in nanoseconds: `i64::MAX`
milliseconds. -/
def timeDeltaMax : Int := 9223372036854775807 * 1000000

/-- `TimeDelta::from_std`; a `std::time::Duration` is a number of nanoseconds. -/
def timeDeltaFromStd (duration : Nat) : Option Int :=
  if (duration : Int) ≤ timeDeltaMax then some duration else none

/-- `TimeDelta::checked_add`. -/
def timeDeltaAdd (a b : Int) : Option Int :=
  if -timeDeltaMax ≤ a + b ∧ a + b ≤ timeDeltaMax then some (a + b) else none

section Sidecar

variable {α : Type} [SignedSidecar α]

/-- `finish_sidecar_verification` with its window; `none` when it panics: the window is converted,
and the slack added, once the checks before have passed. -/
def finishSidecarVerificationStd (hooks : VerifyHooks) (canonical : Bytes) (now : Time)
    (freshnessWindow : Nat) (rejectBefore : Option Time) :
    Option (Except VerifyError (Verified α)) :=
  match SignedSidecar.parse hooks canonical with
  | none => some (.error .parse)
  | some (payload : α) =>
      if SignedSidecar.schemaVersion payload ≠ acceptedSchemaVersion then
        some (.error (.schemaVersionUnsupported (SignedSidecar.schemaVersion payload)))
      else
        match SignedSidecar.signedAt payload with
        | none => some (.error .notSigned)
        | some signedAt =>
            match rejectBefore.filter (signedAt < ·) with
            | some rb => some (.error (.rejectedBeforeTimestamp signedAt rb))
            | none => do
                let window ← timeDeltaFromStd freshnessWindow
                let effectiveWindow ← timeDeltaAdd window (seconds clockSkewSlackSecs)
                if now - signedAt > effectiveWindow then
                  some (.error (.stale signedAt now window))
                else if -(now - signedAt) > seconds clockSkewSlackSecs then
                  some (.error (.futureDated signedAt now clockSkewSlackSecs))
                else some (.ok ⟨payload, signedAt⟩)

/-- `verify_signed_sidecar` with its window; `none` when it panics. -/
def verifySignedSidecarStd (hooks : VerifyHooks) (signedBytes signature : Bytes)
    (trustedKeys : List TrustedPubkey) (now : Time) (freshnessWindow : Nat)
    (rejectBefore : Option Time) : Option (Except VerifyError (Verified α)) :=
  match verifySignatureAgainstTrustRoots hooks signedBytes signature trustedKeys with
  | .error e => some (.error e)
  | .ok canonical => finishSidecarVerificationStd hooks canonical now freshnessWindow rejectBefore

/-- The window, with the slack, is one the library can hold. -/
def WindowFits (freshnessWindow : Nat) : Prop :=
  freshnessWindow + seconds clockSkewSlackSecs ≤ timeDeltaMax

instance (freshnessWindow : Nat) : Decidable (WindowFits freshnessWindow) :=
  inferInstanceAs (Decidable (_ ≤ _))

/-- The canonical form of signed bytes that are JSON. -/
def VerifyHooks.canonical (hooks : VerifyHooks) (signedBytes : Bytes) : Option Bytes :=
  if hooks.isJson signedBytes then hooks.canonicalize signedBytes else none

/-- A trusted key of a supported algorithm fits the signature. -/
def SignedByTrusted (hooks : VerifyHooks) (canonical signature : Bytes)
    (trustedKeys : List TrustedPubkey) : Prop :=
  ∃ key ∈ trustedKeys, key.supported = true ∧ key.fits hooks canonical signature = true

/-- The conditions under which an artifact is accepted as `verified`. -/
structure Acceptable (hooks : VerifyHooks) (signedBytes signature : Bytes)
    (trustedKeys : List TrustedPubkey) (now : Time) (window : Int) (rejectBefore : Option Time)
    (verified : Verified α) : Prop where
  signed : ∃ canonical, hooks.canonical signedBytes = some canonical ∧
    SignedByTrusted hooks canonical signature trustedKeys ∧
    SignedSidecar.parse hooks canonical = some verified.inner
  schema : SignedSidecar.schemaVersion verified.inner = acceptedSchemaVersion
  signedAt : SignedSidecar.signedAt verified.inner = some verified.signedAt
  notRejected : ∀ rb ∈ rejectBefore, rb ≤ verified.signedAt
  notStale : now - verified.signedAt ≤ window + seconds clockSkewSlackSecs
  notFuture : -seconds clockSkewSlackSecs ≤ now - verified.signedAt

/-- The call returns an artifact. -/
def Accepts (α : Type) [SignedSidecar α] (hooks : VerifyHooks) (signedBytes signature : Bytes)
    (trustedKeys : List TrustedPubkey) (now : Time) (freshnessWindow : Nat)
    (rejectBefore : Option Time) : Prop :=
  ∃ verified : Verified α, verifySignedSidecarStd hooks signedBytes signature trustedKeys now
    freshnessWindow rejectBefore = some (.ok verified)

/-! ## The signature -/

/-- A key that fits is of a supported algorithm. -/
theorem supported_of_fits {hooks : VerifyHooks} {canonical signature : Bytes}
    {key : TrustedPubkey} (h : key.fits hooks canonical signature = true) :
    key.supported = true := by
  unfold TrustedPubkey.fits at h
  unfold TrustedPubkey.supported
  split at h
  · rename_i halg
    simp [halg]
  · split at h
    · rename_i halg
      simp [halg]
    · cases h

/-- **The loop over the keys.** It returns the canonical bytes iff some key fits: the keys that it
skips or that do not fit never end it. -/
theorem verifySignature_eq_ok {hooks : VerifyHooks} {signedBytes signature canonical : Bytes}
    {trustedKeys : List TrustedPubkey} :
    verifySignatureAgainstTrustRoots hooks signedBytes signature trustedKeys = .ok canonical ↔
      hooks.canonical signedBytes = some canonical ∧
        SignedByTrusted hooks canonical signature trustedKeys := by
  have hany : ∀ canonical, trustedKeys.any (TrustedPubkey.fits hooks canonical signature) = true ↔
      SignedByTrusted hooks canonical signature trustedKeys := by
    intro canonical
    simp only [List.any_eq_true, SignedByTrusted]
    refine exists_congr fun key => and_congr_right fun _ => ?_
    exact ⟨fun hfits => ⟨supported_of_fits hfits, hfits⟩, And.right⟩
  unfold verifySignatureAgainstTrustRoots VerifyHooks.canonical
  cases hkeys : trustedKeys with
  | nil => simp [SignedByTrusted]
  | cons first rest =>
      rw [hkeys] at hany
      cases hjson : hooks.isJson signedBytes with
      | false => simp
      | true =>
          cases hcanonical : hooks.canonicalize signedBytes with
          | none => simp
          | some bytes =>
              simp only [Bool.true_eq_false, if_false, if_true, Option.some.injEq]
              split
              · rename_i hfits
                rw [Except.ok.injEq]
                constructor
                · rintro rfl
                  exact ⟨rfl, (hany bytes).mp hfits⟩
                · exact fun h => h.1
              · rename_i hfits
                have hnot : bytes = canonical →
                    ¬ SignedByTrusted hooks canonical signature (first :: rest) := by
                  rintro rfl hsigned
                  exact hfits ((hany bytes).mpr hsigned)
                split
                · simpa using hnot
                · simpa using hnot

/-- More keys, in any order, keep the signature good. -/
theorem SignedByTrusted.mono {hooks : VerifyHooks} {canonical signature : Bytes}
    {keys keys' : List TrustedPubkey} (hsub : keys ⊆ keys')
    (h : SignedByTrusted hooks canonical signature keys) :
    SignedByTrusted hooks canonical signature keys' := by
  obtain ⟨key, hmem, hkey⟩ := h
  exact ⟨key, hsub hmem, hkey⟩

/-! ## The window -/

/-- A window that fits is converted, and takes the slack. -/
theorem WindowFits.converts {freshnessWindow : Nat} (h : WindowFits freshnessWindow) {β : Type}
    (f : Int → Int → Option β) :
    (do
      let window ← timeDeltaFromStd freshnessWindow
      let effectiveWindow ← timeDeltaAdd window (seconds clockSkewSlackSecs)
      f window effectiveWindow) =
      f freshnessWindow (freshnessWindow + seconds clockSkewSlackSecs) := by
  have hfits : freshnessWindow + seconds clockSkewSlackSecs ≤ timeDeltaMax := h
  have hslack : 0 ≤ seconds clockSkewSlackSecs := by decide
  have hmax : 0 ≤ timeDeltaMax := by decide
  have hstd : timeDeltaFromStd freshnessWindow = some (freshnessWindow : Int) :=
    if_pos (by omega)
  have hadd : timeDeltaAdd freshnessWindow (seconds clockSkewSlackSecs) =
      some (freshnessWindow + seconds clockSkewSlackSecs) := if_pos ⟨by omega, hfits⟩
  rw [hstd, Option.bind_eq_bind, Option.bind_some, hadd, Option.bind_some]

/-- With a window that fits the checks after the signature do not panic. -/
theorem finishSidecarVerificationStd_of_fits {hooks : VerifyHooks} {canonical : Bytes} {now : Time}
    {freshnessWindow : Nat} {rejectBefore : Option Time} (hfits : WindowFits freshnessWindow) :
    finishSidecarVerificationStd (α := α) hooks canonical now freshnessWindow rejectBefore =
      some (finishSidecarVerification hooks canonical now freshnessWindow rejectBefore) := by
  unfold finishSidecarVerificationStd finishSidecarVerification
  cases (SignedSidecar.parse hooks canonical : Option α) with
  | none => rfl
  | some payload =>
      simp only [hfits.converts]
      by_cases hschema : SignedSidecar.schemaVersion payload ≠ acceptedSchemaVersion
      · rw [if_pos hschema, if_pos hschema]
      · rw [if_neg hschema, if_neg hschema]
        cases SignedSidecar.signedAt payload with
        | none => rfl
        | some signedAt =>
            simp only
            cases rejectBefore.filter (signedAt < ·) with
            | some rb => rfl
            | none => simp only [apply_ite some]

/-- With a window that fits the call is the one with a signed window. -/
theorem verifySignedSidecarStd_of_fits {hooks : VerifyHooks} {signedBytes signature : Bytes}
    {trustedKeys : List TrustedPubkey} {now : Time} {freshnessWindow : Nat}
    {rejectBefore : Option Time} (hfits : WindowFits freshnessWindow) :
    verifySignedSidecarStd (α := α) hooks signedBytes signature trustedKeys now freshnessWindow
        rejectBefore =
      some (verifySignedSidecar hooks signedBytes signature trustedKeys now freshnessWindow
        rejectBefore) := by
  unfold verifySignedSidecarStd verifySignedSidecar
  cases verifySignatureAgainstTrustRoots hooks signedBytes signature trustedKeys with
  | error e => rfl
  | ok canonical => exact finishSidecarVerificationStd_of_fits hfits

/-! ## The gates -/

/-- No compromise switch is after the signing time. -/
theorem filter_rejectBefore_eq_none {rejectBefore : Option Time} {signedAt : Time} :
    rejectBefore.filter (signedAt < ·) = none ↔ ∀ rb ∈ rejectBefore, rb ≤ signedAt := by
  cases rejectBefore <;> simp [Option.filter]

/-- **The ordered checks after the signature.** They return the payload iff it is of the known
schema, signed, not before the compromise switch, not stale and not from the future. -/
theorem finishSidecarVerification_eq_ok {hooks : VerifyHooks} {canonical : Bytes} {now : Time}
    {window : Int} {rejectBefore : Option Time} {verified : Verified α} :
    finishSidecarVerification hooks canonical now window rejectBefore = .ok verified ↔
      SignedSidecar.parse hooks canonical = some verified.inner ∧
        SignedSidecar.schemaVersion verified.inner = acceptedSchemaVersion ∧
        SignedSidecar.signedAt verified.inner = some verified.signedAt ∧
        (∀ rb ∈ rejectBefore, rb ≤ verified.signedAt) ∧
        now - verified.signedAt ≤ window + seconds clockSkewSlackSecs ∧
        -seconds clockSkewSlackSecs ≤ now - verified.signedAt := by
  unfold finishSidecarVerification
  constructor
  · intro h
    split at h
    · cases h
    · rename_i payload hparse
      split at h
      · cases h
      · rename_i hschema
        split at h
        · cases h
        · rename_i signedAt hsigned
          split at h
          · cases h
          · rename_i hcut
            split at h
            · cases h
            · rename_i hstale
              split at h
              · cases h
              · rename_i hfuture
                cases h
                have hlate : -seconds clockSkewSlackSecs ≤ now - signedAt :=
                  Int.neg_le_of_neg_le (not_lt.mp hfuture)
                exact ⟨hparse, not_not.mp hschema, hsigned, filter_rejectBefore_eq_none.mp hcut,
                  not_lt.mp hstale, hlate⟩
  · rintro ⟨hparse, hschema, hsigned, hcut, hstale, hfuture⟩
    rw [hparse]
    simp only [hschema, ne_eq, not_true_eq_false, if_false, hsigned,
      filter_rejectBefore_eq_none.mpr hcut]
    have hlate : ¬ -(now - verified.signedAt) > seconds clockSkewSlackSecs :=
      not_lt.mpr (Int.neg_le_of_neg_le hfuture)
    rw [if_neg (not_lt.mpr hstale), if_neg hlate]

/-- **The gates with a signed window.** -/
theorem verifySignedSidecar_eq_ok {hooks : VerifyHooks} {signedBytes signature : Bytes}
    {trustedKeys : List TrustedPubkey} {now : Time} {window : Int} {rejectBefore : Option Time}
    {verified : Verified α} :
    verifySignedSidecar hooks signedBytes signature trustedKeys now window rejectBefore =
        .ok verified ↔
      Acceptable hooks signedBytes signature trustedKeys now window rejectBefore verified := by
  have hsteps : verifySignedSidecar hooks signedBytes signature trustedKeys now window
      rejectBefore = .ok verified ↔
        ∃ canonical, verifySignatureAgainstTrustRoots hooks signedBytes signature trustedKeys =
            .ok canonical ∧
          finishSidecarVerification hooks canonical now window rejectBefore = .ok verified :=
    Except.bind_eq_ok
  simp only [hsteps, verifySignature_eq_ok, finishSidecarVerification_eq_ok]
  constructor
  · rintro ⟨canonical, ⟨hcanonical, hkey⟩, hparse, hschema, hsigned, hcut, hstale, hfuture⟩
    exact ⟨⟨canonical, hcanonical, hkey, hparse⟩, hschema, hsigned, hcut, hstale, hfuture⟩
  · intro h
    obtain ⟨canonical, hcanonical, hkey, hparse⟩ := h.signed
    exact ⟨canonical, ⟨hcanonical, hkey⟩, hparse, h.schema, h.signedAt, h.notRejected, h.notStale,
      h.notFuture⟩

/-- More keys, in any order, keep an artifact acceptable. -/
theorem Acceptable.mono {hooks : VerifyHooks} {signedBytes signature : Bytes}
    {keys keys' : List TrustedPubkey} {now : Time} {window : Int} {rejectBefore : Option Time}
    {verified : Verified α} (hsub : keys ⊆ keys')
    (h : Acceptable hooks signedBytes signature keys now window rejectBefore verified) :
    Acceptable hooks signedBytes signature keys' now window rejectBefore verified := by
  obtain ⟨canonical, hcanonical, hkey, hparse⟩ := h.signed
  exact { h with signed := ⟨canonical, hcanonical, hkey.mono hsub, hparse⟩ }

/-- **Acceptance.** With a window that fits the call returns `verified` iff it is acceptable; so
more keys never reject an artifact, and their order does not matter. -/
theorem verifySignedSidecar_accepts_iff (hooks : VerifyHooks) (signedBytes signature : Bytes)
    (trustedKeys : List TrustedPubkey) (now : Time) (freshnessWindow : Nat)
    (rejectBefore : Option Time) (hfits : WindowFits freshnessWindow) :
    (∀ verified : Verified α,
      verifySignedSidecarStd hooks signedBytes signature trustedKeys now freshnessWindow
          rejectBefore = some (.ok verified) ↔
        Acceptable hooks signedBytes signature trustedKeys now freshnessWindow rejectBefore
          verified) ∧
      (∀ keys, trustedKeys.Perm keys →
        (Accepts α hooks signedBytes signature trustedKeys now freshnessWindow rejectBefore ↔
          Accepts α hooks signedBytes signature keys now freshnessWindow rejectBefore)) ∧
      ∀ keys, trustedKeys ⊆ keys →
        Accepts α hooks signedBytes signature trustedKeys now freshnessWindow rejectBefore →
          Accepts α hooks signedBytes signature keys now freshnessWindow rejectBefore := by
  have hiff : ∀ keys (verified : Verified α),
      verifySignedSidecarStd hooks signedBytes signature keys now freshnessWindow rejectBefore =
          some (.ok verified) ↔
        Acceptable hooks signedBytes signature keys now freshnessWindow rejectBefore verified := by
    intro keys verified
    rw [verifySignedSidecarStd_of_fits hfits, Option.some.injEq, verifySignedSidecar_eq_ok]
  have hmono : ∀ keys keys', keys ⊆ keys' →
      Accepts α hooks signedBytes signature keys now freshnessWindow rejectBefore →
        Accepts α hooks signedBytes signature keys' now freshnessWindow rejectBefore := by
    rintro keys keys' hsub ⟨verified, hverified⟩
    exact ⟨verified, (hiff keys' verified).mpr (((hiff keys verified).mp hverified).mono hsub)⟩
  refine ⟨hiff trustedKeys, fun keys hperm => ⟨?_, ?_⟩, fun keys hsub => hmono _ _ hsub⟩
  · exact hmono _ _ hperm.subset
  · exact hmono _ _ hperm.symm.subset

end Sidecar

/-! ## A manifest and its keys -/

/-- A manifest without hosts, signed at time `0`. -/
def bareManifest : RolloutManifest where
  schemaVersion := 1
  displayName := "stable@c1"
  channel := "stable"
  channelRef := "c1"
  fleetResolvedHash := "h1"
  hostSet := []
  disruptionBudgets := []
  manifestMeta := ⟨1, some 0, some "c1", some "ed25519"⟩

/-- The bytes `[1]` are the manifest, and sign themselves under the key `key`. -/
def bareHooks : VerifyHooks where
  isJson := fun _ => true
  canonicalize := some
  verifyEd25519 := fun canonical signature key => signature = canonical && key = "key"
  verifyEcdsaP256 := fun _ _ _ => false
  parseResolved := fun _ => none
  parseManifest := fun bytes => if bytes = [1] then some bareManifest else none
  sha256Hex := fun _ => "h1"

/-- Keys of which only the last fits: the first is of no supported algorithm. -/
def bareKeys : List TrustedPubkey := [⟨"rsa", "key"⟩, ⟨"ed25519", "other"⟩, ⟨"ed25519", "key"⟩]

/-- At its signing time the manifest is acceptable for any window. -/
theorem bare_acceptable (window : Nat) :
    Acceptable bareHooks [1] [1] bareKeys 0 window none ⟨bareManifest, 0⟩ where
  signed := ⟨[1], rfl, ⟨⟨"ed25519", "key"⟩, by decide, by decide, by decide⟩, rfl⟩
  schema := rfl
  signedAt := rfl
  notRejected := by simp
  notStale := by
    have hslack : 0 ≤ seconds clockSkewSlackSecs := by decide
    exact Int.add_nonneg (Int.natCast_nonneg window) hslack
  notFuture := by decide

/-- With a window of an hour the manifest is accepted, in whatever order the keys are given. -/
theorem hourWindow_accepts :
    Accepts RolloutManifest bareHooks [1] [1] bareKeys.reverse 0 3600000000000 none := by
  have haccepts := verifySignedSidecar_accepts_iff (α := RolloutManifest) bareHooks [1] [1] bareKeys
    0 3600000000000 none (by decide)
  exact (haccepts.2.1 bareKeys.reverse (List.reverse_perm bareKeys).symm).mp
    ⟨⟨bareManifest, 0⟩, (haccepts.1 _).mpr (bare_acceptable _)⟩

/-- With a window of `10 ^ 16` seconds, which a `std::time::Duration` holds, the call panics on an
acceptable manifest. -/
theorem longWindow_not_accepts :
    ¬ (Accepts RolloutManifest bareHooks [1] [1] bareKeys 0 10000000000000000000000000 none ↔
      ∃ verified : Verified RolloutManifest, Acceptable bareHooks [1] [1] bareKeys 0
        (10000000000000000000000000 : Nat) none verified) := by
  intro hiff
  obtain ⟨verified, hverified⟩ := hiff.mpr ⟨⟨bareManifest, 0⟩, bare_acceptable _⟩
  have hpanics : verifySignedSidecarStd (α := RolloutManifest) bareHooks [1] [1] bareKeys 0
      10000000000000000000000000 none = none := by decide
  rw [hpanics] at hverified
  cases hverified

end Nixfleet
