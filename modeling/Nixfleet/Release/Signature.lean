import Nixfleet.Lib.Except
import Nixfleet.Release.Run

set_option autoImplicit false

/-!
# The published signature

A release may keep the signature on disk when the closure hashes are unchanged, but the commit,
the policies, the waves and everything else it then stamps and writes may have changed. The
kept signature fits exactly when the bytes written are the bytes on disk, which is what the
other artifacts of a release check before they reuse a signature.
-/

namespace Nixfleet

/-- The signature next to an artifact is one that the hook produced for the artifact. -/
def SignatureFits (hooks : ReleaseHooks) (dir : ReleaseDir) (artifactName : String) : Prop :=
  ∀ artifact sig, dir.lookup artifactName = some artifact →
    dir.lookup (artifactName ++ ".sig") = some sig → sign hooks artifact = .ok sig

/-- If the signature on disk is to be reused, the bytes on disk are the ones to be written. -/
def ReuseFits (hooks : ReleaseHooks) (config : ReleaseConfig) (dir : ReleaseDir)
    (input : ReleaseInput) : Prop :=
  let resolved := injectClosureHashes input.resolved input.hashes
  ∀ signedAt, preservedSignedAt hooks config dir resolved = .ok (some signedAt) →
    (dir.lookup (fleetArtifact ++ ".sig")).isSome = true →
      hooks.canonicalizeResolved
        (stampMeta resolved signedAt input.currentCommit config.signatureAlgorithm) =
        dir.lookup fleetArtifact

/-- The hook gives two byte strings different signatures. -/
def SignsInjectively (hooks : ReleaseHooks) : Prop :=
  ∀ a b sig, sign hooks a = .ok sig → sign hooks b = .ok sig → a = b

section Files

variable {hooks : ReleaseHooks} {dir dir' : ReleaseDir} {name : String} {canonical sig : Bytes}

theorem sig_ne (name : String) : name ++ ".sig" ≠ name := by
  intro h
  have hlen := congrArg (fun s : String => s.toList.length) h
  simp [String.toList_append] at hlen

theorem writeRelease_artifact :
    (writeRelease dir name canonical sig).lookup name = some canonical := by
  rw [writeRelease, Table.lookup_insert_eq, if_neg (sig_ne name).symm, Table.lookup_insert_eq,
    if_pos rfl]

theorem writeRelease_sig :
    (writeRelease dir name canonical sig).lookup (name ++ ".sig") = some sig := by
  rw [writeRelease, Table.lookup_insert_eq, if_pos rfl]

theorem writeRelease_other {path : String} (h : path ≠ name) (hsig : path ≠ name ++ ".sig") :
    (writeRelease dir name canonical sig).lookup path = dir.lookup path := by
  rw [writeRelease, Table.lookup_insert_eq, if_neg hsig, Table.lookup_insert_eq, if_neg h]

/-- What is written fits iff the hook signs the bytes so. -/
theorem signatureFits_writeRelease :
    SignatureFits hooks (writeRelease dir name canonical sig) name ↔
      sign hooks canonical = .ok sig := by
  constructor
  · intro h
    exact h _ _ writeRelease_artifact writeRelease_sig
  · intro h artifact sig' ha hs
    rw [writeRelease_artifact] at ha
    rw [writeRelease_sig] at hs
    cases ha
    cases hs
    exact h

/-- **The other artifacts always fit.** -/
theorem writeOther_fits {a : OtherArtifact} (hpre : SignatureFits hooks dir a.path)
    (h : writeOther hooks dir a = .ok dir') : SignatureFits hooks dir' a.path := by
  unfold writeOther at h
  split at h
  · cases h
  · rename_i sig hsig
    cases h
    rw [signatureFits_writeRelease]
    unfold otherSignature at hsig
    split at hsig
    · rename_i hbytes
      split at hsig
      · rename_i hdisk
        cases hsig
        exact hpre _ _ hbytes hdisk
      · exact hsig
    · exact hsig

/-- No other artifact is written in place of the fleet or its signature. -/
theorem otherArtifact_path (a : OtherArtifact) :
    (fleetArtifact ≠ a.path ∧ fleetArtifact ≠ a.path ++ ".sig") ∧
      fleetArtifact ++ ".sig" ≠ a.path ∧ fleetArtifact ++ ".sig" ≠ a.path ++ ".sig" := by
  -- the first letters differ
  have hhead : a.path.toList.head? ≠ some 'f' ∧ (a.path ++ ".sig").toList.head? ≠ some 'f' := by
    cases a with
    | revocations canonical => exact ⟨by simp [OtherArtifact.path], by simp [OtherArtifact.path]⟩
    | bootstrapNonces canonical =>
        exact ⟨by simp [OtherArtifact.path], by simp [OtherArtifact.path]⟩
    | manifest rolloutId canonical =>
        exact ⟨by simp [OtherArtifact.path], by simp [OtherArtifact.path]⟩
  have hf : ∀ s : String, s.toList.head? = some 'f' → s ≠ a.path ∧ s ≠ a.path ++ ".sig" := by
    intro s hs
    constructor <;> rintro rfl
    · exact hhead.1 hs
    · exact hhead.2 hs
  exact ⟨hf _ rfl, hf _ rfl⟩

theorem foldlM_writeOther {others : List OtherArtifact}
    (h : others.foldlM (writeOther hooks) dir = .ok dir') :
    dir'.lookup fleetArtifact = dir.lookup fleetArtifact ∧
      dir'.lookup (fleetArtifact ++ ".sig") = dir.lookup (fleetArtifact ++ ".sig") := by
  induction others generalizing dir with
  | nil =>
      cases h
      exact ⟨rfl, rfl⟩
  | cons a rest ih =>
      rw [List.foldlM_cons, Except.bind_eq_ok] at h
      obtain ⟨dir₁, hdir₁, hrest⟩ := h
      obtain ⟨hart, hsig⟩ := ih hrest
      obtain ⟨⟨h1, h2⟩, h3, h4⟩ := otherArtifact_path a
      unfold writeOther at hdir₁
      split at hdir₁
      · cases hdir₁
      · cases hdir₁
        rw [hart, hsig, writeRelease_other h1 h2, writeRelease_other h3 h4]
        exact ⟨rfl, rfl⟩

end Files

section Run

variable {hooks : ReleaseHooks} {config : ReleaseConfig} {dir dir' : ReleaseDir}
  {input : ReleaseInput}

/-- The fleet is written with its canonical bytes, and the signature kept or made for them. -/
theorem writeFleet_eq_ok (h : writeFleet hooks config dir input = .ok dir') :
    ∃ preserved canonical sig,
      preservedSignedAt hooks config dir (injectClosureHashes input.resolved input.hashes) =
        .ok preserved ∧
      canonicalBytes hooks config input (injectClosureHashes input.resolved input.hashes)
        (preserved.getD input.now) = .ok canonical ∧
      signatureFor hooks dir preserved canonical = .ok sig ∧
      dir' = writeRelease dir fleetArtifact canonical sig := by
  simp only [writeFleet, Except.bind_eq_ok] at h
  obtain ⟨preserved, hp, canonical, hc, sig, hs, h⟩ := h
  refine ⟨preserved, canonical, sig, hp, hc, hs, ?_⟩
  split at h
  · obtain ⟨_, -, hdir⟩ := Except.bind_eq_ok.mp h
    exact (Except.ok.inj hdir).symm
  · exact (Except.ok.inj h).symm

/-- **What a successful run has written.** -/
theorem runRelease_eq_ok (h : runRelease hooks config dir input = .ok dir') :
    ∃ preserved canonical sig,
      preservedSignedAt hooks config dir (injectClosureHashes input.resolved input.hashes) =
        .ok preserved ∧
      canonicalBytes hooks config input (injectClosureHashes input.resolved input.hashes)
        (preserved.getD input.now) = .ok canonical ∧
      signatureFor hooks dir preserved canonical = .ok sig ∧
      dir'.lookup fleetArtifact = some canonical ∧
      dir'.lookup (fleetArtifact ++ ".sig") = some sig := by
  simp only [runRelease, Except.bind_eq_ok] at h
  obtain ⟨_, -, h⟩ := h
  split at h
  · cases h
  · obtain ⟨dir₁, hwrite, hothers⟩ := Except.bind_eq_ok.mp h
    obtain ⟨hart, hsig⟩ := foldlM_writeOther hothers
    obtain ⟨preserved, canonical, sig, hp, hc, hs, rfl⟩ := writeFleet_eq_ok hwrite
    exact ⟨preserved, canonical, sig, hp, hc, hs, hart.trans writeRelease_artifact,
      hsig.trans writeRelease_sig⟩

theorem canonicalBytes_eq_ok {resolved : FleetResolved} {signedAt : Time} {canonical : Bytes}
    (h : canonicalBytes hooks config input resolved signedAt = .ok canonical) :
    hooks.canonicalizeResolved
      (stampMeta resolved signedAt input.currentCommit config.signatureAlgorithm) =
      some canonical := by
  unfold canonicalBytes at h
  split at h
  · cases h
  · rename_i bytes hbytes
    cases h
    exact hbytes

/-- A signing time is kept only from an artifact on disk. -/
theorem preservedSignedAt_artifact {resolved : FleetResolved} {signedAt : Time}
    (h : preservedSignedAt hooks config dir resolved = .ok (some signedAt)) :
    ∃ artifact, dir.lookup fleetArtifact = some artifact := by
  unfold preservedSignedAt loadExistingSignedAtIfUnchanged at h
  split at h
  · split at h
    · cases h
    · rename_i raw hraw
      exact ⟨raw, hraw⟩
  · cases h

/-- The signature is the one on disk, with a kept signing time, or a fresh one. -/
theorem signatureFor_eq_ok {preserved : Option Time} {canonical sig : Bytes}
    (h : signatureFor hooks dir preserved canonical = .ok sig) :
    (∃ signedAt, preserved = some signedAt ∧ dir.lookup (fleetArtifact ++ ".sig") = some sig) ∨
      ((∀ signedAt, preserved = some signedAt →
          (dir.lookup (fleetArtifact ++ ".sig")).isSome = false) ∧
        sign hooks canonical = .ok sig) := by
  unfold signatureFor at h
  split at h
  · rename_i signedAt sig' hdisk
    cases h
    exact .inl ⟨signedAt, rfl, hdisk⟩
  · rename_i hnone
    refine .inr ⟨?_, h⟩
    rintro signedAt rfl
    cases hdisk : dir.lookup (fleetArtifact ++ ".sig") with
    | none => rfl
    | some sig' => exact absurd hdisk (hnone signedAt sig' rfl)

/-- **When the published signature fits the published bytes.** If the pair on disk fits, the
pair of a successful run fits when a reused signature is one for the bytes to be written; for a
hook that tells byte strings apart, only then. -/
theorem signatureFits_iff_reuseFits (hrun : runRelease hooks config dir input = .ok dir')
    (hpre : SignatureFits hooks dir fleetArtifact) :
    (ReuseFits hooks config dir input → SignatureFits hooks dir' fleetArtifact) ∧
      (SignsInjectively hooks →
        (SignatureFits hooks dir' fleetArtifact ↔ ReuseFits hooks config dir input)) := by
  obtain ⟨preserved, canonical, sig, hkept, hbytes, hsig, hart', hsig'⟩ := runRelease_eq_ok hrun
  have hcanonical := canonicalBytes_eq_ok hbytes
  have hfits : SignatureFits hooks dir' fleetArtifact ↔ sign hooks canonical = .ok sig := by
    constructor
    · intro h
      exact h _ _ hart' hsig'
    · intro h artifact sig₁ ha hs
      rw [hart'] at ha
      rw [hsig'] at hs
      cases ha
      cases hs
      exact h
  rw [hfits]
  rcases signatureFor_eq_ok hsig with ⟨signedAt, rfl, hdisk⟩ | ⟨hfresh, hsigned⟩
  · -- the signature on disk is kept: it is one for the bytes on disk
    obtain ⟨artifact, hartifact⟩ := preservedSignedAt_artifact hkept
    have hold : sign hooks artifact = .ok sig := hpre _ _ hartifact hdisk
    have hsame : ReuseFits hooks config dir input ↔ canonical = artifact := by
      constructor
      · intro hreuse
        have heq := hreuse signedAt hkept (by rw [hdisk]; rfl)
        rw [hartifact] at heq
        exact Option.some.inj (hcanonical.symm.trans heq)
      · rintro rfl signedAt' hkept' -
        rw [hkept] at hkept'
        cases hkept'
        exact hcanonical.trans hartifact.symm
    rw [hsame]
    refine ⟨?_, fun hinj => ⟨?_, ?_⟩⟩
    · rintro rfl
      exact hold
    · intro hnew
      exact hinj _ _ _ hnew hold
    · rintro rfl
      exact hold
  · -- the bytes are signed
    have hreuse : ReuseFits hooks config dir input := by
      intro signedAt hkept' hdisk
      rw [hkept] at hkept'
      cases hkept'
      rw [hfresh signedAt rfl] at hdisk
      cases hdisk
    exact ⟨fun _ => hsigned, fun _ => ⟨fun _ => hreuse, fun _ => hsigned⟩⟩

end Run

/-! ## A release of one host -/

def asciiBytes (s : String) : Bytes := s.toList.map fun c => UInt8.ofNat c.toNat

/-- The canonical bytes of the one-host fleet at a commit. -/
def oneHostBytes (commit : String) : Bytes :=
  asciiBytes ("\x7b\"channelEdges\":[],\"channels\":\x7b\x7d,\"disruptionBudgets\":[]," ++
    "\"edges\":[],\"hosts\":\x7b\"a\":\x7b\"channel\":\"stable\",\"closureHash\":\"new\"," ++
    "\"pubkey\":null,\"system\":\"x86_64-linux\",\"tags\":[]\x7d\x7d," ++
    "\"meta\":\x7b\"ciCommit\":\"") ++ asciiBytes commit ++
    asciiBytes ("\",\"schemaVersion\":1,\"signatureAlgorithm\":\"ed25519\"," ++
      "\"signedAt\":\"1970-01-01T00:00:00Z\"\x7d,\"rolloutPolicies\":\x7b\x7d," ++
      "\"schemaVersion\":1,\"waves\":\x7b\x7d\x7d")

/-- The fleet as evaluated: no closure hash, no signing time. -/
def oneHostFleet : FleetResolved where
  schemaVersion := 1
  hosts := (∅ : Table HostId Host).insert "a" ⟨"x86_64-linux", [], "stable", none, none⟩
  channels := ∅
  rolloutPolicies := ∅
  waves := ∅
  edges := []
  channelEdges := []
  disruptionBudgets := []
  fleetMeta := ⟨1, none, none, none⟩

/-- The fleet as released at a commit. -/
def oneHostRelease (commit : String) : FleetResolved :=
  stampMeta (injectClosureHashes oneHostFleet [("a", "new")]) 0 (some commit) "ed25519"

/-- A hook that keeps the bytes in its signature, with the canonical bytes of each commit. -/
def oneHostHooks (bytes : String → Bytes) : ReleaseHooks where
  signCmd canonical := some (0 :: canonical)
  canonicalizeResolved fleet := fleet.fleetMeta.ciCommit.map bytes
  parseResolved raw :=
    if raw = bytes "r1" then some (oneHostRelease "r1")
    else if raw = bytes "r2" then some (oneHostRelease "r2")
    else none

/-- The directory that a release of `r1` left. -/
def oneHostDir (bytes : String → Bytes) : ReleaseDir :=
  writeRelease ∅ fleetArtifact (bytes "r1") (0 :: bytes "r1")

def reuseConfig : ReleaseConfig := ⟨"ed25519", true, true⟩

/-- A later run at a commit whose closures are the same. -/
def oneHostInput (commit : String) : ReleaseInput where
  resolved := oneHostFleet
  hashes := [("a", "new")]
  currentCommit := some commit
  now := 60
  others := []

theorem oneHostBytes_ne : oneHostBytes "r2" ≠ oneHostBytes "r1" := by
  intro h
  have hcommit := List.append_cancel_left (List.append_cancel_right h)
  exact absurd hcommit (by decide)

section OneHost

variable {bytes : String → Bytes} {commit : String}

theorem sign_oneHost (canonical : Bytes) :
    sign (oneHostHooks bytes) canonical = .ok (0 :: canonical) := rfl

theorem oneHost_signsInjectively : SignsInjectively (oneHostHooks bytes) := by
  intro a b sig ha hb
  rw [sign_oneHost] at ha hb
  exact (List.cons.inj (Except.ok.inj (ha.trans hb.symm))).2

theorem oneHostDir_fits :
    SignatureFits (oneHostHooks bytes) (oneHostDir bytes) fleetArtifact :=
  signatureFits_writeRelease.mpr (sign_oneHost _)

/-- The closures are the ones on disk, so the signing time on disk is kept. -/
theorem oneHost_preserved :
    preservedSignedAt (oneHostHooks bytes) reuseConfig (oneHostDir bytes)
      (injectClosureHashes oneHostFleet [("a", "new")]) = .ok (some 0) := by
  have hhashes : closureHashesOf (injectClosureHashes oneHostFleet [("a", "new")]) =
      closureHashesOf (oneHostRelease "r1") := rfl
  simp only [preservedSignedAt, reuseConfig, if_true, loadExistingSignedAtIfUnchanged, oneHostDir,
    writeRelease_artifact]
  simp [oneHostHooks, hhashes]
  rfl

/-- The run at a commit writes its bytes with the signature on disk. -/
theorem oneHost_run
    (hparse : (oneHostHooks bytes).parseResolved (bytes commit) = some (oneHostRelease commit)) :
    runRelease (oneHostHooks bytes) reuseConfig (oneHostDir bytes) (oneHostInput commit) =
      .ok (writeRelease (oneHostDir bytes) fleetArtifact (bytes commit) (0 :: bytes "r1")) := by
  have hbytes : canonicalBytes (oneHostHooks bytes) reuseConfig (oneHostInput commit)
      (injectClosureHashes oneHostFleet [("a", "new")]) 0 = .ok (bytes commit) := rfl
  have hsig : signatureFor (oneHostHooks bytes) (oneHostDir bytes) (some 0) (bytes commit) =
      .ok (0 :: bytes "r1") := by
    simp only [signatureFor, oneHostDir, writeRelease_sig]
  have hsmoke : smokeVerify (oneHostHooks bytes) (bytes commit) (0 :: bytes "r1") = .ok () := by
    have hround : (oneHostHooks bytes).canonicalizeResolved (oneHostRelease commit) =
        some (bytes commit) := rfl
    simp [smokeVerify, hparse, hround]
  have hwrite : writeFleet (oneHostHooks bytes) reuseConfig (oneHostDir bytes)
      (oneHostInput commit) =
      .ok (writeRelease (oneHostDir bytes) fleetArtifact (bytes commit) (0 :: bytes "r1")) := by
    simp only [writeFleet, oneHostInput, oneHost_preserved, bind, Except.bind, Option.getD_some]
    rw [oneHostInput] at hbytes
    simp only [hbytes, hsig, hsmoke]
    rfl
  have hvalid : validateConfig reuseConfig = .ok () := rfl
  simp only [runRelease, hvalid, hwrite, bind, Except.bind]
  rfl

theorem oneHost_parse (hne : bytes "r2" ≠ bytes "r1") (h : commit = "r1" ∨ commit = "r2") :
    (oneHostHooks bytes).parseResolved (bytes commit) = some (oneHostRelease commit) := by
  rcases h with rfl | rfl
  · exact if_pos rfl
  · exact (if_neg hne).trans (if_pos rfl)

end OneHost

/-- A run again at the commit on disk. -/
theorem oneHost_reuseFits :
    let hooks := oneHostHooks oneHostBytes
    let dir := oneHostDir oneHostBytes
    SignatureFits hooks (writeRelease dir fleetArtifact (oneHostBytes "r1")
        (0 :: oneHostBytes "r1")) fleetArtifact ↔
      ReuseFits hooks reuseConfig dir (oneHostInput "r1") :=
  (signatureFits_iff_reuseFits (oneHost_run (oneHost_parse oneHostBytes_ne (.inl rfl)))
    oneHostDir_fits).2 oneHost_signsInjectively

/-- A run at a new commit publishes its bytes under the signature of the old ones. -/
theorem oneHost_signature_stale :
    ¬ ∀ (hooks : ReleaseHooks) (config : ReleaseConfig) (dir dir' : ReleaseDir)
      (input : ReleaseInput), runRelease hooks config dir input = .ok dir' →
        SignatureFits hooks dir fleetArtifact → SignatureFits hooks dir' fleetArtifact := by
  intro h
  have hfits := h _ _ _ _ _ (oneHost_run (oneHost_parse oneHostBytes_ne (.inr rfl)))
    oneHostDir_fits
  rw [signatureFits_writeRelease, sign_oneHost] at hfits
  exact oneHostBytes_ne (List.cons.inj (Except.ok.inj hfits)).2

end Nixfleet
