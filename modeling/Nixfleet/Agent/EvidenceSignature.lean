import Nixfleet.Agent.Evidence
import Nixfleet.Agent.TruncateReason

set_option autoImplicit false

/-!
# Signatures over more than the known fields

The collector signs the canonical form of the document, and the runner checks the signature over the
canonical form of its typed view of the document. So a signed document is rejected unless the view
is all of it (`evidenceRun_verifies_iff`): one further field, a value given as `null`, a map left
out or another spelling of the time, and the signature does not verify.
-/

namespace Nixfleet

/-! ## What is given -/

/-- The canonical form of a value, and the value up to its numbers from the canonical form. -/
structure EvidenceHooks.CanonicalAt (hooks : EvidenceHooks) (json : Json) : Prop where
  total : ∀ other, ∃ bytes, hooks.canonicalize other = .ok bytes
  determines : ∀ other, hooks.canonicalize other = hooks.canonicalize json →
    Json.UpToNumbers other json

/-- The signature is one of the canonical form of the document, and of no other message. -/
structure SignedBytes.Signs (signed : SignedBytes) (hooks : EvidenceHooks) (json : Json)
    (message : Bytes) : Prop where
  canonical : hooks.canonicalize json = .ok message
  verifies : hooks.verify signed.pubkey message signed.sig = true
  only : ∀ other, hooks.verify signed.pubkey other signed.sig = true → other = message

/-! ## Reasons -/

/-- What the runner says about a file it accepts is not that its signature is wrong. -/
theorem evidenceOutcome_failureReason (env : EvidenceEnv) (decl : EvidenceDecl)
    (file : EvidenceFile) :
    (evidenceOutcome env decl file).failureReason ≠
      some "evidence probe: signature verify failed" := by
  unfold evidenceOutcome
  dsimp only
  split
  · intro h
    have hreason := Option.some.inj h
    cases hframework : decl.framework with
    | none =>
        rw [hframework] at hreason
        exact absurd hreason (by decide)
    | some f =>
        rw [hframework] at hreason
        have hfront : "evidence probe: no".toList <+: (truncateReason
            ("evidence probe: no controls match framework '" ++ f ++ "'")).toList := by
          refine prefix_truncateReason ?_ (by decide)
          rw [String.append_assoc, String.toList_append]
          exact List.IsPrefix.trans (by decide) (List.prefix_append _ _)
        rw [hreason] at hfront
        exact absurd hfront (by decide)
  · split
    · simp
    · intro h
      -- the reason is too long
      have hlength := congrArg String.length (Option.some.inj h)
      have hend : ": at least one enforce-mode control failed".length = 42 := by decide
      have hsignature : "evidence probe: signature verify failed".length = 39 := by decide
      rw [String.length_append, hend, hsignature] at hlength
      omega

/-! ## Verification -/

/-- A probe that selects its controls in no way, or in two, is told so. -/
theorem checkSelection_reason {decl : EvidenceDecl} {reason : String}
    (h : checkSelection decl = .error reason) :
    truncateReason reason ≠ "evidence probe: signature verify failed" := by
  unfold checkSelection at h
  split at h
  · cases h
    decide
  · split at h
    · cases h
      decide
    · cases h

section Verification

variable {hooks : EvidenceHooks} {env : EvidenceEnv} {decl : EvidenceDecl} {signed : SignedBytes}
  {json : Json} {file : EvidenceFile} {message : Bytes}

/-- The view has the signed form iff the document is plain. -/
theorem canonicalize_view_iff (hsorted : json.Sorted)
    (hfile : EvidenceFile.ofJson hooks.deserializeTime json = some file)
    (hcanonical : hooks.CanonicalAt json) :
    hooks.canonicalize (file.toJson hooks.serializeTime) = hooks.canonicalize json ↔
      EvidenceFile.Plain hooks.serializeTime hooks.deserializeTime json := by
  constructor
  · intro h
    exact EvidenceFile.plain_of_upToNumbers hfile (hcanonical.determines _ h)
  · intro hplain
    rw [← EvidenceFile.toJson_of_plain hfile hsorted hplain]

/-- **When a signed file is not rejected.** Of a document with schema version 1 that the host signed
the runner does not report that its signature is wrong iff the document is plain, or the probe is
refused before anything is read. -/
theorem evidenceRun_verifies_iff (hread : readSigned hooks env decl = .ok signed)
    (hjson : hooks.jsonFromSlice signed.payload = .ok json) (hsorted : json.Sorted)
    (hfile : EvidenceFile.ofJson hooks.deserializeTime json = some file)
    (hversion : file.schemaVersion = schemaVersion) (hcanonical : hooks.CanonicalAt json)
    (hsigns : signed.Signs hooks json message) :
    (evidenceRun hooks env decl).failureReason ≠ some "evidence probe: signature verify failed" ↔
      checkSelection decl ≠ .ok () ∨
        EvidenceFile.Plain hooks.serializeTime hooks.deserializeTime json := by
  cases hselection : checkSelection decl with
  | error reason =>
      have hrun : evidenceRun hooks env decl = .fail env.now reason := by
        simp only [evidenceRun, verifiedEvidence, hselection, bind, Except.bind]
      rw [hrun]
      have hne : (RunnerOutcome.fail env.now reason).failureReason ≠
          some "evidence probe: signature verify failed" :=
        fun h => checkSelection_reason hselection (Option.some.inj h)
      exact iff_of_true hne (.inl (by simp))
  | ok =>
      obtain ⟨bytes, hbytes⟩ := hcanonical.total (file.toJson hooks.serializeTime)
      have hverified := verifiedEvidence_of_read hselection hread hjson hfile hbytes
      have hplain := canonicalize_view_iff hsorted hfile hcanonical
      rw [hbytes, hsigns.canonical, Except.ok.injEq] at hplain
      rw [← hplain]
      simp only [ne_eq, not_true_eq_false, false_or]
      constructor
      · intro hreason
        by_contra hother
        -- another message has not the signature
        have hrejects : ¬ hooks.verify signed.pubkey bytes signed.sig = true :=
          fun hverify => hother (hsigns.only bytes hverify)
        rw [if_pos hrejects] at hverified
        rw [evidenceRun, hverified] at hreason
        have hshort : truncateReason "evidence probe: signature verify failed" =
            "evidence probe: signature verify failed" := by decide
        exact hreason (congrArg some hshort)
      · rintro rfl
        rw [if_neg (not_not.mpr hsigns.verifies), if_neg (not_not.mpr hversion)] at hverified
        rw [evidenceRun, hverified]
        exact evidenceOutcome_failureReason env decl file

end Verification

/-! ## A further field -/

theorem knownFieldsText_ne : knownFieldsText ≠ furtherFieldText := by decide +kernel

/-- The canonical form of the first file is that of no other value. -/
theorem canonicalAt_knownFields : webHooks.CanonicalAt knownFields where
  total := by
    intro other
    unfold webHooks
    dsimp only
    split <;> exact ⟨_, rfl⟩
  determines := by
    intro other h
    have hknown : webHooks.canonicalize knownFields = .ok knownFieldsText := rfl
    have hcontrol : Json.UpToNumbers failedControl failedControl :=
      .obj rfl (.cons (.str _) (.cons (.obj rfl (.cons (.arr (.cons (.str _) .nil)) .nil))
        (.cons (.bool _) .nil)))
    rw [hknown] at h
    unfold webHooks at h
    dsimp only at h
    split at h
    · exact .obj rfl (.cons (.str _) (.cons (.arr (.cons hcontrol .nil))
        (.cons (.str _) (.cons (.num 1 1) .nil))))
    · exact absurd (Except.ok.inj h).symm knownFieldsText_ne
    · exact absurd (Except.ok.inj h) (by decide +kernel)

theorem sorted_knownFields : knownFields.Sorted := by
  have harticles : (Json.obj [("nis2", .arr [.str "21.i"])]).Sorted :=
    .obj (by decide) (by simp [Json.Sorted.arr, Json.Sorted.str])
  have hcontrol : failedControl.Sorted :=
    .obj (by decide) (by simp [harticles, Json.Sorted.str, Json.Sorted.bool])
  exact .obj (by decide)
    (by simp [Json.Sorted.arr, hcontrol, Json.Sorted.str, Json.Sorted.num])

theorem signs_knownFields :
    SignedBytes.Signs ⟨knownFieldsText, webPubkey, knownFieldsSig⟩ webHooks knownFields
      knownFieldsText where
  canonical := rfl
  verifies := by simp [webHooks]
  only := by
    intro other h
    have hsig : knownFieldsSig ≠ furtherFieldSig := by decide
    simpa [webHooks, hsig] using h

/-- The file with the known fields is accepted iff it is plain, as it is. -/
theorem evidenceRun_knownFields_iff :
    (evidenceRun webHooks (webEnv knownFieldsText knownFieldsSigB64)
        (nis2Decl "enforce")).failureReason ≠ some "evidence probe: signature verify failed" ↔
      checkSelection (nis2Decl "enforce") ≠ .ok () ∨
        EvidenceFile.Plain webHooks.serializeTime webHooks.deserializeTime knownFields := by
  have hjson : webHooks.jsonFromSlice knownFieldsText = .ok knownFields := by simp [webHooks]
  have hfile : EvidenceFile.ofJson webHooks.deserializeTime knownFields = some webFile := rfl
  exact evidenceRun_verifies_iff (readSigned_knownFields "enforce") hjson sorted_knownFields hfile
    rfl canonicalAt_knownFields signs_knownFields

/-- A file that the host signed, with one further field, is said to have a wrong signature. -/
theorem evidenceRun_furtherField :
    let env := webEnv furtherFieldText furtherFieldSigB64
    let signed : SignedBytes := ⟨furtherFieldText, webPubkey, furtherFieldSig⟩
    readSigned webHooks env (nis2Decl "enforce") = .ok signed ∧
      webHooks.jsonFromSlice signed.payload = .ok furtherField ∧
      EvidenceFile.ofJson webHooks.deserializeTime furtherField = some webFile ∧
      webFile.schemaVersion = schemaVersion ∧
      webHooks.canonicalize furtherField = .ok furtherFieldText ∧
      webHooks.verify signed.pubkey furtherFieldText signed.sig = true ∧
      (evidenceRun webHooks env (nis2Decl "enforce")).failureReason =
        some "evidence probe: signature verify failed" := by
  intro env signed
  have hread : readSigned webHooks env (nis2Decl "enforce") = .ok signed :=
    readSigned_webEnv "enforce" (by decide +kernel) rfl
  have hjson : webHooks.jsonFromSlice signed.payload = .ok furtherField := by
    simp [webHooks, signed, knownFieldsText_ne.symm]
  have hfile : EvidenceFile.ofJson webHooks.deserializeTime furtherField = some webFile := rfl
  have hview : webHooks.canonicalize (webFile.toJson webHooks.serializeTime) =
      .ok knownFieldsText := rfl
  have hrejects : ¬ webHooks.verify signed.pubkey knownFieldsText signed.sig = true := by
    have hsig : furtherFieldSig ≠ knownFieldsSig := by decide
    simp [webHooks, signed, hsig, knownFieldsText_ne]
  refine ⟨hread, hjson, hfile, rfl, rfl, by simp [webHooks, signed], ?_⟩
  rw [evidenceRun, verifiedEvidence_of_read rfl hread hjson hfile hview, if_pos hrejects]
  decide

end Nixfleet
