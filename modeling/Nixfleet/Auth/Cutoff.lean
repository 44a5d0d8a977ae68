import Nixfleet.Auth.Identity
import Nixfleet.Reconciler.Verify

set_option autoImplicit false

/-!
# The compromise switch and the enrollment tokens

The key slot of the organization's root has the field `rejectBefore`: what was signed before that
time counts for nothing, whichever key signed it. Every verifier has to read it. The token check
walks the slot's keys itself and never does, so a token from before the switch is refused only
where some other check of `enroll` refuses it. `Grantable` lists those checks, with no order and
no status, and `enroll_ok_iff` says that they are all there are.
-/

namespace Nixfleet

/-! ## The trust file -/

/-- `TrustConfig`, less the keys that sign no tokens. -/
structure TrustConfig where
  schemaVersion : Nat
  orgRootKey : Option KeySlot
deriving DecidableEq, Repr

/-- What reading the trust file gives. -/
inductive TrustFile where
  | unreadable
  | malformed
  | config (trust : TrustConfig)
deriving DecidableEq, Repr

/-- Third-party code: JSON with JCS, and the signature scheme, which also reads the key. -/
structure TokenHooks where
  canonicalClaims : TokenClaims → Option Bytes
  verifyEd25519 : (pubkey message signature : Bytes) → Bool

/-- `verify_token_signature`; every failure is one refusal to the caller. -/
def verifyTokenSignature (given : Given) (hooks : TokenHooks) (token : BootstrapToken)
    (orgRootPubkey : Bytes) : Bool :=
  token.version = 1 && orgRootPubkey.length = 32 &&
    match given.base64Decode token.signature with
    | none => false
    | some signature =>
        signature.length = 64 &&
          match hooks.canonicalClaims token.claims with
          | none => false
          | some canonical => hooks.verifyEd25519 orgRootPubkey canonical signature

/-- The candidate has signed the token; other algorithms and undecodable keys are skipped. -/
def TrustedPubkey.signsToken (given : Given) (hooks : TokenHooks) (token : BootstrapToken)
    (key : TrustedPubkey) : Bool :=
  key.algorithm = "ed25519" &&
    match given.base64Decode key.publicB64 with
    | none => false
    | some pubkeyBytes => verifyTokenSignature given hooks token pubkeyBytes

/-- `verify_bootstrap_token_against_trust`. -/
def verifyBootstrapTokenAgainstTrust (given : Given) (hooks : TokenHooks) (file : TrustFile)
    (token : BootstrapToken) (now : Time) : Except TrustVerifyError Unit :=
  match file with
  | .unreadable => .error .trustFileRead
  | .malformed => .error .trustFileParse
  | .config trust =>
      match trust.orgRootKey with
      | none => .error .noOrgRootKey
      | some orgRoot =>
          let candidates := orgRoot.activeKeysAt now
          if candidates.isEmpty then .error .noActiveKeys
          else if candidates.any (·.signsToken given hooks token) then .ok ()
          else .error .signatureMismatch

/-- The slot of the organization's root. -/
def TrustFile.orgRootKey : TrustFile → Option KeySlot
  | .config trust => trust.orgRootKey
  | _ => none

/-- The server with the trust file as it is. -/
def AppState.withTrust (st : AppState) (given : Given) (hooks : TokenHooks) (file : TrustFile) :
    AppState :=
  { st with trust := verifyBootstrapTokenAgainstTrust given hooks file }

/-! ## The switch -/

/-- The switch is set, to a time after the token was issued. -/
def TrustFile.Revoked (file : TrustFile) (token : BootstrapToken) : Prop :=
  ∃ slot, file.orgRootKey = some slot ∧ ∃ rb ∈ slot.rejectBefore, token.claims.issuedAt < rb

/-- A revoked token gets no certificate. -/
def CutoffHolds (given : Given) (hooks : TokenHooks) (file : TrustFile) (st : AppState)
    (faults : TokenFaults) (req : EnrollRequest) (now : Time) : Prop :=
  file.Revoked req.token →
    ∀ cert, (enroll given (st.withTrust given hooks file) faults req now).1 ≠ .ok cert

/-- The checks on the CSR: it is in the token's name and has the token's key, which is the one the
fleet declares for the host, and the CA signs it. -/
structure CsrGrantable (given : Given) (st : AppState) (req : EnrollRequest) (now : Time)
    (csr : CsrParams) : Prop where
  parses : given.parseCsr req.csrPem = some csr
  name : commonNameOf csr.distinguishedName = some req.token.claims.hostname
  key : given.fingerprint csr.publicKey = req.token.claims.expectedPubkeyFingerprint
  raw : csr.publicKey.length = 32
  declared : ∃ fleet host, st.verifiedFleet = some fleet ∧
    fleet.hosts.lookup req.token.claims.hostname = some host ∧
    validateCsrAgainstFleetHost given csr.publicKey host.pubkey = true
  signed : ∃ signer, st.caSigner = some signer ∧ signer.makeKeyPair = true ∧
    let cert := certFor csr req.token.claims.hostname st.agentCertValidity now st.agentCnSuffix
    cert.subjectAltNames.all given.isDnsName = true ∧ signer.signs cert = true

/-- All checks of `enroll`. -/
structure Grantable (given : Given) (hooks : TokenHooks) (file : TrustFile) (st : AppState)
    (faults : TokenFaults) (req : EnrollRequest) (now : Time) : Prop where
  unseen : ∃ tokens, st.db = some tokens ∧ tokens.lookup req.token.claims.nonce = none
  stored : faults.tokenSeen = false ∧ faults.recordTokenNonce = false
  allowed : ∃ entry, st.allowedNonces.lookup req.token.claims.nonce = some entry ∧
    entry.hostname = req.token.claims.hostname ∧ entry.isLive now = true
  issued : req.token.claims.issuedAt ≤ now
  unexpired : now < req.token.claims.expiresAt
  signed : ∃ slot, file.orgRootKey = some slot ∧
    ∃ key ∈ slot.activeKeysAt now, key.signsToken given hooks req.token = true
  csr : ∃ csr, CsrGrantable given st req now csr

/-! ## The checks, one by one -/

section Checks

variable {given : Given} {hooks : TokenHooks} {file : TrustFile} {st : AppState}
  {faults : TokenFaults} {req : EnrollRequest} {now : Time}

/-- The token check passes iff some candidate has signed the token. -/
theorem verifyBootstrapToken_eq_ok {token : BootstrapToken} :
    verifyBootstrapTokenAgainstTrust given hooks file token now = .ok () ↔
      ∃ slot, file.orgRootKey = some slot ∧
        ∃ key ∈ slot.activeKeysAt now, key.signsToken given hooks token = true := by
  cases file with
  | unreadable => simp [verifyBootstrapTokenAgainstTrust, TrustFile.orgRootKey]
  | malformed => simp [verifyBootstrapTokenAgainstTrust, TrustFile.orgRootKey]
  | config trust =>
      unfold verifyBootstrapTokenAgainstTrust TrustFile.orgRootKey
      cases hslot : trust.orgRootKey with
      | none => simp [hslot]
      | some slot =>
          simp only [hslot, Option.some.injEq, exists_eq_left']
          cases hkeys : slot.activeKeysAt now with
          | nil => simp
          | cons first rest =>
              rw [← List.any_eq_true, List.isEmpty_cons, if_neg Bool.false_ne_true]
              split
              · exact iff_of_true rfl ‹_›
              · exact iff_of_false (fun h => by cases h) ‹_›

/-- A request that gets a certificate has passed all steps. -/
theorem enroll_ok_iff_steps :
    (∃ cert, (enroll given st faults req now).1 = .ok cert) ↔
      enrollChecked given st faults req now = .ok () ∧
        (∃ tokens, enrollRecorded st faults req now = .ok tokens) ∧
        ∃ cert, enrollIssued given st req.csrPem now = .ok cert := by
  unfold enroll
  cases enrollChecked given st faults req now with
  | error status => simp
  | ok _ => cases enrollRecorded st faults req now <;> simp

/-- **Who gets a certificate.** The checks of the route are those of `Grantable`. -/
theorem enroll_ok_iff :
    (∃ cert, (enroll given (st.withTrust given hooks file) faults req now).1 = .ok cert) ↔
      Grantable given hooks file st faults req now := by
  rw [enroll_ok_iff_steps]
  constructor
  · rintro ⟨hchecked, hrecorded, hissued⟩
    obtain ⟨hseen, hallowed, csr, csrCn, hverified, hbound⟩ := enrollChecked_eq_ok hchecked
    obtain ⟨tokens, hdb, hstored, hnone⟩ := enrollSeen_eq_ok.mp hseen
    obtain ⟨entry, hentry, hhost, hlive, hissuedAt, hexpires⟩ := enrollAllowed_eq_ok.mp hallowed
    obtain ⟨htrust, hcsr, hcn, hclaims⟩ := enrollVerified_eq_ok_iff.mp hverified
    obtain ⟨hlength, hdeclared⟩ := enrollBound_eq_ok_iff.mp hbound
    simp only [validateTokenClaims, Bool.and_eq_true, decide_eq_true_eq] at hclaims
    obtain ⟨⟨-, rfl⟩, hfingerprint⟩ := hclaims
    exact {
      unseen := ⟨tokens, hdb, hnone⟩
      stored := ⟨hstored, (enrollRecorded_eq_ok hseen).mp hrecorded⟩
      allowed := ⟨entry, hentry, hhost, hlive⟩
      issued := hissuedAt
      unexpired := hexpires
      signed := verifyBootstrapToken_eq_ok.mp htrust
      csr := ⟨csr, hcsr, hcn, hfingerprint, hlength, hdeclared,
        (enrollIssued_eq_ok_iff hcsr hcn).mp hissued⟩ }
  · rintro ⟨⟨tokens, hdb, hnone⟩, hstored, ⟨entry, hentry, hhost, hlive⟩, hissuedAt, hexpires,
      hsigned, csr, hcsr⟩
    have hseen : enrollSeen (st.withTrust given hooks file) faults req = .ok () :=
      enrollSeen_eq_ok.mpr ⟨tokens, hdb, hstored.1, hnone⟩
    have hallowed : enrollAllowed (st.withTrust given hooks file) req now = .ok () :=
      enrollAllowed_eq_ok.mpr ⟨entry, hentry, hhost, hlive, hissuedAt, hexpires⟩
    have hclaims : validateTokenClaims req.token.claims req.token.claims.hostname
        (given.fingerprint csr.publicKey) now = true := by
      simp [validateTokenClaims, hcsr.key, not_lt.mpr hissuedAt, hexpires]
    have hverified : enrollVerified given (st.withTrust given hooks file) req now =
        .ok (csr, req.token.claims.hostname) :=
      enrollVerified_eq_ok_iff.mpr
        ⟨verifyBootstrapToken_eq_ok.mpr hsigned, hcsr.parses, hcsr.name, hclaims⟩
    have hbound : enrollBound given (st.withTrust given hooks file) csr
        req.token.claims.hostname = .ok () :=
      enrollBound_eq_ok_iff.mpr ⟨hcsr.raw, hcsr.declared⟩
    refine ⟨?_, (enrollRecorded_eq_ok hseen).mpr hstored.2,
      (enrollIssued_eq_ok_iff hcsr.parses hcsr.name).mpr hcsr.signed⟩
    simp only [enrollChecked, Except.bind_eq_ok]
    exact ⟨(), hseen, (), hallowed, _, hverified, hbound⟩

end Checks

/-- **When the switch covers enrollment.** The route refuses what the switch revokes iff there is
nothing to refuse, or some check that does not read the switch fails. -/
theorem cutoffHolds_iff (given : Given) (hooks : TokenHooks) (file : TrustFile) (st : AppState)
    (faults : TokenFaults) (req : EnrollRequest) (now : Time) :
    CutoffHolds given hooks file st faults req now ↔
      ¬ file.Revoked req.token ∨ ¬ Grantable given hooks file st faults req now := by
  rw [← not_and_or, ← enroll_ok_iff]
  constructor
  · rintro h ⟨hrevoked, cert, hcert⟩
    exact h hrevoked cert hcert
  · intro h hrevoked cert hcert
    exact h ⟨hrevoked, cert, hcert⟩

/-! ## A token from before the switch -/

/-- The root key and the token's signature, in base64. -/
def rootKeyText : String := "QkJCQkJCQkJCQkJCQkJCQkJCQkJCQkJCQkJCQkJCQkI="

def signatureText : String :=
  "Q0NDQ0NDQ0NDQ0NDQ0NDQ0NDQ0NDQ0NDQ0NDQ0NDQ0NDQ0NDQ0NDQ0NDQ0NDQ0NDQ0NDQ0NDQ0NDQ0NDQ0NDQw=="

/-- The root key, with the switch set to time `5`. -/
def cutoffTrust : TrustFile :=
  .config ⟨1, some ⟨some ⟨"ed25519", rootKeyText⟩, none, some 5, none, none⟩⟩

/-- An enrollment of `web-01` with a token from time `0`. -/
def cutoffEnroll : EnrollRequest :=
  { webEnroll with token := { webEnroll.token with signature := signatureText } }

/-- Base64 on the texts that occur. -/
def cutoffGiven : Given :=
  { webGiven with
    base64Decode := fun text =>
      if text = rootKeyText then some webKey
      else if text = signatureText then some (List.replicate 64 0x43)
      else webGiven.base64Decode text }

/-- The root key has signed the claims. -/
def cutoffHooks : TokenHooks where
  canonicalClaims := fun _ => some [1]
  verifyEd25519 := fun pubkey message signature =>
    pubkey = webKey && message = [1] && signature = List.replicate 64 0x43

set_option maxRecDepth 4000 in
/-- The token still gets its certificate at time `10`. -/
theorem cutoffEnroll_not_cutoffHolds :
    ¬ CutoffHolds cutoffGiven cutoffHooks cutoffTrust webState ⟨false, false⟩ cutoffEnroll 10 := by
  intro h
  refine h ⟨_, rfl, 5, rfl, by decide⟩ (webCert "web-01") ?_
  decide

end Nixfleet
