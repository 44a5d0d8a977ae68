import Nixfleet.Auth.Issuance

set_option autoImplicit false

/-!
# The enroll and the renew route

`enroll` is the sequence of its steps between two points where the handler waits: the replay
check, the allowlist and the token's window, the signature and the CSR, the binding to the
declared host key, the recording of the nonce, the signing. Each step reads the server's state
as it is when the step runs.
-/

namespace Nixfleet

/-- The status codes of refused requests. -/
inductive StatusCode where
  | badRequest
  | unauthorized
  | conflict
  | internalServerError
  | serviceUnavailable
deriving DecidableEq, Repr

structure EnrollRequest where
  token : BootstrapToken
  csrPem : String
deriving DecidableEq, Repr

structure RenewRequest where
  csrPem : String
deriving DecidableEq, Repr

/-- An entry of the signed allowlist. -/
structure BootstrapNonceEntry where
  nonce : String
  hostname : HostId
  expiresAt : Time
deriving DecidableEq, Repr

/-- A row of `token_replay`; SQLite's clock counts seconds. -/
structure TokenRow where
  hostname : HostId
  firstSeen : Int
deriving DecidableEq, Repr

/-- SQLite's `datetime`. -/
def sqliteSeconds (t : Time) : Int := t / 1000000000

/-- What the two routes read of the server's state. `trust` is the token check against the
trust file as it is. -/
structure AppState where
  db : Option (Table String TokenRow)
  allowedNonces : Table String BootstrapNonceEntry
  trust : BootstrapToken → Time → Except TrustVerifyError Unit
  verifiedFleet : Option FleetResolved
  caSigner : Option CaSigner
  agentCertValidity : Int
  agentCnSuffix : String

/-- The statements of the replay table that fail. -/
structure TokenFaults where
  tokenSeen : Bool
  recordTokenNonce : Bool
deriving DecidableEq, Repr

/-- `AllowedNoncesView::entry_is_live`. -/
def BootstrapNonceEntry.isLive (entry : BootstrapNonceEntry) (now : Time) : Bool :=
  entry.expiresAt ≥ now

/-- `prune_token_replay`. -/
def pruneTokenReplay (tokens : Table String TokenRow) (now : Time) (maxAgeHours : Int) :
    Table String TokenRow :=
  tokens.filterRows fun _ row => !(row.firstSeen < sqliteSeconds now - maxAgeHours * 3600)

/-! ## The steps of `enroll` -/

/-- The replay check. -/
def enrollSeen (st : AppState) (faults : TokenFaults) (req : EnrollRequest) :
    Except StatusCode Unit :=
  match st.db with
  | none => .error .serviceUnavailable
  | some tokens =>
      if faults.tokenSeen then .error .internalServerError
      else if (tokens.lookup req.token.claims.nonce).isSome then .error .conflict
      else .ok ()

/-- The allowlist, and the token's validity window. -/
def enrollAllowed (st : AppState) (req : EnrollRequest) (now : Time) : Except StatusCode Unit :=
  match st.allowedNonces.lookup req.token.claims.nonce with
  | none => .error .unauthorized
  | some entry =>
      if entry.hostname ≠ req.token.claims.hostname then .error .unauthorized
      else if !entry.isLive now then .error .unauthorized
      else if now < req.token.claims.issuedAt ∨ now ≥ req.token.claims.expiresAt then
        .error .unauthorized
      else .ok ()

/-- The token's signature, then the CSR against the claims; the CSR and its common name. -/
def enrollVerified (given : Given) (st : AppState) (req : EnrollRequest) (now : Time) :
    Except StatusCode (CsrParams × String) :=
  match st.trust req.token now with
  | .error .signatureMismatch => .error .unauthorized
  | .error _ => .error .internalServerError
  | .ok () =>
      match given.parseCsr req.csrPem with
      | none => .error .badRequest
      | some csr =>
          match commonNameOf csr.distinguishedName with
          | none => .error .badRequest
          | some csrCn =>
              if validateTokenClaims req.token.claims csrCn (given.fingerprint csr.publicKey) now
              then .ok (csr, csrCn)
              else .error .unauthorized

/-- The binding of the CSR's key to the key the fleet declares for the host. -/
def enrollBound (given : Given) (st : AppState) (csr : CsrParams) (csrCn : String) :
    Except StatusCode Unit :=
  match st.verifiedFleet with
  | none => .error .serviceUnavailable
  | some fleet =>
      match fleet.hosts.lookup csrCn with
      | none => .error .unauthorized
      | some hostDecl =>
          if csr.publicKey.length ≠ 32 then .error .badRequest
          else if !validateCsrAgainstFleetHost given csr.publicKey hostDecl.pubkey then
            .error .unauthorized
          else .ok ()

/-- `record_token_nonce`, a plain `INSERT`: the table afterwards. -/
def enrollRecorded (st : AppState) (faults : TokenFaults) (req : EnrollRequest) (now : Time) :
    Except StatusCode (Table String TokenRow) :=
  match st.db with
  | none => .error .serviceUnavailable
  | some tokens =>
      if faults.recordTokenNonce then .error .internalServerError
      else if (tokens.lookup req.token.claims.nonce).isSome then .error .conflict
      else
        .ok (tokens.insert req.token.claims.nonce
          ⟨req.token.claims.hostname, sqliteSeconds now⟩)

/-- The signing. -/
def enrollIssued (given : Given) (st : AppState) (csrPem : String) (now : Time) :
    Except StatusCode Cert :=
  match st.caSigner with
  | none => .error .internalServerError
  | some signer =>
      match issueCert given csrPem signer st.agentCertValidity now st.agentCnSuffix with
      | none => .error .badRequest
      | some cert => .ok cert

/-! ## The routes -/

/-- The steps of `enroll` before it records the nonce. -/
def enrollChecked (given : Given) (st : AppState) (faults : TokenFaults) (req : EnrollRequest)
    (now : Time) : Except StatusCode Unit := do
  enrollSeen st faults req
  enrollAllowed st req now
  let (csr, csrCn) ← enrollVerified given st req now
  enrollBound given st csr csrCn

/-- `enroll`, when nothing comes between its steps. A nonce stays recorded when the signing
fails. -/
def enroll (given : Given) (st : AppState) (faults : TokenFaults) (req : EnrollRequest)
    (now : Time) : Except StatusCode Cert × AppState :=
  match enrollChecked given st faults req now with
  | .error status => (.error status, st)
  | .ok () =>
      match enrollRecorded st faults req now with
      | .error status => (.error status, st)
      | .ok tokens => (enrollIssued given st req.csrPem now, { st with db := some tokens })

/-- `renew`. -/
def renew (given : Given) (st : AppState) (cn : String) (req : RenewRequest) (now : Time) :
    Except StatusCode Cert :=
  match given.parseCsr req.csrPem with
  | none => .error .badRequest
  | some csr =>
      if csr.publicKey.length ≠ 32 then .error .badRequest
      else
        match st.verifiedFleet with
        | none => .error .serviceUnavailable
        | some fleet =>
            match fleet.hosts.lookup (extractMachineId cn st.agentCnSuffix) with
            | none => .error .unauthorized
            | some hostDecl =>
                if !validateCsrAgainstFleetHost given csr.publicKey hostDecl.pubkey then
                  .error .unauthorized
                else enrollIssued given st req.csrPem now

/-! ## What the steps check -/

section Steps

variable {given : Given} {st : AppState} {faults : TokenFaults} {req : EnrollRequest} {now : Time}

theorem enrollSeen_eq_ok :
    enrollSeen st faults req = .ok () ↔
      ∃ tokens, st.db = some tokens ∧ faults.tokenSeen = false ∧
        tokens.lookup req.token.claims.nonce = none := by
  unfold enrollSeen
  cases st.db with
  | none => simp
  | some tokens =>
      cases faults.tokenSeen with
      | true => simp
      | false => cases hseen : tokens.lookup req.token.claims.nonce <;> simp [hseen]

theorem enrollAllowed_eq_ok :
    enrollAllowed st req now = .ok () ↔
      ∃ entry, st.allowedNonces.lookup req.token.claims.nonce = some entry ∧
        entry.hostname = req.token.claims.hostname ∧ entry.isLive now = true ∧
        req.token.claims.issuedAt ≤ now ∧ now < req.token.claims.expiresAt := by
  unfold enrollAllowed
  cases st.allowedNonces.lookup req.token.claims.nonce with
  | none => simp
  | some entry =>
      simp only [Option.some.injEq, exists_eq_left']
      by_cases hhost : entry.hostname ≠ req.token.claims.hostname
      · simp [hhost]
      · cases hlive : entry.isLive now with
        | false => simp [hhost]
        | true =>
            by_cases hwindow : now < req.token.claims.issuedAt ∨ now ≥ req.token.claims.expiresAt
            · simp only [hhost, hwindow, Bool.not_true, Bool.false_eq_true, if_false, if_true,
                reduceCtorEq, false_iff, not_and, not_lt, true_imp_iff]
              rintro - hissued
              exact hwindow.resolve_left (not_lt.mpr hissued)
            · rw [not_or, not_lt, ge_iff_le, not_le] at hwindow
              simp [not_not.mp hhost, not_lt.mpr hwindow.1, not_le.mpr hwindow.2, hwindow]

/-- The CSR is in the token's name, and has the token's key. -/
theorem enrollVerified_eq_ok_iff {csr : CsrParams} {csrCn : String} :
    enrollVerified given st req now = .ok (csr, csrCn) ↔
      st.trust req.token now = .ok () ∧ given.parseCsr req.csrPem = some csr ∧
        commonNameOf csr.distinguishedName = some csrCn ∧
        validateTokenClaims req.token.claims csrCn (given.fingerprint csr.publicKey) now =
          true := by
  unfold enrollVerified
  constructor
  · intro h
    split at h
    · cases h
    · cases h
    · rename_i htrust
      split at h
      · cases h
      · rename_i csr' hcsr
        split at h
        · cases h
        · rename_i csrCn' hcn
          split at h
          · rename_i hclaims
            cases h
            exact ⟨htrust, hcsr, hcn, hclaims⟩
          · cases h
  · rintro ⟨htrust, hcsr, hcn, hclaims⟩
    simp only [htrust, hcsr, hcn, hclaims, if_true]

/-- The fleet declares the CSR's key for the host. -/
theorem enrollBound_eq_ok_iff {csr : CsrParams} {csrCn : String} :
    enrollBound given st csr csrCn = .ok () ↔
      csr.publicKey.length = 32 ∧ ∃ fleet host, st.verifiedFleet = some fleet ∧
        fleet.hosts.lookup csrCn = some host ∧
        validateCsrAgainstFleetHost given csr.publicKey host.pubkey = true := by
  unfold enrollBound
  constructor
  · intro h
    split at h
    · cases h
    · rename_i fleet hfleet
      split at h
      · cases h
      · rename_i host hhost
        split at h
        · cases h
        · rename_i hlength
          split at h
          · cases h
          · rename_i hvalid
            rw [Bool.not_eq_true, Bool.not_eq_false'] at hvalid
            exact ⟨not_not.mp hlength, fleet, host, hfleet, hhost, hvalid⟩
  · rintro ⟨hlength, fleet, host, hfleet, hhost, hvalid⟩
    simp [hlength, hfleet, hhost, hvalid]

/-- The nonce of a token that has not been seen can be recorded. -/
theorem enrollRecorded_eq_ok (hseen : enrollSeen st faults req = .ok ()) :
    (∃ tokens, enrollRecorded st faults req now = .ok tokens) ↔
      faults.recordTokenNonce = false := by
  obtain ⟨tokens, hdb, -, hnone⟩ := enrollSeen_eq_ok.mp hseen
  unfold enrollRecorded
  cases hfails : faults.recordTokenNonce with
  | true => simp [hdb]
  | false => simp [hdb, hnone]

/-- The CA signs the certificate of the CSR. -/
theorem enrollIssued_eq_ok_iff {csr : CsrParams} {csrCn : String}
    (hcsr : given.parseCsr req.csrPem = some csr)
    (hcn : commonNameOf csr.distinguishedName = some csrCn) :
    (∃ cert, enrollIssued given st req.csrPem now = .ok cert) ↔
      ∃ signer, st.caSigner = some signer ∧ signer.makeKeyPair = true ∧
        let cert := certFor csr csrCn st.agentCertValidity now st.agentCnSuffix
        cert.subjectAltNames.all given.isDnsName = true ∧ signer.signs cert = true := by
  unfold enrollIssued issueCert
  cases st.caSigner with
  | none => simp
  | some signer =>
      simp only [Option.some.injEq, exists_eq_left', hcsr, hcn]
      cases signer.makeKeyPair with
      | false => simp
      | true =>
          cases (certFor csr csrCn st.agentCertValidity now st.agentCnSuffix).subjectAltNames.all
            given.isDnsName with
          | false => simp
          | true =>
              cases signer.signs
                (certFor csr csrCn st.agentCertValidity now st.agentCnSuffix) <;> simp

end Steps

end Nixfleet
