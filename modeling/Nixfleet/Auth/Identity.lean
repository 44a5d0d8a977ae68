import Nixfleet.Auth.Enrollment
import Nixfleet.Lib.Except
import Nixfleet.Reconciler.Manifest

set_option autoImplicit false

/-!
# The identity on an issued certificate

`enroll` compares the CSR's name with the token's hostname; `renew` compares the CSR's key with
the key of the caller, but the CSR's name with nothing. The certificate carries the machine id
in the CSR's name, so a renewed certificate is the caller's exactly when that is the caller's.
-/

namespace Nixfleet

/-- The fleet declares the key for the machine id. -/
def DeclaresKey (given : Given) (fleet : FleetResolved) (machineId : String) (key : PublicKey) :
    Prop :=
  ∃ host line, fleet.hosts.lookup machineId = some host ∧ host.pubkey = some line ∧
    ed25519PubkeyRawFromOpenssh given line = .ok key

/-- The machine id read from the certificate's name is the given identity, and the certified
key is the one the verified fleet declares for it. -/
def CertifiesIdentity (given : Given) (st : AppState) (identity : String) (cert : Cert) : Prop :=
  ∃ cn, commonNameOf cert.distinguishedName = some cn ∧
    extractMachineId cn st.agentCnSuffix = identity ∧
    ∃ fleet, st.verifiedFleet = some fleet ∧
      DeclaresKey given fleet (extractMachineId cn st.agentCnSuffix) cert.publicKey

theorem declaresKey_of_validate {given : Given} {fleet : FleetResolved} {machineId : String}
    {host : Host} {key : PublicKey} (hhost : fleet.hosts.lookup machineId = some host)
    (h : validateCsrAgainstFleetHost given key host.pubkey = true) :
    DeclaresKey given fleet machineId key := by
  unfold validateCsrAgainstFleetHost at h
  split at h
  · cases h
  · rename_i line hline
    split at h
    · cases h
    · rename_i declared hdeclared
      rw [decide_eq_true_eq] at h
      exact ⟨host, line, hhost, hline, h ▸ hdeclared⟩

section Routes

variable {given : Given} {st : AppState} {now : Time} {cert : Cert}

/-- The certificate of a CSR whose key is the one of a declared host certifies that host iff
the CSR's name is the host's. -/
theorem certifiesIdentity_certFor {csr : CsrParams} {csrCn machineId : String} {validity : Int}
    {fleet : FleetResolved} (hfleet : st.verifiedFleet = some fleet)
    (hkey : DeclaresKey given fleet machineId csr.publicKey) :
    CertifiesIdentity given st machineId (certFor csr csrCn validity now st.agentCnSuffix) ↔
      extractMachineId csrCn st.agentCnSuffix = machineId := by
  unfold CertifiesIdentity
  rw [commonNameOf_certFor]
  constructor
  · rintro ⟨cn, hcn, hid, -⟩
    rw [Option.some.injEq] at hcn
    subst hcn
    rwa [extractMachineId_canonicalAgentCn] at hid
  · rintro rfl
    refine ⟨_, rfl, extractMachineId_canonicalAgentCn _ _, fleet, hfleet, ?_⟩
    rw [extractMachineId_canonicalAgentCn]
    exact hkey

theorem enrollIssued_eq_ok {csrPem : String} (h : enrollIssued given st csrPem now = .ok cert) :
    ∃ csr csrCn, given.parseCsr csrPem = some csr ∧
      commonNameOf csr.distinguishedName = some csrCn ∧
      cert = certFor csr csrCn st.agentCertValidity now st.agentCnSuffix := by
  unfold enrollIssued at h
  split at h
  · cases h
  · split at h
    · cases h
    · rename_i hissue
      cases h
      exact issueCert_eq_some hissue

/-- A verified CSR is in the name of the token's host. -/
theorem enrollVerified_eq_ok {req : EnrollRequest} {csr : CsrParams} {csrCn : String}
    (h : enrollVerified given st req now = .ok (csr, csrCn)) :
    given.parseCsr req.csrPem = some csr ∧ commonNameOf csr.distinguishedName = some csrCn ∧
      csrCn = req.token.claims.hostname := by
  obtain ⟨-, hcsr, hcn, hclaims⟩ := enrollVerified_eq_ok_iff.mp h
  simp only [validateTokenClaims, Bool.and_eq_true, decide_eq_true_eq] at hclaims
  exact ⟨hcsr, hcn, hclaims.1.2⟩

theorem enrollBound_eq_ok {csr : CsrParams} {csrCn : String}
    (h : enrollBound given st csr csrCn = .ok ()) :
    ∃ fleet, st.verifiedFleet = some fleet ∧ DeclaresKey given fleet csrCn csr.publicKey := by
  obtain ⟨-, fleet, host, hfleet, hhost, hvalid⟩ := enrollBound_eq_ok_iff.mp h
  exact ⟨fleet, hfleet, declaresKey_of_validate hhost hvalid⟩

/-- A request that passes the checks has passed each of them. -/
theorem enrollChecked_eq_ok {faults : TokenFaults} {req : EnrollRequest}
    (h : enrollChecked given st faults req now = .ok ()) :
    enrollSeen st faults req = .ok () ∧ enrollAllowed st req now = .ok () ∧
      ∃ csr csrCn, enrollVerified given st req now = .ok (csr, csrCn) ∧
        enrollBound given st csr csrCn = .ok () := by
  simp only [enrollChecked, Except.bind_eq_ok] at h
  obtain ⟨_, hseen, _, hallowed, ⟨csr, csrCn⟩, hverified, hbound⟩ := h
  exact ⟨hseen, hallowed, csr, csrCn, hverified, hbound⟩

/-- What an accepted enrollment has checked: the CSR is in the token's name, and has the key
the fleet declares for that name. -/
theorem enroll_eq_ok {faults : TokenFaults} {req : EnrollRequest}
    (h : (enroll given st faults req now).1 = .ok cert) :
    ∃ csr fleet, st.verifiedFleet = some fleet ∧
      DeclaresKey given fleet req.token.claims.hostname csr.publicKey ∧
      cert = certFor csr req.token.claims.hostname st.agentCertValidity now st.agentCnSuffix := by
  unfold enroll at h
  split at h
  · cases h
  · rename_i hchecked
    split at h
    · cases h
    · obtain ⟨csr, csrCn, hcsr, hcn, rfl⟩ := enrollIssued_eq_ok h
      obtain ⟨-, -, csr', csrCn', hv, hbound⟩ := enrollChecked_eq_ok hchecked
      obtain ⟨hcsr', hcn', rfl⟩ := enrollVerified_eq_ok hv
      rw [hcsr] at hcsr'
      cases hcsr'
      rw [hcn] at hcn'
      cases hcn'
      obtain ⟨fleet, hfleet, hkey⟩ := enrollBound_eq_ok hbound
      exact ⟨csr, fleet, hfleet, hkey, rfl⟩

/-- What an accepted renewal has checked: the CSR has the key the fleet declares for the
caller. -/
theorem renew_eq_ok {cn : String} {req : RenewRequest}
    (h : renew given st cn req now = .ok cert) :
    ∃ csr csrCn fleet, given.parseCsr req.csrPem = some csr ∧
      commonNameOf csr.distinguishedName = some csrCn ∧ st.verifiedFleet = some fleet ∧
      DeclaresKey given fleet (extractMachineId cn st.agentCnSuffix) csr.publicKey ∧
      cert = certFor csr csrCn st.agentCertValidity now st.agentCnSuffix := by
  unfold renew at h
  split at h
  · cases h
  · rename_i csr hcsr
    split at h
    · cases h
    · split at h
      · cases h
      · rename_i fleet hfleet
        split at h
        · cases h
        · rename_i host hhost
          split at h
          · cases h
          · rename_i hval
            obtain ⟨csr', csrCn, hcsr', hcn, rfl⟩ := enrollIssued_eq_ok h
            rw [hcsr] at hcsr'
            cases hcsr'
            rw [Bool.not_eq_true, Bool.not_eq_false'] at hval
            exact ⟨csr, csrCn, fleet, hcsr, hcn, hfleet, declaresKey_of_validate hhost hval, rfl⟩

end Routes

/-- **When the issued identity is the authenticated one.** Of an enrollment: iff the token's
hostname is a bare machine id. Of a renewal: iff the CSR names the caller. -/
theorem certifiesIdentity_iff (given : Given) (st : AppState) (now : Time) (cert : Cert) :
    (∀ faults req, (enroll given st faults req now).1 = .ok cert →
      (CertifiesIdentity given st req.token.claims.hostname cert ↔
        extractMachineId req.token.claims.hostname st.agentCnSuffix =
          req.token.claims.hostname)) ∧
    (∀ cn req, renew given st cn req now = .ok cert →
      (CertifiesIdentity given st (extractMachineId cn st.agentCnSuffix) cert ↔
        ∀ csr csrCn, given.parseCsr req.csrPem = some csr →
          commonNameOf csr.distinguishedName = some csrCn →
            extractMachineId csrCn st.agentCnSuffix = extractMachineId cn st.agentCnSuffix)) := by
  constructor
  · intro faults req h
    obtain ⟨csr, fleet, hfleet, hkey, rfl⟩ := enroll_eq_ok h
    exact certifiesIdentity_certFor hfleet hkey
  · intro cn req h
    obtain ⟨csr, csrCn, fleet, hcsr, hcn, hfleet, hkey, rfl⟩ := renew_eq_ok h
    rw [certifiesIdentity_certFor hfleet hkey]
    constructor
    · intro hid csr' csrCn' hcsr' hcn'
      rw [hcsr] at hcsr'
      cases hcsr'
      rw [hcn] at hcn'
      cases hcn'
      exact hid
    · intro hid
      exact hid csr csrCn hcsr hcn

/-- The key of host `web-01`, and the line that declares it. -/
def webKey : PublicKey := List.replicate 32 0x42

def webKeyLine : String :=
  "ssh-ed25519 AAAAC3NzaC1lZDI1NTE5AAAAIEJCQkJCQkJCQkJCQkJCQkJCQkJCQkJCQkJCQkJCQkJC root@web-01"

/-- A CSR is its name here; every one has the key of `web-01`. -/
def webGiven : Given where
  parseCsr := fun csrPem => some ⟨[(.commonName, .utf8String csrPem)], webKey⟩
  fingerprint := fun _ => "Ql7U5KNrMOohuQ4hxxLGSeghTCm36vaAidEDnG5VOEw="
  base64Decode := fun _ => some ([0, 0, 0, 11] ++ sshEd25519 ++ [0, 0, 0, 32] ++ webKey)
  isDnsName := fun _ => true

/-- A server whose verified fleet declares the key for `web-01`. -/
def webState : AppState where
  db := some ∅
  allowedNonces := (∅ : Table String BootstrapNonceEntry).insert "n1" ⟨"n1", "web-01", 100⟩
  trust := fun _ _ => .ok ()
  verifiedFleet := some { stableFleet "r1" [] ⟨"staged", [], .halt⟩ [] [] [] with
    hosts := (∅ : Table HostId Host).insert "web-01"
      ⟨"x86_64-linux", [], "stable", some "new", some webKeyLine⟩ }
  caSigner := some ⟨true, fun _ => true⟩
  agentCertValidity := 30
  agentCnSuffix := "fleet.example.com"

/-- An enrollment of `web-01`. -/
def webEnroll : EnrollRequest :=
  ⟨⟨1, ⟨"web-01", "Ql7U5KNrMOohuQ4hxxLGSeghTCm36vaAidEDnG5VOEw=", 0, 100, "n1"⟩, "signature"⟩,
    "web-01"⟩

/-- The certificate for a CSR of the given name. -/
def webCert (name : String) : Cert :=
  certFor ⟨[(.commonName, .utf8String name)], webKey⟩ name 30 10 "fleet.example.com"

set_option maxRecDepth 4000 in
/-- An enrolled `web-01` and a `web-01` that renews in its own name get their own identity. -/
theorem webState_certifiesIdentity :
    CertifiesIdentity webGiven webState "web-01" (webCert "web-01") ∧
    CertifiesIdentity webGiven webState
      (extractMachineId "agent-web-01.fleet.example.com" "fleet.example.com")
      (webCert "web-01") := by
  have hspec := certifiesIdentity_iff webGiven webState 10 (webCert "web-01")
  constructor
  · exact (hspec.1 ⟨false, false⟩ webEnroll (by decide)).mpr (by decide)
  · refine (hspec.2 "agent-web-01.fleet.example.com" ⟨"web-01"⟩ (by decide)).mpr ?_
    intro csr csrCn hcsr hcn
    cases hcsr
    cases hcn
    decide

set_option maxRecDepth 4000 in
/-- `web-01` renews with a CSR in the name of `web-02`, and gets a certificate of `web-02`. -/
theorem webState_renews_other :
    renew webGiven webState "agent-web-01.fleet.example.com" ⟨"web-02"⟩ 10 =
      .ok (webCert "web-02") ∧
    extractMachineId "agent-web-02.fleet.example.com" "fleet.example.com" = "web-02" ∧
    commonNameOf (webCert "web-02").distinguishedName = some "agent-web-02.fleet.example.com" ∧
    ¬ CertifiesIdentity webGiven webState
      (extractMachineId "agent-web-01.fleet.example.com" "fleet.example.com")
      (webCert "web-02") := by
  refine ⟨by decide, by decide, by decide, ?_⟩
  rintro ⟨cn, hcn, hid, -⟩
  obtain rfl : "agent-web-02.fleet.example.com" = cn := by
    have hname : commonNameOf (webCert "web-02").distinguishedName =
        some "agent-web-02.fleet.example.com" := by decide
    rw [hname] at hcn
    exact Option.some.inj hcn
  exact absurd hid (by decide)

end Nixfleet
