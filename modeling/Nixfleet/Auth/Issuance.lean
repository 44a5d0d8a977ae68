import Mathlib.Data.List.DropRight
import Nixfleet.Proto.Fleet

set_option autoImplicit false

/-!
# Certificate issuance

The functions of `auth::issuance` and `host_key` behind the two issuing routes. What is done
by third-party code (reading a CSR, base64, SHA-256, the token signature, signing) is in
`Given`.
-/

namespace Nixfleet

/-- A raw public key. -/
abbrev PublicKey := List UInt8

structure TokenClaims where
  hostname : HostId
  expectedPubkeyFingerprint : String
  issuedAt : Time
  expiresAt : Time
  nonce : String
deriving DecidableEq, Repr

structure BootstrapToken where
  version : Nat
  claims : TokenClaims
  signature : String
deriving DecidableEq, Repr

/-- The types of the parts of a distinguished name that the code tells apart. -/
inductive DnType where
  | commonName
  | other (oid : String)
deriving DecidableEq, Repr

/-- A value of a distinguished name; the encodings that are not read as text carry their
`Debug` text. -/
inductive DnValue where
  | printableString (s : String)
  | utf8String (s : String)
  | otherEncoding (debug : String)
deriving DecidableEq, Repr

/-- The text both routes read from a value. -/
def DnValue.text : DnValue → String
  | .printableString s => s
  | .utf8String s => s
  | .otherEncoding debug => debug

abbrev DistinguishedName := List (DnType × DnValue)

/-- The text of the first common name. -/
def commonNameOf (dn : DistinguishedName) : Option String :=
  dn.findSome? fun e => if e.1 = .commonName then some e.2.text else none

/-- What a CSR says. -/
structure CsrParams where
  distinguishedName : DistinguishedName
  publicKey : PublicKey
deriving DecidableEq, Repr

/-- The fields of an issued certificate. -/
structure Cert where
  distinguishedName : DistinguishedName
  subjectAltNames : List String
  clientAuth : Bool
  publicKey : PublicKey
  notBefore : Time
  notAfter : Time
deriving DecidableEq, Repr

inductive TrustVerifyError where
  | trustFileRead
  | trustFileParse
  | noOrgRootKey
  | noActiveKeys
  | signatureMismatch
deriving DecidableEq, Repr

/-- Third-party code. -/
structure Given where
  parseCsr : String → Option CsrParams
  fingerprint : PublicKey → String
  base64Decode : String → Option (List UInt8)
  isDnsName : String → Bool

/-- The signing half of a CA: whether a key pair can be made, and which certificates it
signs. -/
structure CaSigner where
  makeKeyPair : Bool
  signs : Cert → Bool

/-! ## Names -/

/-- `str::strip_prefix`. -/
def stripPrefix (p s : String) : Option String :=
  if p.toList.isPrefixOf s.toList then some (String.ofList (s.toList.drop p.toList.length))
  else none

/-- `str::strip_suffix`. -/
def stripSuffix (p s : String) : Option String :=
  if p.toList.isSuffixOf s.toList then
    some (String.ofList (s.toList.take (s.toList.length - p.toList.length)))
  else none

/-- `canonical_agent_cn`. -/
def canonicalAgentCn (machineId suffix : String) : String := "agent-" ++ machineId ++ "." ++ suffix

/-- `extract_machine_id`. -/
def extractMachineId (cn suffix : String) : String :=
  match (stripPrefix "agent-" cn).bind (stripSuffix ("." ++ suffix)) with
  | some machineId => machineId
  | none => cn

theorem stripPrefix_append (p s : String) : stripPrefix p (p ++ s) = some s := by
  have h : p.toList.isPrefixOf (p ++ s).toList = true := by
    rw [String.toList_append, List.isPrefixOf_iff_prefix]
    exact List.prefix_append _ _
  rw [stripPrefix, if_pos h, String.toList_append, List.drop_left, String.ofList_toList]

theorem stripSuffix_append (p s : String) : stripSuffix p (s ++ p) = some s := by
  have h : p.toList.isSuffixOf (s ++ p).toList = true := by
    rw [String.toList_append, List.isSuffixOf_iff_suffix]
    exact List.suffix_append _ _
  rw [stripSuffix, if_pos h, String.toList_append, List.length_append, Nat.add_sub_cancel,
    List.take_left, String.ofList_toList]

/-- Wrapping a machine id and reading it back. -/
@[simp] theorem extractMachineId_canonicalAgentCn (machineId suffix : String) :
    extractMachineId (canonicalAgentCn machineId suffix) suffix = machineId := by
  have hcn : canonicalAgentCn machineId suffix = "agent-" ++ (machineId ++ ("." ++ suffix)) := by
    simp only [canonicalAgentCn, String.append_assoc]
  rw [extractMachineId, hcn, stripPrefix_append, Option.bind_some, stripSuffix_append]

/-! ## Host keys -/

/-- `OpenSshParseError`. -/
inductive OpenSshParseError where
  | empty
  | wrongAlgorithm (got : String)
  | missingBase64
  | invalidBase64
  | truncated
  | innerAlgorithmMismatch
  | wrongPubkeyLength (got : Nat)
deriving DecidableEq, Repr

/-- `read_ssh_string`: a length-prefixed field, and what follows it. -/
def readSshString (buf : List UInt8) : Except OpenSshParseError (List UInt8 × List UInt8) :=
  match buf with
  | a :: b :: c :: d :: rest =>
      let len := ((a.toNat * 256 + b.toNat) * 256 + c.toNat) * 256 + d.toNat
      if len ≤ rest.length then .ok (rest.take len, rest.drop len) else .error .truncated
  | _ => .error .truncated

/-- The `White_Space` characters. -/
def isWhiteSpace (c : Char) : Bool :=
  let n := c.toNat
  (9 ≤ n && n ≤ 13) || n = 0x20 || n = 0x85 || n = 0xA0 || n = 0x1680
    || (0x2000 ≤ n && n ≤ 0x200A) || n = 0x2028 || n = 0x2029 || n = 0x202F || n = 0x205F
    || n = 0x3000

/-- `str::split_whitespace`. -/
def splitWhitespace (s : String) : List String :=
  ((s.toList.splitOnP isWhiteSpace).filter fun w => !w.isEmpty).map String.ofList

/-- `str::trim`. -/
def trim (s : String) : String :=
  String.ofList ((s.toList.rdropWhile isWhiteSpace).dropWhile isWhiteSpace)

/-- The bytes of `"ssh-ed25519"`. -/
def sshEd25519 : List UInt8 := [115, 115, 104, 45, 101, 100, 50, 53, 53, 49, 57]

/-- `ed25519_pubkey_raw_from_openssh`. -/
def ed25519PubkeyRawFromOpenssh (given : Given) (line : String) :
    Except OpenSshParseError PublicKey :=
  match splitWhitespace line with
  | [] => .error .empty
  | algo :: parts =>
      if algo ≠ "ssh-ed25519" then .error (.wrongAlgorithm algo)
      else
        match parts with
        | [] => .error .missingBase64
        | blobB64 :: _ =>
            match given.base64Decode blobB64 with
            | none => .error .invalidBase64
            | some blob => do
                let (algoBytes, rest) ← readSshString blob
                if algoBytes ≠ sshEd25519 then .error .innerAlgorithmMismatch
                else do
                  let (pubkey, _) ← readSshString rest
                  if pubkey.length ≠ 32 then .error (.wrongPubkeyLength pubkey.length)
                  else .ok pubkey

/-- `validate_csr_against_fleet_host`; every failure is one refusal to the callers. -/
def validateCsrAgainstFleetHost (given : Given) (csrPubkeyRaw : PublicKey)
    (declaredOpensshPubkey : Option String) : Bool :=
  match declaredOpensshPubkey with
  | none => false
  | some openssh =>
      match ed25519PubkeyRawFromOpenssh given openssh with
      | .error _ => false
      | .ok declaredRaw => csrPubkeyRaw = declaredRaw

/-- `validate_token_claims`; every failure is one refusal to the caller. -/
def validateTokenClaims (claims : TokenClaims) (csrCn csrPubkeyFingerprint : String)
    (now : Time) : Bool :=
  !(now < claims.issuedAt) && !(now ≥ claims.expiresAt) && csrCn = claims.hostname &&
    csrPubkeyFingerprint = claims.expectedPubkeyFingerprint

/-- The certificate `issue_cert` asks the CA to sign: the CSR's other name parts and its key,
under the canonical name of the machine id in the CSR's common name. -/
def certFor (csr : CsrParams) (csrCn : String) (validity : Int) (now : Time)
    (agentCnSuffix : String) : Cert :=
  let canonicalCn := canonicalAgentCn (extractMachineId csrCn agentCnSuffix) agentCnSuffix
  let notBefore := now / 1000000000 * 1000000000
  { distinguishedName := csr.distinguishedName.filter (·.1 ≠ .commonName) ++
      [(.commonName, .utf8String canonicalCn)]
    subjectAltNames := [canonicalCn]
    clientAuth := true
    publicKey := csr.publicKey
    notBefore := notBefore
    notAfter := notBefore + validity }

/-- `issue_cert`; every failure is one refusal to the callers. -/
def issueCert (given : Given) (csrPem : String) (signer : CaSigner) (validity : Int) (now : Time)
    (agentCnSuffix : String) : Option Cert :=
  if !signer.makeKeyPair then none
  else
    match given.parseCsr csrPem with
    | none => none
    | some csr =>
        match commonNameOf csr.distinguishedName with
        | none => none
        | some csrCn =>
            let cert := certFor csr csrCn validity now agentCnSuffix
            if !cert.subjectAltNames.all given.isDnsName then none
            else if signer.signs cert then some cert else none

/-- The name on an issued certificate is its canonical one. -/
@[simp] theorem commonNameOf_certFor (csr : CsrParams) (csrCn : String) (validity : Int)
    (now : Time) (suffix : String) :
    commonNameOf (certFor csr csrCn validity now suffix).distinguishedName =
      some (canonicalAgentCn (extractMachineId csrCn suffix) suffix) := by
  have hnone : commonNameOf (csr.distinguishedName.filter (·.1 ≠ .commonName)) = none := by
    unfold commonNameOf
    rw [List.findSome?_eq_none_iff]
    intro e he
    have hne := (List.mem_filter.mp he).2
    rw [if_neg (by simpa using hne)]
  unfold commonNameOf at hnone ⊢
  rw [certFor, List.findSome?_append, hnone]
  rfl

/-- **What an issued certificate is.** -/
theorem issueCert_eq_some {given : Given} {csrPem : String} {signer : CaSigner} {validity : Int}
    {now : Time} {suffix : String} {cert : Cert}
    (h : issueCert given csrPem signer validity now suffix = some cert) :
    ∃ csr csrCn, given.parseCsr csrPem = some csr ∧
      commonNameOf csr.distinguishedName = some csrCn ∧
      cert = certFor csr csrCn validity now suffix := by
  unfold issueCert at h
  split at h
  · cases h
  · split at h
    · cases h
    · rename_i csr hcsr
      split at h
      · cases h
      · rename_i csrCn hcn
        dsimp only at h
        split at h
        · cases h
        · split at h
          · cases h
            exact ⟨csr, csrCn, hcsr, hcn, rfl⟩
          · cases h

end Nixfleet
