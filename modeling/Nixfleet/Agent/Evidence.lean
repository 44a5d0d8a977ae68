import Nixfleet.Agent.ProbeWorker
import Nixfleet.Auth.Issuance
import Nixfleet.Proto.Evidence

set_option autoImplicit false

/-!
# The evidence runner

The runner of the evidence probes reads the evidence file that the collector writes on the host,
checks its signature, and turns the controls that the probe is about into results: one for each
article, or one for a control without articles. The probe fails when one of them fails in mode
`enforce`. What third-party code computes (base64, ed25519, JSON, its canonical form, times) is in
`EvidenceHooks`.
-/

namespace Nixfleet

/-! ## Declarations -/

/-- `ControlOverrideDecl`. -/
structure ControlOverrideDecl where
  mode : String
  reason : String
deriving DecidableEq, Repr

/-- The mode a text stands for, `enforce` for any other text. -/
def modeOrEnforce (mode : String) : ProbeMode :=
  if mode = "observe" then .observe
  else if mode = "disabled" then .disabled
  else .enforce

/-- `resolved_mode`. -/
def ControlOverrideDecl.resolvedMode (o : ControlOverrideDecl) : ProbeMode := modeOrEnforce o.mode

/-- What the evidence runner reads of a `ProbeDecl`. -/
structure EvidenceDecl extends ProbeDecl where
  framework : Option String
  evidencePath : String
  controlOverrides : Table String ControlOverrideDecl
  controls : Table String ControlOverrideDecl

/-- `probe_level_mode`. -/
def probeLevelMode (decl : EvidenceDecl) : ProbeMode := modeOrEnforce decl.mode

/-! ## Outcomes -/

/-- `FAILURE_REASON_MAX_LEN`. -/
def failureReasonMaxLen : Nat := 512

/-- The longest prefix that takes at most so many bytes. -/
def takeBytes : Nat → List Char → List Char
  | _, [] => []
  | n, c :: cs => if c.utf8Size ≤ n then c :: takeBytes (n - c.utf8Size) cs else []

/-- `truncate_reason`. -/
def truncateReason (s : String) : String :=
  if s.utf8ByteSize > failureReasonMaxLen then
    String.ofList (takeBytes failureReasonMaxLen s.toList) ++ "...[truncated]"
  else s

/-- `RunnerOutcome::fail`. -/
def RunnerOutcome.fail (observedAt : Time) (reason : String) : RunnerOutcome :=
  ⟨.fail, observedAt, some (truncateReason reason), none⟩

/-! ## Reading the file -/

/-- The third-party code that the runner calls. -/
structure EvidenceHooks where
  base64Decode : String → Except String Bytes
  verifyingKeyFromBytes : Bytes → Except String Unit
  verify : Bytes → Bytes → Bytes → Bool
  jsonFromSlice : Bytes → Except String Json
  parseError : Json → String
  canonicalize : Json → Except String Bytes
  serializeTime : Time → String
  deserializeTime : String → Option Time

/-- What a tick of the runner reads: the clock, the environment, the files, and the order in which
the hasher lists the frameworks of an entry. -/
structure EvidenceEnv where
  now : Time
  sshHostKeyFile : Option String
  sigPath : String
  evidence : Except String Bytes
  signature : Except String String
  hostPubkey : Except String String
  rank : EvidenceControlEntry → String → Nat

/-- The last 32 bytes of a key blob. -/
def pubkeyTail (blob : Bytes) : Except String Bytes :=
  if blob.length < 32 then .error ("host pubkey blob len " ++ toString blob.length ++ " < 32")
  else .ok (blob.drop (blob.length - 32))

/-- `resolve_host_pubkey`. -/
def resolveHostPubkey (hooks : EvidenceHooks) (env : EvidenceEnv) : Except String Bytes := do
  let pubPath := env.sshHostKeyFile.getD "/etc/ssh/ssh_host_ed25519_key" ++ ".pub"
  let raw ← env.hostPubkey.mapError fun err => "read host pubkey " ++ pubPath ++ ": " ++ err
  match (splitWhitespace raw)[1]? with
  | none => .error ("malformed host pubkey at " ++ pubPath)
  | some blobB64 =>
      let blob ← (hooks.base64Decode blobB64).mapError fun err =>
        "host pubkey base64 decode: " ++ err
      pubkeyTail blob

/-- The check that a probe selects its controls in one way. -/
def checkSelection (decl : EvidenceDecl) : Except String Unit :=
  if decl.framework.isNone ∧ decl.controls.rows = [] then
    .error "evidence probe: neither framework nor controls declared"
  else if decl.framework.isSome ∧ decl.controls.rows ≠ [] then
    .error "evidence probe: framework and controls both set (XOR violation)"
  else .ok ()

/-- What a signature is checked with: the file, the key of the host, and the signature. -/
structure SignedBytes where
  payload : Bytes
  pubkey : Bytes
  sig : Bytes
deriving DecidableEq, Repr

/-- What `run` reads before it looks into the file. -/
def readSigned (hooks : EvidenceHooks) (env : EvidenceEnv) (decl : EvidenceDecl) :
    Except String SignedBytes := do
  let payload ← env.evidence.mapError fun err =>
    "evidence probe: read " ++ decl.evidencePath ++ ": " ++ err
  let sigB64 ← env.signature.mapError fun err =>
    "evidence probe: read " ++ env.sigPath ++ ": " ++ err
  let pubkey ← (resolveHostPubkey hooks env).mapError fun reason => "evidence probe: " ++ reason
  (hooks.verifyingKeyFromBytes pubkey).mapError fun err => "evidence probe: pubkey parse: " ++ err
  let sig ← (hooks.base64Decode (trim sigB64)).mapError fun err =>
    "evidence probe: sig base64: " ++ err
  if sig.length ≠ 64 then
    .error ("evidence probe: sig length " ++ toString sig.length ++ " != 64")
  else .ok ⟨payload, pubkey, sig⟩

/-- What `run` does up to the results: the file, once its signature and its version are checked. The
signature is checked over the canonical form of what was read, written again. -/
def verifiedEvidence (hooks : EvidenceHooks) (env : EvidenceEnv) (decl : EvidenceDecl) :
    Except String EvidenceFile := do
  checkSelection decl
  let signed ← readSigned hooks env decl
  let json ← (hooks.jsonFromSlice signed.payload).mapError fun err =>
    "evidence probe: parse: " ++ err
  match EvidenceFile.ofJson hooks.deserializeTime json with
  | none => .error ("evidence probe: parse: " ++ hooks.parseError json)
  | some parsed =>
      let canonicalBytes ← (hooks.canonicalize (parsed.toJson hooks.serializeTime)).mapError
        fun err => "evidence probe: canonicalise: " ++ err
      if ¬ hooks.verify signed.pubkey canonicalBytes signed.sig then
        .error "evidence probe: signature verify failed"
      else if parsed.schemaVersion ≠ schemaVersion then
        .error ("evidence probe: schemaVersion " ++ toString parsed.schemaVersion ++
          " unsupported (agent expects " ++ toString schemaVersion ++
          "); upgrade nixfleet-compliance")
      else .ok parsed

/-- What is left of `verifiedEvidence` once the file is read. -/
theorem verifiedEvidence_of_read {hooks : EvidenceHooks} {env : EvidenceEnv}
    {decl : EvidenceDecl} {signed : SignedBytes} {json : Json} {parsed : EvidenceFile}
    {canonicalBytes : Bytes} (hselection : checkSelection decl = .ok ())
    (hread : readSigned hooks env decl = .ok signed)
    (hjson : hooks.jsonFromSlice signed.payload = .ok json)
    (hparsed : EvidenceFile.ofJson hooks.deserializeTime json = some parsed)
    (hcanonical : hooks.canonicalize (parsed.toJson hooks.serializeTime) = .ok canonicalBytes) :
    verifiedEvidence hooks env decl =
      if ¬ hooks.verify signed.pubkey canonicalBytes signed.sig then
        .error "evidence probe: signature verify failed"
      else if parsed.schemaVersion ≠ schemaVersion then
        .error ("evidence probe: schemaVersion " ++ toString parsed.schemaVersion ++
          " unsupported (agent expects " ++ toString schemaVersion ++
          "); upgrade nixfleet-compliance")
      else .ok parsed := by
  simp only [verifiedEvidence, hselection, hread, hjson, hparsed, hcanonical, Except.mapError,
    bind, Except.bind]

/-! ## Results -/

/-- `resolve_effective_mode`: the mode of a control, and the reason of the override it is from. -/
def resolveEffectiveMode (decl : EvidenceDecl) (controlId : String) (probeMode : ProbeMode)
    (frameworkFilter : Option String) : ProbeMode × Option String :=
  match frameworkFilter with
  | some _ =>
      match decl.controlOverrides.lookup controlId with
      | some o => (o.resolvedMode, some o.reason)
      | none => (probeMode, none)
  | none =>
      match decl.controls.lookup controlId with
      | some c => (c.resolvedMode, some c.reason)
      | none => (.disabled, none)

/-- The results of an entry for the articles of one framework. -/
def articleSubResults (entry : EvidenceControlEntry) (status : ProbeStatus)
    (effectiveMode : ProbeMode) (overrideReason : Option String) (framework : String)
    (articles : List String) : List ProbeSubResult :=
  if articles = [] then [⟨entry.controlId, status, framework, none, effectiveMode, overrideReason⟩]
  else articles.map fun article =>
    ⟨entry.controlId, status, framework, some article, effectiveMode, overrideReason⟩

/-- `push_entry_sub_results`. -/
def pushEntrySubResults (env : EvidenceEnv) (subResults : List ProbeSubResult)
    (entry : EvidenceControlEntry) (frameworkFilter : Option String) (status : ProbeStatus)
    (effectiveMode : ProbeMode) (overrideReason : Option String) : List ProbeSubResult :=
  let results := articleSubResults entry status effectiveMode overrideReason
  match frameworkFilter with
  | some framework =>
      match entry.frameworkArticles.lookup framework with
      | none => subResults
      | some articles => subResults ++ results framework articles
  | none =>
      if entry.frameworkArticles.rows = [] then subResults ++ results "custom" []
      else subResults ++ (iterBy (env.rank entry) entry.frameworkArticles.rows).flatMap fun row =>
        results row.1 row.2

/-- The status of an entry. -/
def EvidenceControlEntry.status (entry : EvidenceControlEntry) : ProbeStatus :=
  if entry.passed then .pass else .fail

/-- One turn of the loop over the controls. A disabled control has no results. -/
def pushEntry (env : EvidenceEnv) (decl : EvidenceDecl) (subResults : List ProbeSubResult)
    (entry : EvidenceControlEntry) : List ProbeSubResult :=
  let resolved :=
    resolveEffectiveMode decl entry.controlId (probeLevelMode decl) decl.framework
  if resolved.1 = .disabled then subResults
  else pushEntrySubResults env subResults entry decl.framework entry.status resolved.1 resolved.2

/-- The results of a file. -/
def evidenceSubResults (env : EvidenceEnv) (decl : EvidenceDecl) (file : EvidenceFile) :
    List ProbeSubResult :=
  file.controls.foldl (pushEntry env decl) []

/-- What `run` makes of a file that it accepts. -/
def evidenceOutcome (env : EvidenceEnv) (decl : EvidenceDecl) (file : EvidenceFile) :
    RunnerOutcome :=
  let subResults := evidenceSubResults env decl file
  if subResults = [] then
    .fail env.now (match decl.framework with
      | some f => "evidence probe: no controls match framework '" ++ f ++ "'"
      | none => "evidence probe: no controls matched the explicit selection")
  else
    let allEnforcePass :=
      (subResults.filter fun s => s.effectiveMode = .enforce).all fun s => s.status = .pass
    ⟨if allEnforcePass then .pass else .fail, env.now,
      if allEnforcePass then none
      else some ("evidence probe: " ++ decl.framework.getD "custom-controls" ++
        ": at least one enforce-mode control failed"),
      some subResults⟩

/-- `evidence::run`. -/
def evidenceRun (hooks : EvidenceHooks) (env : EvidenceEnv) (decl : EvidenceDecl) :
    RunnerOutcome :=
  match verifiedEvidence hooks env decl with
  | .error reason => .fail env.now reason
  | .ok file => evidenceOutcome env decl file

/-! ## The controls of a probe -/

/-- The mode in which a control counts. -/
def EvidenceDecl.modeOf (decl : EvidenceDecl) (controlId : String) : ProbeMode :=
  (resolveEffectiveMode decl controlId (probeLevelMode decl) decl.framework).1

/-- The probe is about the control, and it counts in this mode. -/
structure EvidenceDecl.Selects (decl : EvidenceDecl) (mode : ProbeMode)
    (entry : EvidenceControlEntry) : Prop where
  mode : decl.modeOf entry.controlId = mode
  covered : ∀ framework ∈ decl.framework, framework ∈ entry.frameworkArticles

section Results

variable {env : EvidenceEnv} {decl : EvidenceDecl} {entry : EvidenceControlEntry}
  {status : ProbeStatus} {mode : ProbeMode} {reason : Option String}

theorem articleSubResults_ne_nil (framework : String) (articles : List String) :
    articleSubResults entry status mode reason framework articles ≠ [] := by
  unfold articleSubResults
  split
  · simp
  · simpa using ‹articles ≠ []›

theorem mem_articleSubResults {framework : String} {articles : List String} {r : ProbeSubResult}
    (h : r ∈ articleSubResults entry status mode reason framework articles) :
    r.controlId = entry.controlId ∧ r.status = status ∧ r.effectiveMode = mode := by
  unfold articleSubResults at h
  split at h
  · obtain rfl := List.mem_singleton.mp h
    exact ⟨rfl, rfl, rfl⟩
  · obtain ⟨article, -, rfl⟩ := List.mem_map.mp h
    exact ⟨rfl, rfl, rfl⟩

/-- An entry adds to the results, whatever came before. -/
theorem pushEntrySubResults_append (subResults : List ProbeSubResult)
    (frameworkFilter : Option String) :
    pushEntrySubResults env subResults entry frameworkFilter status mode reason =
      subResults ++ pushEntrySubResults env [] entry frameworkFilter status mode reason := by
  unfold pushEntrySubResults
  cases frameworkFilter with
  | some framework =>
      dsimp only
      split <;> simp
  | none =>
      dsimp only
      split <;> simp

/-- What an entry adds is about its control, with its status and the mode it counts in. -/
theorem mem_pushEntrySubResults {frameworkFilter : Option String} {r : ProbeSubResult}
    (h : r ∈ pushEntrySubResults env [] entry frameworkFilter status mode reason) :
    r.controlId = entry.controlId ∧ r.status = status ∧ r.effectiveMode = mode := by
  unfold pushEntrySubResults at h
  cases frameworkFilter with
  | some framework =>
      dsimp only at h
      split at h
      · cases h
      · exact mem_articleSubResults h
  | none =>
      dsimp only at h
      rw [List.nil_append, List.nil_append] at h
      split at h
      · exact mem_articleSubResults h
      · obtain ⟨row, -, hr⟩ := List.mem_flatMap.mp h
        exact mem_articleSubResults hr

/-- An entry adds something unless the framework is not among its own. -/
theorem pushEntrySubResults_ne_nil {frameworkFilter : Option String} :
    pushEntrySubResults env [] entry frameworkFilter status mode reason ≠ [] ↔
      ∀ framework ∈ frameworkFilter, framework ∈ entry.frameworkArticles := by
  unfold pushEntrySubResults
  cases frameworkFilter with
  | some framework =>
      dsimp only
      split
      · rename_i hlookup
        simpa using AList.lookup_eq_none.mp hlookup
      · rename_i articles hlookup
        have hmem : framework ∈ entry.frameworkArticles :=
          AList.lookup_isSome.mp (by rw [hlookup]; rfl)
        simpa [hmem] using articleSubResults_ne_nil framework articles
  | none =>
      dsimp only
      split
      · simpa using articleSubResults_ne_nil "custom" []
      · rename_i hrows
        obtain ⟨row, hrow⟩ := List.exists_mem_of_ne_nil _ hrows
        have hne : ¬ ∀ row ∈ entry.frameworkArticles.rows,
            articleSubResults entry status mode reason row.1 row.2 = [] :=
          fun hall => articleSubResults_ne_nil row.1 row.2 (hall row hrow)
        simpa [List.flatMap_eq_nil_iff] using hne

/-- The results of a file, entry by entry. -/
theorem evidenceSubResults_eq (file : EvidenceFile) :
    evidenceSubResults env decl file = file.controls.flatMap (pushEntry env decl []) := by
  have happend : ∀ subResults entry, pushEntry env decl subResults entry =
      subResults ++ pushEntry env decl [] entry := by
    intro subResults entry
    unfold pushEntry
    dsimp only
    split
    · rw [List.append_nil]
    · rw [pushEntrySubResults_append]
  unfold evidenceSubResults
  induction file.controls using List.reverseRecOn with
  | nil => rfl
  | append_singleton entries entry ih =>
      rw [List.foldl_append, ih, List.flatMap_append, List.foldl_cons, List.foldl_nil, happend,
        List.flatMap_singleton]

/-- **What the results report.** A control has a result with a status, in a mode other than
`disabled`, iff the probe selects an entry of it in that mode that has the status. -/
theorem mem_evidenceSubResults_iff {file : EvidenceFile} {controlId : String}
    (hmode : mode ≠ .disabled) :
    (∃ r ∈ evidenceSubResults env decl file,
        r.controlId = controlId ∧ r.status = status ∧ r.effectiveMode = mode) ↔
      ∃ entry ∈ file.controls,
        entry.controlId = controlId ∧ entry.status = status ∧ decl.Selects mode entry := by
  rw [evidenceSubResults_eq]
  constructor
  · rintro ⟨r, hr, rfl, rfl, rfl⟩
    obtain ⟨entry, hentry, hpush⟩ := List.mem_flatMap.mp hr
    unfold pushEntry at hpush
    dsimp only at hpush
    split at hpush
    · cases hpush
    · obtain ⟨hid, hstatus, heff⟩ := mem_pushEntrySubResults hpush
      have hcovered := pushEntrySubResults_ne_nil.mp (List.ne_nil_of_mem hpush)
      exact ⟨entry, hentry, hid.symm, hstatus.symm, heff.symm, hcovered⟩
  · rintro ⟨entry, hentry, rfl, rfl, rfl, hcovered⟩
    have hpush : pushEntry env decl [] entry = pushEntrySubResults env [] entry decl.framework
        entry.status (decl.modeOf entry.controlId)
          (resolveEffectiveMode decl entry.controlId (probeLevelMode decl) decl.framework).2 := by
      unfold pushEntry
      exact if_neg hmode
    obtain ⟨r, hr⟩ := List.exists_mem_of_ne_nil _ (pushEntrySubResults_ne_nil.mpr hcovered)
    exact ⟨r, List.mem_flatMap.mpr ⟨entry, hentry, hpush ▸ hr⟩, mem_pushEntrySubResults hr⟩

end Results

/-! ## The outcome -/

/-- **The verdict.** A file with results fails the probe iff one of them fails in mode `enforce`. -/
theorem evidenceOutcome_status {env : EvidenceEnv} {decl : EvidenceDecl} {file : EvidenceFile}
    (hne : evidenceSubResults env decl file ≠ []) :
    (evidenceOutcome env decl file).status = .fail ↔
      ∃ r ∈ evidenceSubResults env decl file, r.status = .fail ∧ r.effectiveMode = .enforce := by
  have hpass : ∀ s : ProbeStatus, s ≠ .pass ↔ s = .fail := by
    intro s
    cases s <;> simp
  have hall : ((evidenceSubResults env decl file).filter fun s => s.effectiveMode = .enforce).all
      (fun s => s.status = .pass) = true ↔
        ¬ ∃ r ∈ evidenceSubResults env decl file,
          r.status = .fail ∧ r.effectiveMode = .enforce := by
    simp only [List.all_eq_true, List.mem_filter, decide_eq_true_eq, not_exists, not_and, ← hpass]
    exact ⟨fun h r hr hs hm => absurd (h r ⟨hr, hm⟩) hs, fun h r hr => by
      by_contra hs
      exact h r hr.1 hs hr.2⟩
  unfold evidenceOutcome
  dsimp only
  rw [if_neg hne]
  by_cases hfail : ∃ r ∈ evidenceSubResults env decl file,
      r.status = .fail ∧ r.effectiveMode = .enforce
  · rw [if_neg (fun h => hall.mp h hfail)]
    exact iff_of_true rfl hfail
  · rw [if_pos (hall.mpr hfail)]
    exact iff_of_false (by simp) hfail

/-! ## Two signed files

One is as the runner writes it; the other has one more field. -/

def webPubkey : Bytes :=
  [215, 90, 152, 1, 130, 177, 10, 183, 213, 75, 254, 211, 201, 100, 7, 58, 14, 225, 114, 243,
   218, 166, 35, 37, 175, 2, 26, 104, 247, 7, 81, 26]

def webHostKeyLine : String :=
  "ssh-ed25519 AAAAC3NzaC1lZDI1NTE5AAAAINdamAGCsQq31Uv+08lkBzoO4XLz2qYjJa8CGmj3B1Ea root@web"

/-- The bytes of a text. -/
def textBytes (s : String) : Bytes := s.toUTF8.data.toList

def knownFieldsText : Bytes := textBytes (
  "\x7b\"collectedAt\":\"2026-05-18T12:00:00Z\",\"controls\":[\x7b\"controlId\":" ++
  "\"access-control\",\"frameworkArticles\":\x7b\"nis2\":[\"21.i\"]\x7d,\"passed\":false\x7d]," ++
  "\"hostname\":\"web\",\"schemaVersion\":1\x7d")

def furtherFieldText : Bytes := textBytes (
  "\x7b\"collectedAt\":\"2026-05-18T12:00:00Z\",\"controls\":[\x7b\"controlId\":" ++
  "\"access-control\",\"frameworkArticles\":\x7b\"nis2\":[\"21.i\"]\x7d,\"passed\":false\x7d]," ++
  "\"generator\":\"collector\",\"hostname\":\"web\",\"schemaVersion\":1\x7d")

def knownFieldsSigB64 : String :=
  "dDxoP6HyYg73RMxkSd6xP8HnoQz+PUnPPSF5fIAU/suh99r/6BupyDZso46FVGdhH9EDXDR4qiq0wR4amNmYCw=="

def furtherFieldSigB64 : String :=
  "0mCqO0K3UlLpGU/Rz6gd4WFlDUkOm7ZDgJGDiREByIHN/sMN0Pg9CTuQHnbOoQwpCrz1EQq0N5CxRBtzvbz6BA=="

def knownFieldsSig : Bytes :=
  [116, 60, 104, 63, 161, 242, 98, 14, 247, 68, 204, 100, 73, 222, 177, 63, 193, 231, 161, 12,
   254, 61, 73, 207, 61, 33, 121, 124, 128, 20, 254, 203, 161, 247, 218, 255, 232, 27, 169, 200,
   54, 108, 163, 142, 133, 84, 103, 97, 31, 209, 3, 92, 52, 120, 170, 42, 180, 193, 30, 26, 152,
   217, 152, 11]

def furtherFieldSig : Bytes :=
  [210, 96, 170, 59, 66, 183, 82, 82, 233, 25, 79, 209, 207, 168, 29, 225, 97, 101, 13, 73, 14,
   155, 182, 67, 128, 145, 131, 137, 17, 1, 200, 129, 205, 254, 195, 13, 208, 248, 61, 9, 59,
   144, 30, 118, 206, 161, 12, 41, 10, 188, 245, 17, 10, 180, 55, 144, 177, 68, 27, 115, 189,
   188, 250, 4]

/-- The control that both files hold. -/
def failedControl : Json :=
  .obj [("controlId", .str "access-control"),
    ("frameworkArticles", .obj [("nis2", .arr [.str "21.i"])]), ("passed", .bool false)]

def knownFields : Json :=
  .obj [("collectedAt", .str "2026-05-18T12:00:00Z"), ("controls", .arr [failedControl]),
    ("hostname", .str "web"), ("schemaVersion", .num 1)]

def furtherField : Json :=
  .obj [("collectedAt", .str "2026-05-18T12:00:00Z"), ("controls", .arr [failedControl]),
    ("generator", .str "collector"), ("hostname", .str "web"), ("schemaVersion", .num 1)]

/-- The third-party code on the two files. -/
def webHooks : EvidenceHooks where
  base64Decode := fun text =>
    if text = "AAAAC3NzaC1lZDI1NTE5AAAAINdamAGCsQq31Uv+08lkBzoO4XLz2qYjJa8CGmj3B1Ea" then
      .ok ([0, 0, 0, 11] ++ sshEd25519 ++ [0, 0, 0, 32] ++ webPubkey)
    else if text = knownFieldsSigB64 then .ok knownFieldsSig
    else if text = furtherFieldSigB64 then .ok furtherFieldSig
    else .error "Invalid padding"
  verifyingKeyFromBytes := fun key =>
    if key = webPubkey then .ok () else .error "Cannot decompress Edwards point"
  verify := fun key message sig => key = webPubkey ∧
    ((message = knownFieldsText ∧ sig = knownFieldsSig) ∨
      (message = furtherFieldText ∧ sig = furtherFieldSig))
  jsonFromSlice := fun bytes =>
    if bytes = knownFieldsText then .ok knownFields
    else if bytes = furtherFieldText then .ok furtherField
    else .error "expected value at line 1 column 1"
  parseError := fun _ => "invalid type"
  canonicalize := fun
    | .obj [("collectedAt", .str "2026-05-18T12:00:00Z"),
        ("controls", .arr [.obj [("controlId", .str "access-control"),
          ("frameworkArticles", .obj [("nis2", .arr [.str "21.i"])]), ("passed", .bool false)]]),
        ("hostname", .str "web"), ("schemaVersion", .num 1)] => .ok knownFieldsText
    | .obj [("collectedAt", .str "2026-05-18T12:00:00Z"),
        ("controls", .arr [.obj [("controlId", .str "access-control"),
          ("frameworkArticles", .obj [("nis2", .arr [.str "21.i"])]), ("passed", .bool false)]]),
        ("generator", .str "collector"), ("hostname", .str "web"), ("schemaVersion", .num 1)] =>
      .ok furtherFieldText
    | _ => .ok []
  serializeTime := fun t =>
    if t = 1779105600000000000 then "2026-05-18T12:00:00Z" else "1970-01-01T00:00:00Z"
  deserializeTime := fun text =>
    if text = "2026-05-18T12:00:00Z" then some 1779105600000000000 else none

/-- A tick that finds a file and its signature. -/
def webEnv (evidence : Bytes) (sigB64 : String) : EvidenceEnv where
  now := 1779105630000000000
  sshHostKeyFile := none
  sigPath := "/var/lib/nixfleet-compliance/evidence.json.sig"
  evidence := .ok evidence
  signature := .ok (sigB64 ++ "\n")
  hostPubkey := .ok webHostKeyLine
  rank := fun _ _ => 0

/-- A probe of a framework. -/
def nis2Decl (mode : String) : EvidenceDecl where
  kind := "evidence"
  mode := mode
  runOnce := false
  framework := some "nis2"
  evidencePath := "/var/lib/nixfleet-compliance/evidence.json"
  controlOverrides := ∅
  controls := ∅

/-- What the runner reads of either file. -/
def webFile : EvidenceFile where
  schemaVersion := 1
  hostname := "web"
  collectedAt := 1779105600000000000
  controls := [⟨"access-control", false, (∅ : Table String (List String)).insert "nis2" ["21.i"],
    none, none⟩]

/-- The key of the host is read whatever the file and its signature are. -/
theorem resolveHostPubkey_webEnv (evidence : Bytes) (sigB64 : String) :
    resolveHostPubkey webHooks (webEnv evidence sigB64) = .ok webPubkey := by
  have hblob : webHooks.base64Decode
      "AAAAC3NzaC1lZDI1NTE5AAAAINdamAGCsQq31Uv+08lkBzoO4XLz2qYjJa8CGmj3B1Ea" =
      .ok ([0, 0, 0, 11] ++ sshEd25519 ++ [0, 0, 0, 32] ++ webPubkey) := by simp [webHooks]
  have hword : (splitWhitespace webHostKeyLine)[1]? =
      some "AAAAC3NzaC1lZDI1NTE5AAAAINdamAGCsQq31Uv+08lkBzoO4XLz2qYjJa8CGmj3B1Ea" := by
    decide +kernel
  unfold resolveHostPubkey webEnv
  dsimp only [Except.mapError, bind, Except.bind]
  rw [hword]
  dsimp only
  rw [hblob]
  rfl

/-- What is read of a file and a signature that decodes. -/
theorem readSigned_webEnv {evidence sig : Bytes} {sigB64 : String} (mode : String)
    (hsig : webHooks.base64Decode (trim (sigB64 ++ "\n")) = .ok sig) (hlength : sig.length = 64) :
    readSigned webHooks (webEnv evidence sigB64) (nis2Decl mode) =
      .ok ⟨evidence, webPubkey, sig⟩ := by
  have hkey : webHooks.verifyingKeyFromBytes webPubkey = .ok () := by simp [webHooks]
  unfold readSigned
  rw [resolveHostPubkey_webEnv]
  unfold webEnv
  dsimp only [Except.mapError, bind, Except.bind]
  rw [hkey]
  dsimp only
  rw [hsig]
  exact if_neg (not_not.mpr hlength)

theorem readSigned_knownFields (mode : String) :
    readSigned webHooks (webEnv knownFieldsText knownFieldsSigB64) (nis2Decl mode) =
      .ok ⟨knownFieldsText, webPubkey, knownFieldsSig⟩ :=
  readSigned_webEnv mode (by decide +kernel) rfl

/-- The file without further fields is accepted. -/
theorem verifiedEvidence_knownFields (mode : String) :
    verifiedEvidence webHooks (webEnv knownFieldsText knownFieldsSigB64) (nis2Decl mode) =
      .ok webFile := by
  have hjson : webHooks.jsonFromSlice knownFieldsText = .ok knownFields := by simp [webHooks]
  have hparsed : EvidenceFile.ofJson webHooks.deserializeTime knownFields = some webFile := rfl
  have hcanonical : webHooks.canonicalize (webFile.toJson webHooks.serializeTime) =
      .ok knownFieldsText := rfl
  have hverify : webHooks.verify webPubkey knownFieldsText knownFieldsSig = true := by
    simp [webHooks]
  rw [verifiedEvidence_of_read rfl (readSigned_knownFields mode) hjson hparsed hcanonical,
    if_neg (not_not.mpr hverify)]
  exact if_neg (by decide)

end Nixfleet
