import Mathlib.Algebra.Ring.Nat
import Nixfleet.ControlPlane.Db
import Nixfleet.Lib.Except
import Nixfleet.Lib.Json
import Nixfleet.Lib.Sql

set_option autoImplicit false

/-!
# The rows of host records

`db/host_rollout_records.rs`: a record is a row of 22 columns, with times in RFC 3339, enumerations
by name, the probes as a JSON text and the event number, a `u64`, as a signed integer. What an upsert
stores is loaded again (`upsert_load`), and `Db.upsertRecord` is what it does to the records
(`RecordTable.Holds.upsert`).
-/

namespace Nixfleet

/-! ## Columns -/

inductive RecordColumn where
  | rolloutId
  | hostname
  | channel
  | state
  | targetClosure
  | currentClosureAtDispatch
  | currentClosure
  | revertedTo
  | dispatchedAt
  | dispatchAckedAt
  | activationStartedAt
  | activationCompletedAt
  | activationFailedAt
  | probeObservedFirstAt
  | probeFailureFirstAt
  | soakDueAt
  | convergedAt
  | failedAt
  | policyApplied
  | revertedAt
  | probesJson
  | lastEventSeq
deriving DecidableEq, Repr

/-- The columns of the `INSERT`. -/
def insertColumns : List RecordColumn :=
  [.rolloutId, .hostname, .channel, .state,
   .targetClosure, .currentClosureAtDispatch, .currentClosure, .revertedTo,
   .dispatchedAt, .dispatchAckedAt, .activationStartedAt,
   .activationCompletedAt, .activationFailedAt,
   .probeObservedFirstAt, .probeFailureFirstAt,
   .soakDueAt, .convergedAt, .failedAt, .policyApplied,
   .revertedAt, .probesJson, .lastEventSeq]

/-- The columns of `DO UPDATE SET`. -/
def updateColumns : List RecordColumn :=
  [.channel, .state, .targetClosure, .currentClosureAtDispatch, .currentClosure, .revertedTo,
   .dispatchedAt, .dispatchAckedAt, .activationStartedAt, .activationCompletedAt,
   .activationFailedAt, .probeObservedFirstAt, .probeFailureFirstAt, .soakDueAt, .convergedAt,
   .failedAt, .policyApplied, .revertedAt, .probesJson, .lastEventSeq]

/-- The columns of the `SELECT`. -/
def selectColumns : List RecordColumn :=
  [.rolloutId, .hostname, .channel, .state, .targetClosure,
   .currentClosureAtDispatch, .currentClosure, .revertedTo,
   .dispatchedAt, .dispatchAckedAt, .activationStartedAt,
   .activationCompletedAt, .activationFailedAt,
   .probeObservedFirstAt, .probeFailureFirstAt,
   .soakDueAt, .convergedAt, .failedAt, .policyApplied,
   .revertedAt, .probesJson, .lastEventSeq]

/-- The columns declared `NOT NULL`. -/
def notNullColumns : List RecordColumn :=
  [.rolloutId, .hostname, .channel, .state, .targetClosure, .dispatchedAt, .probesJson,
   .lastEventSeq]

/-- `host_rollout_records`. -/
def recordSchema : Sql.Schema RecordColumn where
  key := [.rolloutId, .hostname]
  check := fun row =>
    notNullColumns.all (fun c => row c ≠ .null) &&
    ["Pending", "Activating", "Deferred", "Soaking", "Converged", "Failed", "Reverted"].any
      (fun s => row .state = .text s) &&
    (row .policyApplied = .null || row .policyApplied = .text "halt" ||
      row .policyApplied = .text "rollback-and-halt")

abbrev RecordTable := Sql.Relation recordSchema

/-! ## Values -/

/-- Third-party code: RFC 3339 in `chrono` and in its serde half, and the text of JSON. -/
structure RecordCodec where
  toRfc3339 : Time → String
  parseFromRfc3339 : String → Except String Time
  serializeTime : Time → String
  deserializeTime : String → Option Time
  jsonToString : Json → String
  jsonFromStr : String → Option Json
  /-- What `serde_json` says of a text that it cannot read. -/
  jsonError : String → String

/-- `state_to_db`. -/
def stateToDb : HostState → String
  | .pending => "Pending"
  | .activating => "Activating"
  | .deferred => "Deferred"
  | .soaking => "Soaking"
  | .converged => "Converged"
  | .failed => "Failed"
  | .reverted => "Reverted"

/-- `state_from_db`. -/
def stateFromDb (s : String) : Except String HostState :=
  match s with
  | "Pending" => .ok .pending
  | "Activating" => .ok .activating
  | "Deferred" => .ok .deferred
  | "Soaking" => .ok .soaking
  | "Converged" => .ok .converged
  | "Failed" => .ok .failed
  | "Reverted" => .ok .reverted
  | other => .error other

/-- `policy_to_db`. -/
def policyToDb : OnHealthFailure → String
  | .halt => "halt"
  | .rollbackAndHalt => "rollback-and-halt"

/-- `policy_from_db`. -/
def policyFromDb (s : String) : Except String OnHealthFailure :=
  match s with
  | "halt" => .ok .halt
  | "rollback-and-halt" => .ok .rollbackAndHalt
  | other => .error other

/-- `as i64` of a `u64`. -/
def asI64 (n : Nat) : Int := (BitVec.ofNat 64 n).toInt

/-- `as u64` of an `i64`. -/
def asU64 (i : Int) : Nat := (BitVec.ofInt 64 i).toNat

@[simp] theorem stateFromDb_stateToDb (s : HostState) : stateFromDb (stateToDb s) = .ok s := by
  cases s <;> rfl

@[simp] theorem policyFromDb_policyToDb (p : OnHealthFailure) :
    policyFromDb (policyToDb p) = .ok p := by
  cases p <;> rfl

/-- The two casts undo each other, also where the signed value is negative. -/
theorem asU64_asI64 {n : Nat} (h : n < 2 ^ 64) : asU64 (asI64 n) = n := by
  rw [asU64, asI64, BitVec.ofInt_toInt, BitVec.toNat_ofNat, Nat.mod_eq_of_lt h]

/-! ## Probes -/

def ProbeStatus.toJson : ProbeStatus → Json
  | .pass => .str "pass"
  | .fail => .str "fail"

def ProbeStatus.ofJson : Json → Option ProbeStatus
  | .str "pass" => some .pass
  | .str "fail" => some .fail
  | _ => none

def ProbeMode.toJson : ProbeMode → Json
  | .enforce => .str "enforce"
  | .observe => .str "observe"
  | .disabled => .str "disabled"

def ProbeMode.ofJson : Json → Option ProbeMode
  | .str "enforce" => some .enforce
  | .str "observe" => some .observe
  | .str "disabled" => some .disabled
  | _ => none

def RecordCodec.timeToJson (codec : RecordCodec) (t : Time) : Json := .str (codec.serializeTime t)

def RecordCodec.timeOfJson (codec : RecordCodec) (json : Json) : Option Time :=
  json.asStr.bind codec.deserializeTime

/-- What `derive(Serialize)` writes for a `ProbeRecord`. -/
def ProbeRecord.toJson (codec : RecordCodec) (p : ProbeRecord) : Json :=
  .obj [("status", p.status.toJson), ("mode", p.mode.toJson),
    ("last_observed_at", codec.timeToJson p.lastObservedAt),
    ("last_pass_at", Json.ofOption codec.timeToJson p.lastPassAt),
    ("failure_reason", Json.ofOption .str p.failureReason)]

/-- What `derive(Deserialize)` reads of it. A missing mode is `enforce`. -/
def ProbeRecord.ofJson (codec : RecordCodec) : Json → Option ProbeRecord
  | .obj fields => do
      let status ← Json.field ProbeStatus.ofJson fields "status"
      let mode ← Json.fieldOr .enforce ProbeMode.ofJson fields "mode"
      let lastObservedAt ← Json.field codec.timeOfJson fields "last_observed_at"
      let lastPassAt ← Json.fieldOr none (Json.asOption codec.timeOfJson) fields "last_pass_at"
      let failureReason ← Json.fieldOr none (Json.asOption Json.asStr) fields "failure_reason"
      some ⟨status, mode, lastObservedAt, lastPassAt, failureReason⟩
  | _ => none

/-- The probes as an object, in the order in which the hasher lists them. -/
def probesToJson (codec : RecordCodec) (order : String → Nat) (probes : Table String ProbeRecord) :
    Json :=
  .obj ((iterBy order probes.rows).map fun p => (p.1, p.2.toJson codec))

/-- The map is filled field by field. -/
def probesOfJson (codec : RecordCodec) : Json → Option (Table String ProbeRecord)
  | .obj fields => fields.foldlM
      (fun probes p => (ProbeRecord.ofJson codec p.2).map fun record => probes.insert p.1 record) ∅
  | _ => none

/-- The times of a probe. -/
def ProbeRecord.times (p : ProbeRecord) : List Time := p.lastObservedAt :: p.lastPassAt.toList

section Probes

variable {codec : RecordCodec}

theorem ProbeStatus.ofJson_toJson (s : ProbeStatus) : ProbeStatus.ofJson s.toJson = some s := by
  cases s <;> rfl

theorem ProbeMode.ofJson_toJson (m : ProbeMode) : ProbeMode.ofJson m.toJson = some m := by
  cases m <;> rfl

theorem timeOfJson_timeToJson {t : Time}
    (h : codec.deserializeTime (codec.serializeTime t) = some t) :
    codec.timeOfJson (codec.timeToJson t) = some t := h

/-- A probe whose times are read back is read back. -/
theorem ProbeRecord.ofJson_toJson {p : ProbeRecord}
    (h : ∀ t ∈ p.times, codec.deserializeTime (codec.serializeTime t) = some t) :
    ProbeRecord.ofJson codec (p.toJson codec) = some p := by
  have hobserved := timeOfJson_timeToJson (h p.lastObservedAt List.mem_cons_self)
  have hpass : Json.asOption codec.timeOfJson (Json.ofOption codec.timeToJson p.lastPassAt) =
      some p.lastPassAt := by
    cases hlast : p.lastPassAt with
    | none => rfl
    | some t =>
        have ht := timeOfJson_timeToJson (h t (by simp [ProbeRecord.times, hlast]))
        show (codec.timeOfJson (codec.timeToJson t)).map some = some (some t)
        rw [ht, Option.map_some]
  have hreason : Json.asOption Json.asStr (Json.ofOption .str p.failureReason) =
      some p.failureReason :=
    Json.inverts_str.option (fun _ => by simp) p.failureReason
  simp [ProbeRecord.ofJson, ProbeRecord.toJson, Json.field_cons_of_ne, Json.field_cons_self,
    Json.fieldOr_cons_of_ne, Json.fieldOr_cons_self, ProbeStatus.ofJson_toJson,
    ProbeMode.ofJson_toJson, hobserved, hpass, hreason]

/-- Reading the fields back fills the map with the probes they were written from. -/
theorem foldlM_ofJson {entries : List (String × ProbeRecord)}
    (h : ∀ p ∈ entries, ProbeRecord.ofJson codec (p.2.toJson codec) = some p.2)
    (probes : Table String ProbeRecord) :
    (entries.map fun p => (p.1, p.2.toJson codec)).foldlM
        (fun probes p => (ProbeRecord.ofJson codec p.2).map fun record => probes.insert p.1 record)
        probes =
      some (entries.foldl (fun probes p => probes.insert p.1 p.2) probes) := by
  induction entries generalizing probes with
  | nil => rfl
  | cons p entries ih =>
      rw [List.map_cons, List.foldlM_cons, h p List.mem_cons_self]
      exact ih (fun q hq => h q (List.mem_cons_of_mem _ hq)) (probes.insert p.1 p.2)

/-- **The probes come back**, whatever order they were written in. -/
theorem probesOfJson_probesToJson {probes : Table String ProbeRecord} (order : String → Nat)
    (h : ∀ p ∈ probes.rows, ∀ t ∈ p.2.times,
      codec.deserializeTime (codec.serializeTime t) = some t) :
    ∃ probes', probesOfJson codec (probesToJson codec order probes) = some probes' ∧
      ∀ name, probes'.lookup name = probes.lookup name := by
  have hread : ∀ p ∈ iterBy order probes.rows,
      ProbeRecord.ofJson codec (p.2.toJson codec) = some p.2 :=
    fun p hp => ProbeRecord.ofJson_toJson (h p (mem_iterBy.mp hp))
  exact ⟨_, foldlM_ofJson hread ∅, Table.lookup_foldl_insert_rows (iterBy_perm order probes.rows)⟩

end Probes

/-! ## Writing a row -/

def optText : Option String → Sql.Value
  | none => .null
  | some s => .text s

/-- The parameters of the upsert. -/
def upsertParams (codec : RecordCodec) (order : String → Nat) (s : HostRolloutState) :
    List Sql.Value :=
  let optTime (t : Option Time) : Sql.Value := optText (t.map codec.toRfc3339)
  [.text s.rolloutId.asStr,
   .text s.hostname,
   .text s.channel,
   .text (stateToDb s.state),
   .text s.targetClosure,
   optText s.currentClosureAtDispatch,
   optText s.currentClosure,
   optText s.revertedTo,
   .text (codec.toRfc3339 s.dispatchedAt),
   optTime s.dispatchAckedAt,
   optTime s.activationStartedAt,
   optTime s.activationCompletedAt,
   optTime s.activationFailedAt,
   optTime s.probeObservedFirstAt,
   optTime s.probeFailureFirstAt,
   optTime s.soakDueAt,
   optTime s.convergedAt,
   optTime s.failedAt,
   optText (s.policyApplied.map policyToDb),
   optTime s.revertedAt,
   .text (codec.jsonToString (probesToJson codec order s.probes)),
   .integer (asI64 s.lastEventSeq)]

/-- `upsert_inner`; `none` when the statement fails. -/
def upsertInner (codec : RecordCodec) (order : String → Nat) (t : RecordTable)
    (s : HostRolloutState) : Option RecordTable :=
  t.upsert updateColumns (Sql.rowOf insertColumns (upsertParams codec order s))

/-! ## Reading a row -/

/-- The errors of `rusqlite` for a column. -/
inductive LoadError where
  | invalidColumnIndex (idx : Nat)
  | invalidColumnType (idx : Nat)
  | fromSqlConversionFailure (idx : Nat) (reason : String)
deriving DecidableEq, Repr

/-- `row.get::<_, String>`. -/
def getText (row : List Sql.Value) (idx : Nat) : Except LoadError String :=
  match row[idx]? with
  | none => .error (.invalidColumnIndex idx)
  | some (.text s) => .ok s
  | some _ => .error (.invalidColumnType idx)

/-- `row.get::<_, Option<String>>`. -/
def getOptText (row : List Sql.Value) (idx : Nat) : Except LoadError (Option String) :=
  match row[idx]? with
  | none => .error (.invalidColumnIndex idx)
  | some .null => .ok none
  | some (.text s) => .ok (some s)
  | some _ => .error (.invalidColumnType idx)

/-- `row.get::<_, i64>`. -/
def getInteger (row : List Sql.Value) (idx : Nat) : Except LoadError Int :=
  match row[idx]? with
  | none => .error (.invalidColumnIndex idx)
  | some (.integer n) => .ok n
  | some _ => .error (.invalidColumnType idx)

/-- `parse_rfc3339_required`. -/
def parseRfc3339Required (codec : RecordCodec) (row : List Sql.Value) (idx : Nat) (field : String) :
    Except LoadError Time := do
  let s ← getText row idx
  match codec.parseFromRfc3339 s with
  | .ok t => .ok t
  | .error e => .error (.fromSqlConversionFailure idx ("parse " ++ field ++ ": " ++ e))

/-- `parse_rfc3339_optional`. -/
def parseRfc3339Optional (codec : RecordCodec) (row : List Sql.Value) (idx : Nat) :
    Except LoadError (Option Time) := do
  match ← getOptText row idx with
  | none => .ok none
  | some s =>
      match codec.parseFromRfc3339 s with
      | .ok t => .ok (some t)
      | .error e => .error (.fromSqlConversionFailure idx ("parse rfc3339: " ++ e))

/-- The state column. -/
def stateColumn (row : List Sql.Value) : Except LoadError HostState := do
  let s ← getText row 3
  match stateFromDb s with
  | .ok state => .ok state
  | .error e => .error (.fromSqlConversionFailure 3 ("unknown state: " ++ e))

/-- The policy column. -/
def policyColumn (row : List Sql.Value) : Except LoadError (Option OnHealthFailure) := do
  match ← getOptText row 18 with
  | none => .ok none
  | some s =>
      match policyFromDb s with
      | .ok policy => .ok (some policy)
      | .error e => .error (.fromSqlConversionFailure 18 ("unknown policy_applied: " ++ e))

/-- The probes column. -/
def probesColumn (codec : RecordCodec) (row : List Sql.Value) :
    Except LoadError (Table String ProbeRecord) := do
  let probesJson ← getText row 20
  match (codec.jsonFromStr probesJson).bind (probesOfJson codec) with
  | some probes => .ok probes
  | none => .error (.fromSqlConversionFailure 20 (codec.jsonError probesJson))

/-- `row_to_state`. -/
def rowToState (codec : RecordCodec) (row : List Sql.Value) :
    Except LoadError HostRolloutState := do
  let probes ← probesColumn codec row
  let rolloutId ← getText row 0
  let hostname ← getText row 1
  let channel ← getText row 2
  let state ← stateColumn row
  let targetClosure ← getText row 4
  let currentClosureAtDispatch ← getOptText row 5
  let currentClosure ← getOptText row 6
  let revertedTo ← getOptText row 7
  let dispatchedAt ← parseRfc3339Required codec row 8 "dispatched_at"
  let dispatchAckedAt ← parseRfc3339Optional codec row 9
  let activationStartedAt ← parseRfc3339Optional codec row 10
  let activationCompletedAt ← parseRfc3339Optional codec row 11
  let activationFailedAt ← parseRfc3339Optional codec row 12
  let probeObservedFirstAt ← parseRfc3339Optional codec row 13
  let probeFailureFirstAt ← parseRfc3339Optional codec row 14
  let soakDueAt ← parseRfc3339Optional codec row 15
  let convergedAt ← parseRfc3339Optional codec row 16
  let failedAt ← parseRfc3339Optional codec row 17
  let policyApplied ← policyColumn row
  let revertedAt ← parseRfc3339Optional codec row 19
  let lastEventSeq ← getInteger row 21
  .ok {
    rolloutId := ⟨rolloutId⟩
    hostname, channel, state, targetClosure, currentClosureAtDispatch, currentClosure, revertedTo
    dispatchedAt, dispatchAckedAt, activationStartedAt, activationCompletedAt, activationFailedAt
    probeObservedFirstAt, probeFailureFirstAt, soakDueAt, convergedAt, failedAt, policyApplied
    revertedAt, probes
    lastEventSeq := asU64 lastEventSeq }

/-- `load_inner`. -/
def loadInner (codec : RecordCodec) (t : RecordTable) (rolloutId : RolloutId) (hostname : HostId) :
    Except LoadError (Option HostRolloutState) :=
  match t.rows.lookup [.text rolloutId.asStr, .text hostname] with
  | none => .ok none
  | some row => (rowToState codec (selectColumns.map row)).map some

/-! ## Reading back -/

/-- The times of a record that may be absent. -/
def HostRolloutState.optionalTimes (s : HostRolloutState) : List (Option Time) :=
  [s.dispatchAckedAt, s.activationStartedAt, s.activationCompletedAt, s.activationFailedAt,
   s.probeObservedFirstAt, s.probeFailureFirstAt, s.soakDueAt, s.convergedAt, s.failedAt,
   s.revertedAt]

/-- The times in a record's own columns. -/
def HostRolloutState.times (s : HostRolloutState) : List Time :=
  s.dispatchedAt :: s.optionalTimes.flatMap Option.toList

/-- What is assumed of the third-party code: it reads back what it writes for the record. -/
structure RecordCodec.RoundTrips (codec : RecordCodec) (order : String → Nat)
    (s : HostRolloutState) : Prop where
  rfc3339 : ∀ t ∈ s.times, codec.parseFromRfc3339 (codec.toRfc3339 t) = .ok t
  serde : ∀ p ∈ s.probes.rows, ∀ t ∈ p.2.times,
    codec.deserializeTime (codec.serializeTime t) = some t
  json : codec.jsonFromStr (codec.jsonToString (probesToJson codec order s.probes)) =
    some (probesToJson codec order s.probes)

/-- The records are equal; their maps are when they have the same entries. -/
structure HostRolloutState.Same (s s' : HostRolloutState) : Prop where
  probes : ∀ name, s.probes.lookup name = s'.probes.lookup name
  fields : { s with probes := ∅ } = { s' with probes := ∅ }

section ReadBack

variable {codec : RecordCodec} {row : List Sql.Value} {idx : Nat}

theorem getOptText_of_optText {o : Option String} (h : row[idx]? = some (optText o)) :
    getOptText row idx = .ok o := by
  cases o <;> simp [getOptText, h, optText]

/-- An optional time is read back. -/
theorem parseRfc3339Optional_eq {t : Option Time}
    (h : row[idx]? = some (optText (t.map codec.toRfc3339)))
    (ht : ∀ u ∈ t, codec.parseFromRfc3339 (codec.toRfc3339 u) = .ok u) :
    parseRfc3339Optional codec row idx = .ok t := by
  rw [parseRfc3339Optional, getOptText_of_optText h]
  cases t with
  | none => rfl
  | some u => simp [ht u rfl, bind, Except.bind]

theorem parseRfc3339Required_eq {t : Time} {field : String}
    (h : row[idx]? = some (.text (codec.toRfc3339 t)))
    (ht : codec.parseFromRfc3339 (codec.toRfc3339 t) = .ok t) :
    parseRfc3339Required codec row idx field = .ok t := by
  simp [parseRfc3339Required, getText, h, ht, bind, Except.bind]

theorem policyColumn_eq {policy : Option OnHealthFailure}
    (h : row[18]? = some (optText (policy.map policyToDb))) : policyColumn row = .ok policy := by
  rw [policyColumn, getOptText_of_optText h]
  cases policy <;> simp [bind, Except.bind]

theorem stateColumn_eq {state : HostState} (h : row[3]? = some (.text (stateToDb state))) :
    stateColumn row = .ok state := by
  simp [stateColumn, getText, h, bind, Except.bind]

/-- **A row is read back** as the record it was written from. -/
theorem rowToState_upsertParams {order : String → Nat} {s : HostRolloutState}
    (h : codec.RoundTrips order s) (hseq : s.lastEventSeq < 2 ^ 64) :
    ∃ s', rowToState codec (upsertParams codec order s) = .ok s' ∧ s'.Same s := by
  obtain ⟨probes, hread, hlookup⟩ := probesOfJson_probesToJson order h.serde
  have hprobes : probesColumn codec (upsertParams codec order s) = .ok probes := by
    simp [probesColumn, getText, upsertParams, h.json, hread, bind, Except.bind]
  have hdispatched : parseRfc3339Required codec (upsertParams codec order s) 8 "dispatched_at" =
      .ok s.dispatchedAt :=
    parseRfc3339Required_eq rfl (h.rfc3339 s.dispatchedAt List.mem_cons_self)
  have htime : ∀ idx t, t ∈ s.optionalTimes →
      (upsertParams codec order s)[idx]? = some (optText (t.map codec.toRfc3339)) →
      parseRfc3339Optional codec (upsertParams codec order s) idx = .ok t := by
    intro idx t ht hcolumn
    refine parseRfc3339Optional_eq hcolumn fun u hu => h.rfc3339 u ?_
    exact List.mem_cons_of_mem _ (List.mem_flatMap.mpr ⟨t, ht, Option.mem_toList.mpr hu⟩)
  have hclosure : ∀ idx o, (upsertParams codec order s)[idx]? = some (optText o) →
      getOptText (upsertParams codec order s) idx = .ok o :=
    fun idx o hcolumn => getOptText_of_optText hcolumn
  have hpolicy : policyColumn (upsertParams codec order s) = .ok s.policyApplied :=
    policyColumn_eq rfl
  have hstate : stateColumn (upsertParams codec order s) = .ok s.state := stateColumn_eq rfl
  have hrid : getText (upsertParams codec order s) 0 = .ok s.rolloutId.asStr := rfl
  have hhost : getText (upsertParams codec order s) 1 = .ok s.hostname := rfl
  have hchannel : getText (upsertParams codec order s) 2 = .ok s.channel := rfl
  have htarget : getText (upsertParams codec order s) 4 = .ok s.targetClosure := rfl
  have hlast : getInteger (upsertParams codec order s) 21 = .ok (asI64 s.lastEventSeq) := rfl
  refine ⟨{ s with probes := probes }, ?_, hlookup, rfl⟩
  unfold rowToState
  refine Except.bind_eq_ok.mpr ⟨_, hprobes, ?_⟩
  refine Except.bind_eq_ok.mpr ⟨_, hrid, ?_⟩
  refine Except.bind_eq_ok.mpr ⟨_, hhost, ?_⟩
  refine Except.bind_eq_ok.mpr ⟨_, hchannel, ?_⟩
  refine Except.bind_eq_ok.mpr ⟨_, hstate, ?_⟩
  refine Except.bind_eq_ok.mpr ⟨_, htarget, ?_⟩
  refine Except.bind_eq_ok.mpr ⟨_, hclosure 5 _ rfl, ?_⟩
  refine Except.bind_eq_ok.mpr ⟨_, hclosure 6 _ rfl, ?_⟩
  refine Except.bind_eq_ok.mpr ⟨_, hclosure 7 _ rfl, ?_⟩
  refine Except.bind_eq_ok.mpr ⟨_, hdispatched, ?_⟩
  refine Except.bind_eq_ok.mpr
    ⟨_, htime 9 s.dispatchAckedAt (by simp [HostRolloutState.optionalTimes]) rfl, ?_⟩
  refine Except.bind_eq_ok.mpr
    ⟨_, htime 10 s.activationStartedAt (by simp [HostRolloutState.optionalTimes]) rfl, ?_⟩
  refine Except.bind_eq_ok.mpr
    ⟨_, htime 11 s.activationCompletedAt (by simp [HostRolloutState.optionalTimes]) rfl, ?_⟩
  refine Except.bind_eq_ok.mpr
    ⟨_, htime 12 s.activationFailedAt (by simp [HostRolloutState.optionalTimes]) rfl, ?_⟩
  refine Except.bind_eq_ok.mpr
    ⟨_, htime 13 s.probeObservedFirstAt (by simp [HostRolloutState.optionalTimes]) rfl, ?_⟩
  refine Except.bind_eq_ok.mpr
    ⟨_, htime 14 s.probeFailureFirstAt (by simp [HostRolloutState.optionalTimes]) rfl, ?_⟩
  refine Except.bind_eq_ok.mpr
    ⟨_, htime 15 s.soakDueAt (by simp [HostRolloutState.optionalTimes]) rfl, ?_⟩
  refine Except.bind_eq_ok.mpr
    ⟨_, htime 16 s.convergedAt (by simp [HostRolloutState.optionalTimes]) rfl, ?_⟩
  refine Except.bind_eq_ok.mpr
    ⟨_, htime 17 s.failedAt (by simp [HostRolloutState.optionalTimes]) rfl, ?_⟩
  refine Except.bind_eq_ok.mpr ⟨_, hpolicy, ?_⟩
  refine Except.bind_eq_ok.mpr
    ⟨_, htime 19 s.revertedAt (by simp [HostRolloutState.optionalTimes]) rfl, ?_⟩
  refine Except.bind_eq_ok.mpr ⟨_, hlast, ?_⟩
  rw [asU64_asI64 hseq]

/-! ## Upsert and load -/

/-- The key of a record's row. -/
def recordKey (rolloutId : RolloutId) (hostname : HostId) : List Sql.Value :=
  [.text rolloutId.asStr, .text hostname]

theorem recordKey_inj {rid rid' : RolloutId} {host host' : HostId} :
    recordKey rid host = recordKey rid' host' ↔ rid = rid' ∧ host = host' := by
  cases rid
  cases rid'
  simp [recordKey]

/-- Every record passes the constraints of the table. -/
theorem check_upsertParams (codec : RecordCodec) (order : String → Nat) (s : HostRolloutState) :
    recordSchema.check (Sql.rowOf insertColumns (upsertParams codec order s)) = true := by
  have hnotNull : notNullColumns.all (fun c =>
      Sql.rowOf insertColumns (upsertParams codec order s) c ≠ .null) = true := rfl
  have hstate : Sql.rowOf insertColumns (upsertParams codec order s) .state =
      .text (stateToDb s.state) := rfl
  have hpolicy : Sql.rowOf insertColumns (upsertParams codec order s) .policyApplied =
      optText (s.policyApplied.map policyToDb) := rfl
  simp only [recordSchema, hnotNull, hstate, hpolicy, Bool.true_and, Bool.and_eq_true]
  constructor
  · cases s.state <;> decide
  · cases s.policyApplied with
    | none => decide
    | some policy => cases policy <;> decide

/-- Every column is updated, or is one of the key. -/
theorem recordSchema_covers (c : RecordColumn) : c ∈ recordSchema.key ∨ c ∈ updateColumns := by
  cases c <;> decide

/-- What an upsert makes of a table. -/
theorem upsertInner_rows (codec : RecordCodec) (order : String → Nat) (t : RecordTable)
    (s : HostRolloutState) :
    ∃ t', upsertInner codec order t s = some t' ∧ ∀ key, t'.rows.lookup key =
      if key = recordKey s.rolloutId s.hostname then
        some (Sql.rowOf insertColumns (upsertParams codec order s)) else t.rows.lookup key :=
  t.upsert_of_covers recordSchema_covers (check_upsertParams codec order s)

/-- **Records round-trip.** What an upsert stores is loaded again, and no other row changes. -/
theorem upsert_load {order : String → Nat} {s : HostRolloutState} (t : RecordTable)
    (h : codec.RoundTrips order s) (hseq : s.lastEventSeq < 2 ^ 64) :
    ∃ t', upsertInner codec order t s = some t' ∧
      (∃ s', loadInner codec t' s.rolloutId s.hostname = .ok (some s') ∧ s'.Same s) ∧
      ∀ key, key ≠ recordKey s.rolloutId s.hostname →
        t'.rows.lookup key = t.rows.lookup key := by
  obtain ⟨t', ht', hrows⟩ := upsertInner_rows codec order t s
  obtain ⟨s', hs', hsame⟩ := rowToState_upsertParams h hseq
  refine ⟨t', ht', ⟨s', ?_, hsame⟩, fun key hkey => by rw [hrows, if_neg hkey]⟩
  have hselect : selectColumns.map (Sql.rowOf insertColumns (upsertParams codec order s)) =
      upsertParams codec order s := Sql.map_rowOf (by decide) rfl
  have hrow := hrows (recordKey s.rolloutId s.hostname)
  rw [if_pos rfl] at hrow
  unfold loadInner
  rw [← recordKey, hrow]
  simp only [hselect, hs', Except.map]

/-- The table holds the records of the database. -/
def RecordTable.Holds (codec : RecordCodec) (t : RecordTable) (db : Db) : Prop :=
  ∀ rid host, ∃ o, loadInner codec t rid host = .ok o ∧
    Option.Rel HostRolloutState.Same o (db.loadRecord rid host)

/-- **Refinement.** On the rows `upsert` does what `Db.upsertRecord` does on the records. -/
theorem RecordTable.Holds.upsert {order : String → Nat} {s : HostRolloutState} {t : RecordTable}
    {db : Db} (hholds : RecordTable.Holds codec t db) (h : codec.RoundTrips order s)
    (hseq : s.lastEventSeq < 2 ^ 64) :
    ∃ t', upsertInner codec order t s = some t' ∧
      RecordTable.Holds codec t' (db.upsertRecord s) := by
  obtain ⟨t', ht', ⟨s', hs', hsame⟩, hother⟩ := upsert_load t h hseq
  refine ⟨t', ht', fun rid host => ?_⟩
  by_cases hkey : rid = s.rolloutId ∧ host = s.hostname
  · obtain ⟨rfl, rfl⟩ := hkey
    refine ⟨some s', hs', ?_⟩
    rw [Db.loadRecord, Db.upsertRecord, AList.lookup_insert]
    exact .some hsame
  · obtain ⟨o, ho, hrel⟩ := hholds rid host
    have hne : (rid, host) ≠ (s.rolloutId, s.hostname) := fun heq => hkey (Prod.mk.inj heq)
    have hrow := hother (recordKey rid host) (fun heq => hkey (recordKey_inj.mp heq))
    refine ⟨o, ?_, ?_⟩
    · unfold loadInner at ho ⊢
      rw [← recordKey] at ho ⊢
      rw [hrow]
      exact ho
    · rw [Db.loadRecord, Db.upsertRecord, AList.lookup_insert_ne hne]
      exact hrel

end ReadBack

/-! ## A record with the last number -/

/-- A failed record, with its probe and the last event number. -/
def failedRecord : HostRolloutState :=
  { HostRolloutState.newPending (.new "stable" "r1") "a" "stable" "new" 0 5 with
    state := .failed
    currentClosureAtDispatch := some "old"
    failedAt := some 5
    policyApplied := some .rollbackAndHalt
    probes := (∅ : Table String ProbeRecord).insert "http" ⟨.fail, .enforce, 5, none, some "503"⟩
    lastEventSeq := 2 ^ 64 - 1 }

/-- The texts of the record. -/
def failedCodec : RecordCodec where
  toRfc3339 := fun t =>
    if t = 0 then "1970-01-01T00:00:00+00:00" else "1970-01-01T00:00:00.000000005+00:00"
  parseFromRfc3339 := fun s =>
    if s = "1970-01-01T00:00:00+00:00" then .ok 0
    else if s = "1970-01-01T00:00:00.000000005+00:00" then .ok 5
    else .error "input contains invalid characters"
  serializeTime := fun _ => "1970-01-01T00:00:00.000000005Z"
  deserializeTime := fun s => if s = "1970-01-01T00:00:00.000000005Z" then some 5 else none
  jsonToString := fun _ =>
    "\x7b\"http\":\x7b\"status\":\"fail\",\"mode\":\"enforce\"," ++
    "\"last_observed_at\":\"1970-01-01T00:00:00.000000005Z\"," ++
    "\"last_pass_at\":null,\"failure_reason\":\"503\"\x7d\x7d"
  jsonFromStr := fun s =>
    if s = "\x7b\"http\":\x7b\"status\":\"fail\",\"mode\":\"enforce\"," ++
        "\"last_observed_at\":\"1970-01-01T00:00:00.000000005Z\"," ++
        "\"last_pass_at\":null,\"failure_reason\":\"503\"\x7d\x7d" then
      some (.obj [("http", .obj [("status", .str "fail"), ("mode", .str "enforce"),
        ("last_observed_at", .str "1970-01-01T00:00:00.000000005Z"), ("last_pass_at", .null),
        ("failure_reason", .str "503")])])
    else none
  jsonError := fun _ => "expected value at line 1 column 1"

theorem failedCodec_roundTrips : failedCodec.RoundTrips (fun _ => 0) failedRecord where
  rfc3339 := by decide
  serde := by decide
  json := by
    simp only [failedCodec, if_true]
    rfl

/-- The record goes into an empty table and comes back. -/
theorem upsert_load_failedRecord :
    ∃ t', upsertInner failedCodec (fun _ => 0) (.empty recordSchema) failedRecord = some t' ∧
      ∃ s', loadInner failedCodec t' (.new "stable" "r1") "a" = .ok (some s') ∧
        s'.Same failedRecord := by
  obtain ⟨t', ht', hload, -⟩ :=
    upsert_load (.empty recordSchema) failedCodec_roundTrips (by decide)
  exact ⟨t', ht', hload⟩

end Nixfleet
