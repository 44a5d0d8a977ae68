import Mathlib.Algebra.Ring.Int.Defs
import Nixfleet.Lib.JsonForm
import Nixfleet.Proto.Fleet

set_option autoImplicit false

/-!
# The evidence file

The typed view of `evidence.json`, and what serde reads and writes for it. An unknown field is
passed over, a map that is missing is empty, and a value that may be missing may also be `null`.
What is written has the known fields only, and the time in the spelling of its printer.
-/

namespace Nixfleet

/-- `SCHEMA_VERSION`. -/
def schemaVersion : Nat := 1

structure EvidenceControlEntry where
  controlId : String
  passed : Bool
  frameworkArticles : Table String (List String)
  details : Option Json
  schema : Option String

structure EvidenceFile where
  schemaVersion : Nat
  hostname : String
  collectedAt : Time
  controls : List EvidenceControlEntry

/-! ## Reading -/

def u32OfJson : Json → Option Nat
  | .num n => if 0 ≤ n ∧ n < 2 ^ 32 then some n.toNat else none
  | _ => none

/-- The articles of a framework. -/
def articlesOfJson (member : String × Json) : Option (String × List String) :=
  (Json.asList Json.asStr member.2).map fun articles => (member.1, articles)

/-- The map is filled member by member. -/
def frameworkArticlesOfJson : Json → Option (Table String (List String))
  | .obj members => (members.mapM articlesOfJson).map
      fun rows => rows.foldl (fun table row => table.insert row.1 row.2) ∅
  | _ => none

/-- What `derive(Deserialize)` reads of an entry. -/
def EvidenceControlEntry.ofJson : Json → Option EvidenceControlEntry
  | .obj fields => do
      let controlId ← Json.field Json.asStr fields "controlId"
      let passed ← Json.field Json.asBool fields "passed"
      let frameworkArticles ←
        Json.fieldOr ∅ frameworkArticlesOfJson fields "frameworkArticles"
      let details ← Json.fieldOr none (Json.asOption some) fields "details"
      let schema ← Json.fieldOr none (Json.asOption Json.asStr) fields "schema"
      some ⟨controlId, passed, frameworkArticles, details, schema⟩
  | _ => none

/-- What `derive(Deserialize)` reads of a file. -/
def EvidenceFile.ofJson (deserializeTime : String → Option Time) : Json → Option EvidenceFile
  | .obj fields => do
      let schemaVersion ← Json.field u32OfJson fields "schemaVersion"
      let hostname ← Json.field Json.asStr fields "hostname"
      let collectedAt ← Json.field (fun v => v.asStr.bind deserializeTime) fields "collectedAt"
      let controls ← Json.field (Json.asList EvidenceControlEntry.ofJson) fields "controls"
      some ⟨schemaVersion, hostname, collectedAt, controls⟩
  | _ => none

/-! ## Writing

The members of an object are written in the order of their names, as the canonical form has them. -/

/-- The rows of a map, by their keys. -/
def rowsByName {β : Type} (t : Table String β) : List (String × β) :=
  t.rows.insertionSort fun a b => a.1 ≤ b.1

def frameworkArticlesToJson (t : Table String (List String)) : Json :=
  .obj ((rowsByName t).map fun row => (row.1, .arr (row.2.map .str)))

/-- What `derive(Serialize)` writes for an entry. -/
def EvidenceControlEntry.fields (e : EvidenceControlEntry) : List (String × Json) :=
  [("controlId", .str e.controlId)] ++ (e.details.map fun v => ("details", v)).toList ++
    [("frameworkArticles", frameworkArticlesToJson e.frameworkArticles)] ++
    [("passed", .bool e.passed)] ++ (e.schema.map fun s => ("schema", .str s)).toList

def EvidenceControlEntry.toJson (e : EvidenceControlEntry) : Json := .obj e.fields

/-- What `derive(Serialize)` writes for a file. -/
def EvidenceFile.fields (serializeTime : Time → String) (f : EvidenceFile) :
    List (String × Json) :=
  [("collectedAt", .str (serializeTime f.collectedAt)),
    ("controls", .arr (f.controls.map EvidenceControlEntry.toJson)),
    ("hostname", .str f.hostname), ("schemaVersion", .num f.schemaVersion)]

def EvidenceFile.toJson (serializeTime : Time → String) (f : EvidenceFile) : Json :=
  .obj (f.fields serializeTime)

/-! ## What is lost

A document comes back as it was iff it has no more than the writer gives it. -/

/-- The entry has the known fields only, its articles among them, and no value as `null`. -/
structure EvidenceControlEntry.Plain (json : Json) : Prop where
  known : ∀ p ∈ json.members,
    p.1 ∈ ["controlId", "details", "frameworkArticles", "passed", "schema"]
  articles : "frameworkArticles" ∈ json.members.map Prod.fst
  details : ("details", Json.null) ∉ json.members
  schema : ("schema", Json.null) ∉ json.members

/-- The file has the known fields only, its time as the printer spells it, and plain entries. -/
structure EvidenceFile.Plain (serializeTime : Time → String)
    (deserializeTime : String → Option Time) (json : Json) : Prop where
  known : ∀ p ∈ json.members, p.1 ∈ ["collectedAt", "controls", "hostname", "schemaVersion"]
  spelled : ∀ s t, ("collectedAt", Json.str s) ∈ json.members → deserializeTime s = some t →
    serializeTime t = s
  controls : ∀ items, ("controls", Json.arr items) ∈ json.members →
    ∀ item ∈ items, EvidenceControlEntry.Plain item

section Entry

variable {json : Json} {e : EvidenceControlEntry}

/-- The rows of a map that was filled in the order of their keys. -/
theorem rowsByName_foldl_insert {β : Type} {rows : List (String × β)}
    (hrows : rows.Pairwise fun p q => p.1 < q.1) :
    rowsByName (rows.foldl (fun (t : Table String β) row => t.insert row.1 row.2) ∅) = rows := by
  have hnodup : (rows.map Prod.fst).Nodup :=
    List.pairwise_map.mpr (hrows.imp fun hlt => hlt.ne)
  refine Json.eq_of_mem_iff ?_ hrows fun row => ?_
  · have hle : (rowsByName (rows.foldl (fun (t : Table String β) row => t.insert row.1 row.2)
        ∅)).Pairwise fun p q => p.1 ≤ q.1 := List.pairwise_insertionSort _ _
    have hne : (rowsByName (rows.foldl (fun (t : Table String β) row => t.insert row.1 row.2)
        ∅)).Pairwise fun p q => p.1 ≠ q.1 :=
      List.pairwise_map.mp (((List.perm_insertionSort _ _).map Prod.fst).nodup_iff.mpr
        (Table.rows_keys_nodup _))
    exact hle.imp₂ (fun _ _ hab hab' => lt_of_le_of_ne hab hab') hne
  · rw [rowsByName, (List.perm_insertionSort _ _).mem_iff]
    exact Table.mem_rows_foldl_insert hnodup

/-- The articles of a sorted object come back. -/
theorem frameworkArticlesOfJson_exact {t : Table String (List String)} (hsorted : json.Sorted)
    (h : frameworkArticlesOfJson json = some t) : json = frameworkArticlesToJson t := by
  cases hsorted with
  | @obj members hnames _ =>
      obtain ⟨rows, hrows, rfl⟩ := Option.map_eq_some_iff.mp h
      have hmembers : members = rows.map fun row => (row.1, .arr (row.2.map .str)) := by
        refine Json.map_eq_of_forall₂ (Json.mapM_eq_some.mp hrows) fun member _ row hrow => ?_
        obtain ⟨articles, harticles, rfl⟩ := Option.map_eq_some_iff.mp hrow
        exact Prod.ext rfl (Json.exact_str.list member.2 articles harticles)
      have hsorted : rows.Pairwise fun p q => p.1 < q.1 := by
        rw [hmembers, List.pairwise_map] at hnames
        exact hnames
      rw [frameworkArticlesToJson, rowsByName_foldl_insert hsorted, hmembers]
  | _ => cases h

/-- What an entry is read from. -/
theorem EvidenceControlEntry.ofJson_eq_some (h : EvidenceControlEntry.ofJson json = some e) :
    ∃ fields, json = .obj fields ∧
      Json.field Json.asStr fields "controlId" = some e.controlId ∧
      Json.field Json.asBool fields "passed" = some e.passed ∧
      Json.fieldOr ∅ frameworkArticlesOfJson fields "frameworkArticles" =
        some e.frameworkArticles ∧
      Json.fieldOr none (Json.asOption some) fields "details" = some e.details ∧
      Json.fieldOr none (Json.asOption Json.asStr) fields "schema" = some e.schema := by
  cases json with
  | obj fields =>
      simp only [EvidenceControlEntry.ofJson, Option.bind_eq_bind, Option.bind_eq_some_iff,
        Option.some.injEq] at h
      obtain ⟨controlId, hid, passed, hpassed, articles, harticles, details, hdetails, schema,
        hschema, rfl⟩ := h
      exact ⟨fields, rfl, hid, hpassed, harticles, hdetails, hschema⟩
  | _ => cases h

/-- **A plain entry comes back.** -/
theorem EvidenceControlEntry.toJson_of_plain (h : EvidenceControlEntry.ofJson json = some e)
    (hsorted : json.Sorted) (hplain : EvidenceControlEntry.Plain json) : json = e.toJson := by
  obtain ⟨fields, rfl, hid, hpassed, harticles, hdetails, hschema⟩ := ofJson_eq_some h
  cases hsorted with
  | obj hnames hvalues =>
  have hframeworks : fields.filter (·.1 = "frameworkArticles") =
      [("frameworkArticles", frameworkArticlesToJson e.frameworkArticles)] := by
    rcases Json.fieldOr_eq_some.mp harticles with ⟨hnone, -⟩ | ⟨value, hfilter, hvalue⟩
    · obtain ⟨p, hp, hname⟩ := List.mem_map.mp hplain.articles
      have hmem : p ∈ fields.filter (·.1 = "frameworkArticles") :=
        List.mem_filter.mpr ⟨hp, decide_eq_true hname⟩
      rw [hnone] at hmem
      cases hmem
    · rw [hfilter, ← frameworkArticlesOfJson_exact
        (hvalues _ (Json.mem_of_filter_eq hfilter)) hvalue]
  have hfields := Json.eq_flatMap_filter hnames (by decide) hplain.known
  rw [EvidenceControlEntry.toJson, hfields, EvidenceControlEntry.fields]
  simp only [List.flatMap_cons, List.flatMap_nil, hframeworks,
    Json.filter_eq_of_field Json.exact_str hid, Json.filter_eq_of_field Json.exact_bool hpassed,
    Json.filter_eq_of_option (fun _ _ hv => Option.some.inj hv) hdetails hplain.details,
    Json.filter_eq_of_option Json.exact_str hschema hplain.schema, List.append_assoc,
    List.append_nil]

/-- **Only a plain entry comes back**, even up to its numbers. -/
theorem EvidenceControlEntry.plain_of_upToNumbers
    (h : EvidenceControlEntry.ofJson json = some e) (hsame : Json.UpToNumbers e.toJson json) :
    EvidenceControlEntry.Plain json := by
  obtain ⟨fields, rfl, -, -, -, hdetails, hschema⟩ := ofJson_eq_some h
  cases hsame with
  | obj hnames _ =>
  have hmem : ∀ name, name ∈ fields.map Prod.fst ↔ name = "controlId" ∨
      (name = "details" ∧ e.details.isSome = true) ∨ name = "frameworkArticles" ∨
      name = "passed" ∨ (name = "schema" ∧ e.schema.isSome = true) := by
    intro name
    rw [← hnames, EvidenceControlEntry.fields]
    cases e.details <;> cases e.schema <;> simp
  constructor
  · intro p hp
    have hname := (hmem p.1).mp (List.mem_map_of_mem hp)
    rcases hname with hname | ⟨hname, -⟩ | hname | hname | ⟨hname, -⟩ <;> simp [hname]
  · exact (hmem _).mpr (by simp)
  · intro hnull
    have hsome := (hmem "details").mp (List.mem_map_of_mem hnull)
    simp [Json.eq_none_of_null hdetails hnull] at hsome
  · intro hnull
    have hsome := (hmem "schema").mp (List.mem_map_of_mem hnull)
    simp [Json.eq_none_of_null hschema hnull] at hsome

end Entry

section File

variable {json : Json} {f : EvidenceFile} {serializeTime : Time → String}
  {deserializeTime : String → Option Time}

theorem u32OfJson_exact : Json.Exact u32OfJson fun n => .num n := by
  intro json n h
  cases json with
  | num i =>
      rw [u32OfJson] at h
      split at h
      · rename_i hrange
        obtain rfl := Option.some.inj h
        exact congrArg Json.num (Int.toNat_of_nonneg hrange.1).symm
      · cases h
  | _ => cases h

/-- What a file is read from. -/
theorem EvidenceFile.ofJson_eq_some (h : EvidenceFile.ofJson deserializeTime json = some f) :
    ∃ fields, json = .obj fields ∧
      Json.field u32OfJson fields "schemaVersion" = some f.schemaVersion ∧
      Json.field Json.asStr fields "hostname" = some f.hostname ∧
      Json.field (fun v => v.asStr.bind deserializeTime) fields "collectedAt" =
        some f.collectedAt ∧
      Json.field (Json.asList EvidenceControlEntry.ofJson) fields "controls" =
        some f.controls := by
  cases json with
  | obj fields =>
      simp only [EvidenceFile.ofJson, Option.bind_eq_bind, Option.bind_eq_some_iff,
        Option.some.injEq] at h
      obtain ⟨version, hversion, hostname, hhost, collectedAt, hcollected, controls, hcontrols,
        rfl⟩ := h
      exact ⟨fields, rfl, hversion, hhost, hcollected, hcontrols⟩
  | _ => cases h

/-- **A plain file comes back.** -/
theorem EvidenceFile.toJson_of_plain (h : EvidenceFile.ofJson deserializeTime json = some f)
    (hsorted : json.Sorted) (hplain : EvidenceFile.Plain serializeTime deserializeTime json) :
    json = f.toJson serializeTime := by
  obtain ⟨fields, rfl, hversion, hhost, hcollected, hcontrols⟩ := ofJson_eq_some h
  cases hsorted with
  | obj hnames hvalues =>
  have htime : fields.filter (·.1 = "collectedAt") =
      [("collectedAt", .str (serializeTime f.collectedAt))] := by
    obtain ⟨value, hfilter, hvalue⟩ := Json.field_eq_some.mp hcollected
    obtain ⟨s, hs, hparsed⟩ := Option.bind_eq_some_iff.mp hvalue
    have hstr := Json.exact_str value s hs
    subst hstr
    rw [hfilter, hplain.spelled s _ (Json.mem_of_filter_eq hfilter) hparsed]
  have hentries : fields.filter (·.1 = "controls") =
      [("controls", .arr (f.controls.map EvidenceControlEntry.toJson))] := by
    obtain ⟨value, hfilter, hvalue⟩ := Json.field_eq_some.mp hcontrols
    obtain ⟨items, rfl, hitems⟩ := Json.asList_eq_some.mp hvalue
    have hmem := Json.mem_of_filter_eq hfilter
    have hback : items = f.controls.map EvidenceControlEntry.toJson := by
      refine Json.map_eq_of_forall₂ hitems fun item hitem e he => ?_
      have hsorted : item.Sorted := by
        cases hvalues _ hmem with
        | arr hall => exact hall item hitem
      exact EvidenceControlEntry.toJson_of_plain he hsorted (hplain.controls items hmem item hitem)
    rw [hfilter, hback]
  have hfields := Json.eq_flatMap_filter hnames (by decide) hplain.known
  rw [EvidenceFile.toJson, hfields, EvidenceFile.fields]
  simp only [List.flatMap_cons, List.flatMap_nil, htime, hentries,
    Json.filter_eq_of_field Json.exact_str hhost, Json.filter_eq_of_field u32OfJson_exact hversion,
    List.cons_append, List.nil_append]

/-- Entries that come back up to their numbers are plain. -/
theorem EvidenceControlEntry.plain_of_forall₂ {items : List Json}
    {es : List EvidenceControlEntry}
    (h : List.Forall₂ (fun item e => EvidenceControlEntry.ofJson item = some e) items es)
    (hsame : List.Forall₂ Json.UpToNumbers (es.map EvidenceControlEntry.toJson) items) :
    ∀ item ∈ items, EvidenceControlEntry.Plain item := by
  induction h with
  | nil => simp
  | cons he _ ih =>
      obtain ⟨hfirst, hrest⟩ := List.forall₂_cons.mp hsame
      intro item hitem
      rcases List.mem_cons.mp hitem with rfl | hitem
      · exact plain_of_upToNumbers he hfirst
      · exact ih hrest item hitem

/-- **Only a plain file comes back**, even up to its numbers. -/
theorem EvidenceFile.plain_of_upToNumbers (h : EvidenceFile.ofJson deserializeTime json = some f)
    (hsame : Json.UpToNumbers (f.toJson serializeTime) json) :
    EvidenceFile.Plain serializeTime deserializeTime json := by
  obtain ⟨fields, rfl, -, -, hcollected, hcontrols⟩ := ofJson_eq_some h
  rw [EvidenceFile.toJson] at hsame
  constructor
  · intro p hp
    obtain ⟨value, hvalue, -⟩ := hsame.exists_of_mem hp
    simp only [EvidenceFile.fields, List.mem_cons, Prod.mk.injEq, List.not_mem_nil, or_false]
      at hvalue
    rcases hvalue with ⟨hname, -⟩ | ⟨hname, -⟩ | ⟨hname, -⟩ | ⟨hname, -⟩ <;> simp [hname]
  · intro s t hs ht
    obtain ⟨value, hvalue, hvalues⟩ := hsame.exists_of_mem hs
    obtain rfl : value = .str (serializeTime f.collectedAt) := by
      simpa [EvidenceFile.fields] using hvalue
    obtain ⟨given, hfilter, hgiven⟩ := Json.field_eq_some.mp hcollected
    rw [← Json.eq_of_filter_eq hfilter hs] at hgiven
    have hread : deserializeTime s = some f.collectedAt := hgiven
    obtain rfl : f.collectedAt = t := Option.some.inj (hread.symm.trans ht)
    cases hvalues
    rfl
  · intro items hitems
    obtain ⟨value, hvalue, hvalues⟩ := hsame.exists_of_mem hitems
    obtain rfl : value = .arr (f.controls.map EvidenceControlEntry.toJson) := by
      simpa [EvidenceFile.fields] using hvalue
    obtain ⟨given, hfilter, hgiven⟩ := Json.field_eq_some.mp hcontrols
    rw [← Json.eq_of_filter_eq hfilter hitems] at hgiven
    obtain ⟨items', heq, hread⟩ := Json.asList_eq_some.mp hgiven
    obtain rfl := Json.arr.inj heq
    cases hvalues with
    | arr hrest => exact EvidenceControlEntry.plain_of_forall₂ hread hrest

end File

end Nixfleet
