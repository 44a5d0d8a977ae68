import Nixfleet.Lib.Table

set_option autoImplicit false

/-!
# Rows and upserts of SQL

A row has a value in every column. A `Relation` keeps rows that pass the constraints of its schema
under their primary keys. `upsert` is `INSERT … ON CONFLICT (key) DO UPDATE SET c = excluded.c, …`:
of a row that is there already, only the listed columns change. A list that names every column
outside the key stores the new row as it is given (`upsert_of_covers`).
-/

namespace Sql

inductive Value where
  | null
  | integer (n : Int)
  | text (s : String)
deriving DecidableEq, Repr

variable {κ : Type*}

abbrev Row (κ : Type*) := κ → Value

/-- The primary key, and the other constraints on a row. -/
structure Schema (κ : Type*) where
  key : List κ
  check : Row κ → Bool

def Schema.keyOf (schema : Schema κ) (row : Row κ) : List Value := schema.key.map row

/-- A table of a schema. -/
structure Relation (schema : Schema κ) where
  rows : Table (List Value) (Row κ)
  keyed : ∀ key row, rows.lookup key = some row → schema.keyOf row = key
  checked : ∀ key row, rows.lookup key = some row → schema.check row = true

/-- A table without rows. -/
def Relation.empty (schema : Schema κ) : Relation schema where
  rows := ∅
  keyed := by simp
  checked := by simp

section Statements

variable [DecidableEq κ]

/-- The row that gives these values to these columns. -/
def rowOf (columns : List κ) (values : List Value) : Row κ :=
  fun c => ((columns.zip values).lookup c).getD .null

/-- `SET c = excluded.c` for the listed columns. -/
def overwrite (update : List κ) (old excluded : Row κ) : Row κ :=
  fun c => if c ∈ update then excluded c else old c

variable {schema : Schema κ}

theorem keyOf_overwrite {update : List κ} {old excluded : Row κ}
    (h : schema.keyOf old = schema.keyOf excluded) :
    schema.keyOf (overwrite update old excluded) = schema.keyOf excluded := by
  refine List.map_congr_left fun c hc => ?_
  have hsame : old c = excluded c := List.map_inj_left.mp h c hc
  unfold overwrite
  split
  · rfl
  · exact hsame

/-- The row that an upsert stores. -/
def Relation.resolve (t : Relation schema) (update : List κ) (excluded : Row κ) : Row κ :=
  match t.rows.lookup (schema.keyOf excluded) with
  | none => excluded
  | some old => overwrite update old excluded

theorem Relation.keyOf_resolve (t : Relation schema) (update : List κ) (excluded : Row κ) :
    schema.keyOf (t.resolve update excluded) = schema.keyOf excluded := by
  unfold Relation.resolve
  split
  · rfl
  · rename_i old hold
    exact keyOf_overwrite (t.keyed _ _ hold)

/-- The statement; `none` when a constraint fails. -/
def Relation.upsert (t : Relation schema) (update : List κ) (excluded : Row κ) :
    Option (Relation schema) :=
  if h : schema.check (t.resolve update excluded) = true then
    some {
      rows := t.rows.insert (schema.keyOf excluded) (t.resolve update excluded)
      keyed := by
        intro key row hrow
        rw [Table.lookup_insert_eq] at hrow
        split at hrow
        · rename_i hkey
          cases hrow
          rw [hkey, t.keyOf_resolve]
        · exact t.keyed _ _ hrow
      checked := by
        intro key row hrow
        rw [Table.lookup_insert_eq] at hrow
        split at hrow
        · cases hrow
          exact h
        · exact t.checked _ _ hrow }
  else none

/-- **Upserts.** When the listed columns and those of the key are all there are, a row that passes
the constraints is stored as it is, and no other row changes. -/
theorem Relation.upsert_of_covers (t : Relation schema) {update : List κ} {excluded : Row κ}
    (hcover : ∀ c, c ∈ schema.key ∨ c ∈ update) (hcheck : schema.check excluded = true) :
    ∃ t', t.upsert update excluded = some t' ∧ ∀ key, t'.rows.lookup key =
      if key = schema.keyOf excluded then some excluded else t.rows.lookup key := by
  have hrow : t.resolve update excluded = excluded := by
    unfold Relation.resolve
    split
    · rfl
    · rename_i old hold
      funext c
      have hkey := t.keyed _ _ hold
      unfold overwrite
      rcases hcover c with hc | hc
      · split
        · rfl
        · exact List.map_inj_left.mp hkey c hc
      · rw [if_pos hc]
  unfold Relation.upsert
  rw [dif_pos (by rw [hrow]; exact hcheck)]
  refine ⟨_, rfl, fun key => ?_⟩
  dsimp only
  rw [Table.lookup_insert_eq, hrow]

/-- Selecting the columns of a row in the order they were given gives back the values. -/
theorem map_rowOf {columns : List κ} {values : List Value} (hnodup : columns.Nodup)
    (hlen : columns.length = values.length) : columns.map (rowOf columns values) = values := by
  induction columns generalizing values with
  | nil => exact (List.length_eq_zero_iff.mp hlen.symm).symm
  | cons c columns ih =>
      cases values with
      | nil => cases hlen
      | cons v values =>
          obtain ⟨hnew, hnodup⟩ := List.nodup_cons.mp hnodup
          have hrest : columns.map (rowOf (c :: columns) (v :: values)) =
              columns.map (rowOf columns values) := by
            refine List.map_congr_left fun d hd => ?_
            have hne : (d == c) = false := by
              rw [beq_eq_false_iff_ne]
              rintro rfl
              exact hnew hd
            simp only [rowOf, List.zip_cons_cons, List.lookup_cons, hne]
          rw [List.map_cons, hrest, ih hnodup (Nat.succ.inj hlen)]
          simp [rowOf]

end Statements

end Sql
