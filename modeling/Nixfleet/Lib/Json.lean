import Mathlib.Data.List.Basic

set_option autoImplicit false

/-!
# JSON values and the decoders of records

A JSON value is a tree; a number that is no integer is a binary64. A record is decoded field by
field: a field has a default for when it is missing, and a field that no decoder asks for is passed
over in silence (`fieldOr_cons_of_ne`). `Inverts` says that a decoder reads back what an encoder
writes.
-/

inductive Json where
  | null
  | bool (b : Bool)
  | num (n : Int)
  | float (bits : UInt64)
  | str (s : String)
  | arr (items : List Json)
  | obj (fields : List (String × Json))

namespace Json

variable {α : Type*}

def asBool : Json → Option Bool
  | .bool b => some b
  | _ => none

def asStr : Json → Option String
  | .str s => some s
  | _ => none

/-- A list, with a decoder for its items. -/
def asList (decode : Json → Option α) : Json → Option (List α)
  | .arr items => items.mapM decode
  | _ => none

/-- `null`, or a value. -/
def asOption (decode : Json → Option α) : Json → Option (Option α)
  | .null => some none
  | json => (decode json).map some

/-- The encoding that `asOption` reads. -/
def ofOption (encode : α → Json) : Option α → Json
  | none => .null
  | some a => encode a

/-- A field of a record. It may be missing, but not be given twice. -/
def fieldOr (fallback : α) (decode : Json → Option α) (fields : List (String × Json))
    (name : String) : Option α :=
  match fields.filter (·.1 = name) with
  | [] => some fallback
  | [field] => decode field.2
  | _ => none

/-- A field of a record that must be there, once. -/
def field (decode : Json → Option α) (fields : List (String × Json)) (name : String) : Option α :=
  match fields.filter (·.1 = name) with
  | [given] => decode given.2
  | _ => none

section Fields

variable {fallback : α} {decode : Json → Option α} {fields : List (String × Json)}
  {name : String}

/-- A field of another name is passed over. -/
theorem fieldOr_cons_of_ne {other : String} (h : other ≠ name) (value : Json) :
    fieldOr fallback decode ((other, value) :: fields) name =
      fieldOr fallback decode fields name := by
  unfold fieldOr
  rw [List.filter_cons_of_neg (by simpa using h)]

/-- A field that is given once is decoded. -/
theorem fieldOr_cons_self (h : ∀ field ∈ fields, field.1 ≠ name) (value : Json) :
    fieldOr fallback decode ((name, value) :: fields) name = decode value := by
  have hrest : fields.filter (·.1 = name) = [] := by
    simpa [List.filter_eq_nil_iff] using h
  unfold fieldOr
  rw [List.filter_cons_of_pos (by simp), hrest]

theorem field_cons_of_ne {other : String} (h : other ≠ name) (value : Json) :
    field decode ((other, value) :: fields) name = field decode fields name := by
  unfold field
  rw [List.filter_cons_of_neg (by simpa using h)]

theorem field_cons_self (h : ∀ given ∈ fields, given.1 ≠ name) (value : Json) :
    field decode ((name, value) :: fields) name = decode value := by
  have hrest : fields.filter (·.1 = name) = [] := by
    simpa [List.filter_eq_nil_iff] using h
  unfold field
  rw [List.filter_cons_of_pos (by simp), hrest]

end Fields

/-! ## Reading back -/

/-- The decoder reads back what the encoder writes. -/
def Inverts (decode : Json → Option α) (encode : α → Json) : Prop :=
  ∀ a, decode (encode a) = some a

theorem inverts_bool : Inverts asBool .bool := fun _ => rfl

theorem inverts_str : Inverts asStr .str := fun _ => rfl

section Inverts

variable {decode : Json → Option α} {encode : α → Json}

theorem Inverts.list (h : Inverts decode encode) :
    Inverts (asList decode) fun l => .arr (l.map encode) := by
  intro l
  show (l.map encode).mapM decode = some l
  induction l with
  | nil => rfl
  | cons a l ih =>
      rw [List.map_cons, List.mapM_cons, h a, ih]
      rfl

theorem Inverts.option (h : Inverts decode encode) (hnull : ∀ a, encode a ≠ .null) :
    Inverts (asOption decode) (ofOption encode) := by
  intro o
  cases o with
  | none => rfl
  | some a =>
      have hsome : asOption decode (encode a) = (decode (encode a)).map some := by
        cases hjson : encode a with
        | null => exact absurd hjson (hnull a)
        | _ => rfl
      show asOption decode (encode a) = some (some a)
      rw [hsome, h a]
      rfl

end Inverts

end Json
