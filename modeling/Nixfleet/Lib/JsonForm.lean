import Nixfleet.Lib.Json
import Mathlib.Data.List.Forall2
import Mathlib.Data.List.Sort
import Mathlib.Data.String.Basic

set_option autoImplicit false

/-!
# Decoding and encoding again

When a decoded value is written again, the text it came from may be lost: fields that no decoder
asked for, values that were left out or given as `null`, the spelling of a value. A decoder is
`Exact` when nothing is lost. An object whose members come in the order of their names (`Sorted`) is
the list of the members that it has under each name (`eq_flatMap_filter`), so it is decoded and
encoded again field by field.

A canonical form determines a value up to its numbers (`UpToNumbers`).
-/

namespace Json

variable {α : Type*}

/-- The members of an object. -/
def members : Json → List (String × Json)
  | .obj fields => fields
  | _ => []

/-! ## Exact decoders -/

/-- The decoder accepts only what the encoder writes. -/
def Exact (decode : Json → Option α) (encode : α → Json) : Prop :=
  ∀ json a, decode json = some a → json = encode a

theorem exact_bool : Exact asBool .bool := by
  intro json b h
  cases json with
  | bool c =>
      obtain rfl := Option.some.inj h
      rfl
  | _ => cases h

theorem exact_str : Exact asStr .str := by
  intro json s h
  cases json with
  | str t =>
      obtain rfl := Option.some.inj h
      rfl
  | _ => cases h

/-- A list is decoded item by item. -/
theorem mapM_eq_some {β γ : Type*} {f : β → Option γ} {l : List β} {l' : List γ} :
    l.mapM f = some l' ↔ List.Forall₂ (fun b c => f b = some c) l l' := by
  induction l generalizing l' with
  | nil => simp [eq_comm]
  | cons b l ih =>
      rw [List.mapM_cons, List.forall₂_cons_left_iff]
      constructor
      · intro h
        obtain ⟨c, hc, h⟩ := Option.bind_eq_some_iff.mp h
        obtain ⟨rest, hrest, h⟩ := Option.bind_eq_some_iff.mp h
        exact ⟨c, rest, hc, ih.mp hrest, (Option.some.inj h).symm⟩
      · rintro ⟨c, rest, hc, hrest, rfl⟩
        rw [hc, ih.mpr hrest]
        rfl

/-- What is encoded again from decoded items is the items, if it is for each. -/
theorem map_eq_of_forall₂ {β : Type*} {decode : β → Option α} {encode : α → β} {items : List β}
    {l : List α} (h : List.Forall₂ (fun b a => decode b = some a) items l)
    (hitems : ∀ item ∈ items, ∀ a, decode item = some a → item = encode a) :
    items = l.map encode := by
  induction h with
  | nil => rfl
  | cons hdecode _ ih =>
      rw [List.map_cons, ← ih fun item hitem => hitems item (List.mem_cons_of_mem _ hitem),
        ← hitems _ List.mem_cons_self _ hdecode]

theorem asList_eq_some {decode : Json → Option α} {json : Json} {l : List α} :
    asList decode json = some l ↔
      ∃ items, json = .arr items ∧ List.Forall₂ (fun v a => decode v = some a) items l := by
  cases json with
  | arr items =>
      show items.mapM decode = some l ↔ _
      rw [mapM_eq_some]
      simp
  | _ => simp [asList]

theorem Exact.list {decode : Json → Option α} {encode : α → Json} (h : Exact decode encode) :
    Exact (asList decode) fun l => .arr (l.map encode) := by
  intro json l hdecode
  obtain ⟨items, rfl, hitems⟩ := asList_eq_some.mp hdecode
  exact congrArg arr (map_eq_of_forall₂ hitems fun item _ => h item)

/-! ## Fields -/

section Fields

variable {decode : Json → Option α} {fields : List (String × Json)} {name : String} {a : α}

/-- A field that is decoded is there once. -/
theorem field_eq_some :
    field decode fields name = some a ↔
      ∃ value, fields.filter (·.1 = name) = [(name, value)] ∧ decode value = some a := by
  have hname : ∀ given ∈ fields.filter (·.1 = name), given.1 = name :=
    fun given hgiven => of_decide_eq_true (List.mem_filter.mp hgiven).2
  unfold field
  generalize fields.filter (·.1 = name) = given at hname ⊢
  match given with
  | [] => simp
  | [(given, value)] =>
      obtain rfl : given = name := hname (given, value) List.mem_cons_self
      simp
  | _ :: _ :: _ => simp

/-- A field that has a default is there once, or is not there. -/
theorem fieldOr_eq_some {fallback : α} :
    fieldOr fallback decode fields name = some a ↔
      (fields.filter (·.1 = name) = [] ∧ fallback = a) ∨
        ∃ value, fields.filter (·.1 = name) = [(name, value)] ∧ decode value = some a := by
  have hname : ∀ given ∈ fields.filter (·.1 = name), given.1 = name :=
    fun given hgiven => of_decide_eq_true (List.mem_filter.mp hgiven).2
  unfold fieldOr
  generalize fields.filter (·.1 = name) = given at hname ⊢
  match given with
  | [] => simp
  | [(given, value)] =>
      obtain rfl : given = name := hname (given, value) List.mem_cons_self
      simp
  | _ :: _ :: _ => simp

theorem mem_of_filter_eq {value : Json} (h : fields.filter (·.1 = name) = [(name, value)]) :
    (name, value) ∈ fields :=
  (List.mem_filter.mp (h ▸ List.mem_cons_self)).1

theorem eq_of_filter_eq {value value' : Json}
    (h : fields.filter (·.1 = name) = [(name, value)]) (hmem : (name, value') ∈ fields) :
    value' = value := by
  have hfilter : (name, value') ∈ fields.filter (·.1 = name) :=
    List.mem_filter.mpr ⟨hmem, by simp⟩
  rw [h] at hfilter
  exact (Prod.mk.inj (List.mem_singleton.mp hfilter)).2

/-- Under the name of a field with an exact decoder there is what its encoder writes. -/
theorem filter_eq_of_field {encode : α → Json} (hexact : Exact decode encode)
    (h : field decode fields name = some a) :
    fields.filter (·.1 = name) = [(name, encode a)] := by
  obtain ⟨value, hfilter, hvalue⟩ := field_eq_some.mp h
  rw [hfilter, hexact value a hvalue]

/-- So there is for a field that may be missing, unless it is given as `null`. -/
theorem filter_eq_of_option {encode : α → Json} (hexact : Exact decode encode) {o : Option α}
    (h : fieldOr none (asOption decode) fields name = some o) (hnull : (name, null) ∉ fields) :
    fields.filter (·.1 = name) = (o.map fun a => (name, encode a)).toList := by
  rcases fieldOr_eq_some.mp h with ⟨hfilter, rfl⟩ | ⟨value, hfilter, hvalue⟩
  · exact hfilter
  · have hne : value ≠ null := by
      rintro rfl
      exact hnull (mem_of_filter_eq hfilter)
    have hsome : (decode value).map some = some o := by
      cases value with
      | null => exact absurd rfl hne
      | _ => exact hvalue
    obtain ⟨a, ha, rfl⟩ := Option.map_eq_some_iff.mp hsome
    rw [hfilter, hexact value a ha]
    rfl

/-- A field that is given as `null` is read as missing. -/
theorem eq_none_of_null {o : Option α} (h : fieldOr none (asOption decode) fields name = some o)
    (hnull : (name, null) ∈ fields) : o = none := by
  rcases fieldOr_eq_some.mp h with ⟨-, rfl⟩ | ⟨value, hfilter, hvalue⟩
  · rfl
  · rw [← eq_of_filter_eq hfilter hnull] at hvalue
    exact (Option.some.inj hvalue).symm

end Fields

/-! ## Sorted objects -/

/-- The members of every object come in the order of their names, and no name comes twice. -/
inductive Sorted : Json → Prop
  | null : Sorted .null
  | bool (b : Bool) : Sorted (.bool b)
  | num (n : Int) : Sorted (.num n)
  | float (bits : UInt64) : Sorted (.float bits)
  | str (s : String) : Sorted (.str s)
  | arr {items : List Json} (hitems : ∀ item ∈ items, Sorted item) : Sorted (.arr items)
  | obj {fields : List (String × Json)} (hnames : fields.Pairwise fun p q => p.1 < q.1)
      (hvalues : ∀ p ∈ fields, Sorted p.2) : Sorted (.obj fields)

/-- Two lists in the order of their names are equal if they have the same members. -/
theorem eq_of_mem_iff {β : Type*} {l l' : List (String × β)}
    (h : l.Pairwise fun p q => p.1 < q.1) (h' : l'.Pairwise fun p q => p.1 < q.1)
    (hmem : ∀ p, p ∈ l ↔ p ∈ l') : l = l' := by
  have hirrefl : Std.Irrefl fun p q : String × β => p.1 < q.1 := ⟨fun p => lt_irrefl p.1⟩
  have hantisymm : Std.Antisymm fun p q : String × β => p.1 < q.1 :=
    ⟨fun p q hpq hqp => absurd (hpq.trans hqp) (lt_irrefl p.1)⟩
  exact h.eq_of_mem_iff h' hmem

/-- **A sorted object, name by name.** -/
theorem eq_flatMap_filter {fields : List (String × Json)} {names : List String}
    (hfields : fields.Pairwise fun p q => p.1 < q.1) (hnames : names.Pairwise (· < ·))
    (hknown : ∀ p ∈ fields, p.1 ∈ names) :
    fields = names.flatMap fun name => fields.filter (·.1 = name) := by
  refine eq_of_mem_iff hfields ?_ ?_
  · rw [List.pairwise_flatMap]
    refine ⟨fun name _ => hfields.filter _, hnames.imp ?_⟩
    intro name name' hlt p hp q hq
    have hpname : p.1 = name := of_decide_eq_true (List.mem_filter.mp hp).2
    have hqname : q.1 = name' := of_decide_eq_true (List.mem_filter.mp hq).2
    rw [hpname, hqname]
    exact hlt
  · intro p
    rw [List.mem_flatMap]
    constructor
    · intro hp
      exact ⟨p.1, hknown p hp, List.mem_filter.mpr ⟨hp, by simp⟩⟩
    · rintro ⟨name, -, hp⟩
      exact (List.mem_filter.mp hp).1

/-! ## Values up to their numbers -/

/-- The values differ in their numbers at most. -/
inductive UpToNumbers : Json → Json → Prop
  | null : UpToNumbers .null .null
  | bool (b : Bool) : UpToNumbers (.bool b) (.bool b)
  | num (n n' : Int) : UpToNumbers (.num n) (.num n')
  | float (bits bits' : UInt64) : UpToNumbers (.float bits) (.float bits')
  | numFloat (n : Int) (bits : UInt64) : UpToNumbers (.num n) (.float bits)
  | floatNum (bits : UInt64) (n : Int) : UpToNumbers (.float bits) (.num n)
  | str (s : String) : UpToNumbers (.str s) (.str s)
  | arr {items items' : List Json} (hitems : List.Forall₂ UpToNumbers items items') :
      UpToNumbers (.arr items) (.arr items')
  | obj {fields fields' : List (String × Json)}
      (hnames : fields.map Prod.fst = fields'.map Prod.fst)
      (hvalues : List.Forall₂ UpToNumbers (fields.map Prod.snd) (fields'.map Prod.snd)) :
      UpToNumbers (.obj fields) (.obj fields')

/-- A member of either object has its counterpart in the other. -/
theorem UpToNumbers.exists_of_mem {fields fields' : List (String × Json)}
    (h : UpToNumbers (.obj fields) (.obj fields')) {name : String} {value' : Json}
    (hmem : (name, value') ∈ fields') :
    ∃ value, (name, value) ∈ fields ∧ UpToNumbers value value' := by
  cases h with
  | obj hnames hvalues =>
  induction fields' generalizing fields with
  | nil => cases hmem
  | cons p fields' ih =>
      cases fields with
      | nil => cases hnames
      | cons q fields =>
          obtain ⟨hname, hnames⟩ := List.cons_eq_cons.mp hnames
          obtain ⟨hvalue, hvalues⟩ := List.forall₂_cons.mp hvalues
          rcases List.mem_cons.mp hmem with rfl | hmem
          · exact ⟨q.2, List.mem_cons.mpr (.inl (Prod.ext hname.symm rfl)), hvalue⟩
          · obtain ⟨value, hin, hsame⟩ := ih hmem hnames hvalues
            exact ⟨value, List.mem_cons_of_mem _ hin, hsame⟩

end Json
