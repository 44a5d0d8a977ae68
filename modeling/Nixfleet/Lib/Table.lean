import Mathlib.Data.List.AList
import Mathlib.Data.List.Induction
import Mathlib.Data.List.Sort

set_option autoImplicit false

/-!
# Keyed tables

A table of rows with a primary key, and a hash map, are both Mathlib's `AList`: a list of
entries with distinct keys. This file adds the row view (`rows`), the row operations of SQL
that `AList` lacks (`modify`, `filterRows`), and iteration in an order that a ranking of the
keys fixes (`iterBy`). A hash map is iterated in an order its hasher picks; since the keys
are distinct, every order of its entries is the one of some ranking
(`exists_rank_iterBy_eq`), so a statement for every ranking is one for every hasher.
-/

/-- A finite map from keys to rows. -/
abbrev Table (κ β : Type*) := AList (fun _ : κ => β)

namespace Table

variable {κ β : Type*}

/-- The rows of a table, with their keys. -/
def rows (t : Table κ β) : List (κ × β) := t.entries.map fun e => (e.1, e.2)

theorem rows_keys_nodup (t : Table κ β) : (t.rows.map Prod.fst).Nodup := by
  have h : t.rows.map Prod.fst = t.keys := by
    simp [rows, AList.keys, List.keys, Function.comp_def]
  rw [h]
  exact t.keys_nodup

/-- Change every row, its key kept. -/
def mapRows {γ : Type*} (f : κ → β → γ) (t : Table κ β) : Table κ γ :=
  ⟨t.entries.map fun e => ⟨e.1, f e.1 e.2⟩, by
    have h : (t.entries.map fun e => (⟨e.1, f e.1 e.2⟩ : Sigma fun _ : κ => γ)).keys =
        t.entries.keys := by
      simp [List.keys, Function.comp_def]
    rw [List.NodupKeys, h]
    exact t.nodupKeys⟩

theorem rows_mapRows {γ : Type*} (f : κ → β → γ) (t : Table κ β) :
    (t.mapRows f).rows = t.rows.map fun r => (r.1, f r.1 r.2) := by
  simp [mapRows, rows, Function.comp_def]

variable [DecidableEq κ]

@[simp] theorem mem_rows {t : Table κ β} {k : κ} {v : β} :
    (k, v) ∈ t.rows ↔ t.lookup k = some v := by
  constructor
  · intro h
    obtain ⟨⟨k', v'⟩, he, heq⟩ := List.mem_map.mp h
    simp only [Prod.mk.injEq] at heq
    obtain ⟨rfl, rfl⟩ := heq
    exact AList.mem_lookup_iff.mpr he
  · intro h
    exact List.mem_map.mpr ⟨⟨k, v⟩, AList.mem_lookup_iff.mp h, rfl⟩

/-- `UPDATE … WHERE key = k`: change the row of a key, if there is one. -/
def modify (t : Table κ β) (k : κ) (f : β → β) : Table κ β :=
  match t.lookup k with
  | some v => t.insert k (f v)
  | none => t

theorem lookup_modify (t : Table κ β) (k k' : κ) (f : β → β) :
    (t.modify k f).lookup k' = if k' = k then (t.lookup k).map f else t.lookup k' := by
  unfold modify
  by_cases hk : k' = k
  · subst hk
    cases h : t.lookup k' with
    | none => simp [h]
    | some v => simp
  · cases h : t.lookup k with
    | none => simp [hk]
    | some v => simp [hk, AList.lookup_insert_ne]

theorem lookup_insert_eq (t : Table κ β) (k k' : κ) (v : β) :
    (t.insert k v).lookup k' = if k' = k then some v else t.lookup k' := by
  by_cases hk : k' = k
  · subst hk; simp
  · simp [hk, AList.lookup_insert_ne]

theorem isSome_lookup_insert {t : Table κ β} {k k' : κ} {v : β}
    (h : (t.lookup k).isSome = true) : ((t.insert k' v).lookup k).isSome = true := by
  rw [lookup_insert_eq]
  split
  · rfl
  · exact h

/-- Every row of a table that is built by inserts was there before or is one of those. -/
theorem lookup_foldl_insert {α : Type*} {key : α → κ} {val : α → β} {l : List α}
    {t : Table κ β} {k : κ} {v : β}
    (h : (l.foldl (fun t a => t.insert (key a) (val a)) t).lookup k = some v) :
    t.lookup k = some v ∨ ∃ a ∈ l, key a = k ∧ val a = v := by
  induction l generalizing t with
  | nil => exact .inl h
  | cons a l ih =>
      rcases ih h with hins | ⟨a', ha', heq⟩
      · rw [lookup_insert_eq] at hins
        split at hins
        · rename_i hk
          cases hins
          exact .inr ⟨a, List.mem_cons_self, hk.symm, rfl⟩
        · exact .inl hins
      · exact .inr ⟨a', List.mem_cons_of_mem _ ha', heq⟩

/-- After inserts a key has the value of its last insert, or else the one it had. -/
theorem lookup_foldl_insert_eq {α : Type*} (key : α → κ) (val : α → β) (l : List α)
    (t : Table κ β) (k : κ) :
    (l.foldl (fun t a => t.insert (key a) (val a)) t).lookup k =
      (((l.filter fun a => key a = k).getLast?).map val).or (t.lookup k) := by
  induction l using List.reverseRecOn with
  | nil => rfl
  | append_singleton l a ih =>
      rw [List.foldl_append, List.foldl_cons, List.foldl_nil, lookup_insert_eq, ih,
        List.filter_append]
      by_cases hk : k = key a
      · subst hk
        simp
      · have hne : ¬ key a = k := fun h => hk h.symm
        simp [hk, hne]

/-- Inserts keep every key and add their own. -/
theorem isSome_lookup_foldl_insert {α : Type*} {key : α → κ} {val : α → β} {l : List α}
    {t : Table κ β} {k : κ} (h : (t.lookup k).isSome = true ∨ ∃ a ∈ l, key a = k) :
    ((l.foldl (fun t a => t.insert (key a) (val a)) t).lookup k).isSome = true := by
  induction l generalizing t with
  | nil => simpa using h
  | cons a l ih =>
      refine ih ?_
      rcases h with hk | ⟨a', ha', rfl⟩
      · exact .inl (isSome_lookup_insert hk)
      · rcases List.mem_cons.mp ha' with rfl | hmem
        · exact .inl (by simp)
        · exact .inr ⟨a', hmem, rfl⟩

/-- A table that is filled with rows of distinct keys has these rows. -/
theorem mem_rows_foldl_insert {l : List (κ × β)} (hnodup : (l.map Prod.fst).Nodup)
    {row : κ × β} :
    row ∈ (l.foldl (fun (t : Table κ β) a => t.insert a.1 a.2) ∅).rows ↔ row ∈ l := by
  obtain ⟨k, v⟩ := row
  have hrow : ∀ w, (l.foldl (fun (t : Table κ β) a => t.insert a.1 a.2) ∅).lookup k = some w →
      (k, w) ∈ l := by
    intro w hw
    rcases lookup_foldl_insert hw with hempty | ⟨a, ha, rfl, rfl⟩
    · cases hempty
    · exact ha
  rw [mem_rows]
  refine ⟨hrow v, fun hmem => ?_⟩
  have hsome : ((l.foldl (fun (t : Table κ β) a => t.insert a.1 a.2) ∅).lookup k).isSome =
      true := isSome_lookup_foldl_insert (.inr ⟨(k, v), hmem, rfl⟩)
  obtain ⟨w, hw⟩ := Option.isSome_iff_exists.mp hsome
  have hkeep : (k, w) = (k, v) := List.inj_on_of_nodup_map hnodup (hrow w hw) hmem rfl
  rw [hw, (Prod.mk.inj hkeep).2]

/-- Inserting the rows of a table into an empty one, in any order, gives the table again. -/
theorem lookup_foldl_insert_rows {t : Table κ β} {l : List (κ × β)} (h : l.Perm t.rows) (k : κ) :
    (l.foldl (fun (t : Table κ β) a => t.insert a.1 a.2) ∅).lookup k = t.lookup k := by
  have hnodup : (l.map Prod.fst).Nodup := (h.map Prod.fst).nodup_iff.mpr t.rows_keys_nodup
  refine Option.ext fun v => ?_
  rw [← mem_rows, mem_rows_foldl_insert hnodup, h.mem_iff, mem_rows]

/-- Inserting the rows of a table into another one lets the inserted ones win. -/
theorem lookup_foldl_insert_table (t u : Table κ β) (k : κ) :
    (u.rows.foldl (fun (t : Table κ β) a => t.insert a.1 a.2) t).lookup k =
      (u.lookup k).or (t.lookup k) := by
  have hlast : ((u.rows.filter fun a => a.1 = k).getLast?).map Prod.snd = u.lookup k := by
    refine Option.ext fun v => ?_
    rw [Option.map_eq_some_iff, ← mem_rows]
    constructor
    · rintro ⟨⟨k', v'⟩, hlast, rfl⟩
      obtain ⟨hmem, hk⟩ := List.mem_filter.mp (List.mem_of_getLast? hlast)
      exact (of_decide_eq_true hk : k' = k) ▸ hmem
    · intro hmem
      have hfilter : (k, v) ∈ u.rows.filter fun a => a.1 = k :=
        List.mem_filter.mpr ⟨hmem, by simp⟩
      have hlast := List.getLast?_eq_some_getLast (List.ne_nil_of_mem hfilter)
      obtain ⟨hin, hk⟩ := List.mem_filter.mp (List.getLast_mem (List.ne_nil_of_mem hfilter))
      refine ⟨_, hlast, ?_⟩
      have hsame := List.inj_on_of_nodup_map u.rows_keys_nodup hin hmem (of_decide_eq_true hk)
      rw [hsame]
  rw [lookup_foldl_insert_eq, hlast]

/-- Inserts from the end leave each key the value of its first pair. -/
theorem lookup_foldr_insert {α : Type*} (key : α → κ) (val : α → β) (l : List α) (k : κ) :
    (l.foldr (fun a (t : Table κ β) => t.insert (key a) (val a)) ∅).lookup k =
      (l.find? fun a => key a = k).map val := by
  induction l with
  | nil => rfl
  | cons a l ih =>
      rw [List.foldr_cons, lookup_insert_eq, ih, List.find?_cons]
      by_cases hk : key a = k
      · simp [hk]
      · have hne : ¬ k = key a := fun h => hk h.symm
        simp [hk, hne]

theorem lookup_union_eq (s t : Table κ β) (k : κ) :
    (s ∪ t).lookup k = (s.lookup k).or (t.lookup k) := by
  cases hs : s.lookup k with
  | none =>
      rw [AList.lookup_union_right (AList.lookup_eq_none.mp hs), Option.none_or]
  | some v =>
      have hmem : k ∈ s := AList.lookup_isSome.mp (by rw [hs]; rfl)
      rw [AList.lookup_union_left hmem, hs, Option.some_or]

/-- `DELETE … WHERE NOT p`: the rows that satisfy `p`. -/
def filterRows (t : Table κ β) (p : κ → β → Bool) : Table κ β :=
  ⟨t.entries.filter fun e => p e.1 e.2,
    t.nodupKeys.sublist List.filter_sublist⟩

theorem lookup_filterRows (t : Table κ β) (p : κ → β → Bool) (k : κ) (v : β) :
    (t.filterRows p).lookup k = some v ↔ t.lookup k = some v ∧ p k v := by
  have h : ∀ s : Table κ β, s.lookup k = some v ↔ (⟨k, v⟩ : Sigma fun _ : κ => β) ∈ s.entries :=
    fun s => AList.mem_lookup_iff
  rw [h, h]
  simp [filterRows]

theorem lookup_mapRows {γ : Type*} (f : κ → β → γ) (t : Table κ β) (k : κ) (w : γ) :
    (t.mapRows f).lookup k = some w ↔ ∃ v, t.lookup k = some v ∧ f k v = w := by
  rw [← mem_rows, rows_mapRows, List.mem_map]
  constructor
  · rintro ⟨⟨k', v⟩, hv, heq⟩
    simp only [Prod.mk.injEq] at heq
    obtain ⟨rfl, hw⟩ := heq
    exact ⟨v, mem_rows.mp hv, hw⟩
  · rintro ⟨v, hv, rfl⟩
    exact ⟨(k, v), mem_rows.mpr hv, rfl⟩

end Table

/-! ## Iteration in the order of a ranking -/

section IterBy

variable {κ β : Type*}

/-- The entries of a map, in the order in which `rank` lists the keys. -/
def iterBy (rank : κ → Nat) (l : List (κ × β)) : List (κ × β) :=
  l.insertionSort fun a b => rank a.1 ≤ rank b.1

theorem iterBy_perm (rank : κ → Nat) (l : List (κ × β)) : (iterBy rank l).Perm l :=
  List.perm_insertionSort _ l

@[simp] theorem mem_iterBy {rank : κ → Nat} {l : List (κ × β)} {e : κ × β} :
    e ∈ iterBy rank l ↔ e ∈ l := (iterBy_perm rank l).mem_iff

theorem pairwise_iterBy (rank : κ → Nat) (l : List (κ × β)) :
    (iterBy rank l).Pairwise fun a b => rank a.1 ≤ rank b.1 :=
  List.pairwise_insertionSort _ l

theorem nodup_iterBy {rank : κ → Nat} {l : List (κ × β)} (hnodup : (l.map Prod.fst).Nodup) :
    ((iterBy rank l).map Prod.fst).Nodup :=
  ((iterBy_perm rank l).map Prod.fst).nodup_iff.mpr hnodup

/-- Numeric keys, smallest first. -/
theorem iterBy_id_sorted {l : List (Nat × β)} (hnodup : (l.map Prod.fst).Nodup) :
    (iterBy id l).Pairwise fun a b => a.1 < b.1 := by
  have hle : (iterBy id l).Pairwise fun a b => a.1 ≤ b.1 := pairwise_iterBy id l
  have hne : (iterBy id l).Pairwise fun a b => a.1 ≠ b.1 :=
    List.pairwise_map.mp (nodup_iterBy hnodup)
  refine hle.imp₂ ?_ hne
  intro a b hab hab'
  exact Nat.lt_of_le_of_ne hab hab'

/-- The ranking of an order: where a key stands in it. -/
theorem idxOf_getElem_fst [DecidableEq κ] {l : List (κ × β)} (hnodup : (l.map Prod.fst).Nodup)
    {n : Nat} (hn : n < l.length) : (l.map Prod.fst).idxOf (l[n]).1 = n := by
  have h := hnodup.idxOf_getElem n (by simpa using hn)
  rwa [List.getElem_map] at h

theorem pairwise_idxOf_le [DecidableEq κ] {l : List (κ × β)}
    (hnodup : (l.map Prod.fst).Nodup) :
    l.Pairwise fun a b => (l.map Prod.fst).idxOf a.1 ≤ (l.map Prod.fst).idxOf b.1 := by
  rw [List.pairwise_iff_getElem]
  intro i j hi hj hij
  rw [idxOf_getElem_fst hnodup hi, idxOf_getElem_fst hnodup hj]
  exact Nat.le_of_lt hij

/-- Every order of entries with distinct keys is the order of some ranking. -/
theorem exists_rank_iterBy_eq [DecidableEq κ] {l l' : List (κ × β)}
    (hnodup : (l.map Prod.fst).Nodup) (hperm : l'.Perm l) :
    ∃ rank : κ → Nat, iterBy rank l = l' := by
  have hkeys : (l'.map Prod.fst).Nodup := (hperm.map Prod.fst).nodup_iff.mpr hnodup
  let rank : κ → Nat := fun k => (l'.map Prod.fst).idxOf k
  have hsorted : l'.Pairwise fun a b => rank a.1 ≤ rank b.1 := pairwise_idxOf_le hkeys
  have hiter : (iterBy rank l).Pairwise fun a b => rank a.1 ≤ rank b.1 := pairwise_iterBy rank l
  refine ⟨rank, List.Perm.eq_of_pairwise ?_ hiter hsorted
    ((iterBy_perm rank l).trans hperm.symm)⟩
  -- two entries of one rank stand at the same place of `l'`
  intro a b ha hb hab hba
  have hal : a ∈ l' := hperm.mem_iff.mpr (mem_iterBy.mp ha)
  obtain ⟨i, hi, rfl⟩ := List.mem_iff_getElem.mp hal
  obtain ⟨j, hj, rfl⟩ := List.mem_iff_getElem.mp hb
  simp only [rank, idxOf_getElem_fst hkeys] at hab hba
  have hij : i = j := Nat.le_antisymm hab hba
  subst hij
  rfl

end IterBy
