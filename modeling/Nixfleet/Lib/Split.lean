import Mathlib.Data.List.Basic

set_option autoImplicit false

/-!
# Splitting at a separator

`splitOnce` cuts a list at the first separator. It takes apart what was put together around a
separator exactly when the first part has none (`splitOnce_eq_some`), so such lists are put together
in one way only (`append_sep_inj`).

`linesOf` cuts a text after each newline.
-/

variable {α : Type*} [DecidableEq α]

/-- The parts before and after the first separator, if there is one. -/
def splitOnce (sep : α) : List α → Option (List α × List α)
  | [] => none
  | c :: cs => if c = sep then some ([], cs) else (splitOnce sep cs).map fun p => (c :: p.1, p.2)

variable {sep : α} {l xs xs' ys ys' : List α}

theorem splitOnce_append (h : sep ∉ xs) : splitOnce sep (xs ++ sep :: ys) = some (xs, ys) := by
  induction xs with
  | nil => simp [splitOnce]
  | cons c cs ih =>
      rw [List.mem_cons, not_or] at h
      simp [splitOnce, ih h.2, Ne.symm h.1]

theorem splitOnce_eq_some :
    splitOnce sep l = some (xs, ys) ↔ sep ∉ xs ∧ l = xs ++ sep :: ys := by
  constructor
  · intro h
    induction l generalizing xs with
    | nil => cases h
    | cons c cs ih =>
        unfold splitOnce at h
        split at h
        · rename_i hc
          cases h
          exact ⟨List.not_mem_nil, by rw [hc, List.nil_append]⟩
        · rename_i hc
          obtain ⟨p, hp, hparts⟩ := Option.map_eq_some_iff.mp h
          cases hparts
          obtain ⟨hnot, hcs⟩ := ih hp
          refine ⟨?_, by rw [List.cons_append, ← hcs]⟩
          rw [List.mem_cons, not_or]
          exact ⟨fun heq => hc heq.symm, hnot⟩
  · rintro ⟨h, rfl⟩
    exact splitOnce_append h

theorem takeWhile_append_sep (h : sep ∉ xs) : (xs ++ sep :: ys).takeWhile (· ≠ sep) = xs := by
  induction xs with
  | nil => simp
  | cons c cs ih =>
      rw [List.mem_cons, not_or] at h
      rw [List.cons_append, List.takeWhile_cons_of_pos (by simpa using Ne.symm h.1), ih h.2]

/-- A separator that neither part before it holds is found. -/
theorem append_sep_inj (hxs : sep ∉ xs) (hxs' : sep ∉ xs')
    (h : xs ++ sep :: ys = xs' ++ sep :: ys') : xs = xs' ∧ ys = ys' := by
  have hsplit : some (xs, ys) = some (xs', ys') := by
    calc some (xs, ys)
        = splitOnce sep (xs ++ sep :: ys) := (splitOnce_append hxs).symm
      _ = splitOnce sep (xs' ++ sep :: ys') := congrArg _ h
      _ = some (xs', ys') := splitOnce_append hxs'
  rw [Option.some.injEq, Prod.mk.injEq] at hsplit
  exact hsplit

/-- The same from the right. -/
theorem append_sep_inj_right (hys : sep ∉ ys) (hys' : sep ∉ ys')
    (h : xs ++ sep :: ys = xs' ++ sep :: ys') : xs = xs' ∧ ys = ys' := by
  have hreverse := congrArg List.reverse h
  simp only [List.reverse_append, List.reverse_cons, List.append_assoc, List.singleton_append]
    at hreverse
  have hparts := append_sep_inj (fun hmem => hys (List.mem_reverse.mp hmem))
    (fun hmem => hys' (List.mem_reverse.mp hmem)) hreverse
  exact ⟨List.reverse_injective hparts.2, List.reverse_injective hparts.1⟩

/-! ## Lines -/

/-- The lines of a text, each without the newline that ends it and a carriage return before that. A
last line need not be ended. -/
def linesOf : List Char → List (List Char)
  | [] => []
  | '\r' :: '\n' :: cs => [] :: linesOf cs
  | '\n' :: cs => [] :: linesOf cs
  | c :: cs =>
      match linesOf cs with
      | [] => [[c]]
      | line :: rest => (c :: line) :: rest

/-- A text without line ends. -/
def OneLine (l : List Char) : Prop := '\n' ∉ l ∧ '\r' ∉ l

theorem linesOf_cons {c : Char} {cs : List Char} (hn : c ≠ '\n')
    (hr : ∀ cs', c = '\r' → cs ≠ '\n' :: cs') :
    linesOf (c :: cs) =
      match linesOf cs with
      | [] => [[c]]
      | line :: rest => (c :: line) :: rest := by
  rw [linesOf]
  · exact hr
  · exact hn

theorem OneLine.of_cons {c : Char} {cs : List Char} (h : OneLine (c :: cs)) :
    c ≠ '\n' ∧ c ≠ '\r' ∧ OneLine cs := by
  obtain ⟨hn, hr⟩ := h
  rw [List.mem_cons, not_or] at hn hr
  exact ⟨Ne.symm hn.1, Ne.symm hr.1, hn.2, hr.2⟩

theorem linesOf_append_lf {line : List Char} (h : OneLine line) (rest : List Char) :
    linesOf (line ++ '\n' :: rest) = line :: linesOf rest := by
  induction line with
  | nil => rw [List.nil_append, linesOf]
  | cons c cs ih =>
      obtain ⟨hn, hr, hcs⟩ := h.of_cons
      rw [List.cons_append, linesOf_cons hn (fun _ h => absurd h hr), ih hcs]

theorem linesOf_append_crlf {line : List Char} (h : OneLine line) (rest : List Char) :
    linesOf (line ++ '\r' :: '\n' :: rest) = line :: linesOf rest := by
  induction line with
  | nil => rw [List.nil_append, linesOf]
  | cons c cs ih =>
      obtain ⟨hn, hr, hcs⟩ := h.of_cons
      rw [List.cons_append, linesOf_cons hn (fun _ h => absurd h hr), ih hcs]

/-- A text without newlines is one line, unless it is empty. -/
theorem linesOf_of_not_mem {l : List Char} (h : '\n' ∉ l) (hne : l ≠ []) : linesOf l = [l] := by
  induction l with
  | nil => exact absurd rfl hne
  | cons c cs ih =>
      rw [List.mem_cons, not_or] at h
      have hr : ∀ cs', c = '\r' → cs ≠ '\n' :: cs' := by
        rintro cs' - rfl
        exact h.2 List.mem_cons_self
      rw [linesOf_cons (Ne.symm h.1) hr]
      cases cs with
      | nil => rfl
      | cons d ds => rw [ih h.2 (List.cons_ne_nil d ds)]

/-- No character is made up. -/
theorem flatten_linesOf_sublist (l : List Char) : (linesOf l).flatten.Sublist l := by
  fun_induction linesOf l with
  | case1 => exact List.Sublist.slnil
  | case2 cs ih => exact .cons _ (.cons _ ih)
  | case3 cs ih => exact .cons _ ih
  | case4 c cs _ _ hlines ih => exact .cons_cons _ (List.nil_sublist cs)
  | case5 c cs _ _ line rest hlines ih =>
      rw [hlines] at ih
      exact .cons_cons _ ih
