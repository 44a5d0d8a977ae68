import Mathlib.Data.List.Basic

set_option autoImplicit false

/-!
# Slots

A slot holds at most one value. Putting one in replaces what it held, and taking empties it. In a
history whose takes all find what the slot holds, each take directly follows the put of the very
value: nothing is taken twice, and what was replaced is never taken.
-/

universe u

/-- What happens to a slot. -/
inductive SlotEvent (α : Type u) where
  | put (a : α)
  | take (a : α)

namespace SlotEvent

variable {α : Type u}

/-- The slot after an event. -/
def after : SlotEvent α → Option α
  | .put a => some a
  | .take _ => none

/-- The slot after a history, oldest first, that it starts empty. -/
def held (history : List (SlotEvent α)) : Option α :=
  history.getLast?.bind after

/-- Every take finds what the slot holds. -/
def Served (history : List (SlotEvent α)) : Prop :=
  ∀ past a later, history = past ++ .take a :: later → held past = some a

@[simp] theorem held_append (history : List (SlotEvent α)) (e : SlotEvent α) :
    held (history ++ [e]) = e.after := by
  simp [held]

theorem served_nil : Served ([] : List (SlotEvent α)) := by
  intro past a later h
  simp at h

theorem Served.append {history : List (SlotEvent α)} {e : SlotEvent α} (h : Served history)
    (he : ∀ a, e = .take a → held history = some a) : Served (history ++ [e]) := by
  intro past a later heq
  rcases List.eq_nil_or_concat later with rfl | ⟨later', last, rfl⟩
  · -- the last event
    obtain ⟨rfl, hlast⟩ := List.append_inj' heq rfl
    exact he a (List.singleton_inj.mp hlast)
  · have hinit : history = past ++ .take a :: later' := by
      have hsplit : history ++ [e] = (past ++ .take a :: later') ++ [last] := by
        rw [heq]
        simp
      exact (List.append_inj' hsplit rfl).1
    exact h past a later' hinit

/-- **What is taken was put in last.** -/
theorem Served.last_put {history past later : List (SlotEvent α)} {a : α} (h : Served history)
    (heq : history = past ++ .take a :: later) : ∃ before, past = before ++ [.put a] := by
  have hheld := h past a later heq
  rcases List.eq_nil_or_concat past with rfl | ⟨before, e, rfl⟩
  · cases hheld
  · rw [List.concat_eq_append, held_append] at hheld
    cases e with
    | put b =>
        cases hheld
        exact ⟨before, by rw [List.concat_eq_append]⟩
    | take b => cases hheld

end SlotEvent
