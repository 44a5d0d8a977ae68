import Nixfleet.Lib.Machine

set_option autoImplicit false

/-!
# Machines on endless schedules

A schedule hands a machine its inputs forever, and `after` is the state after the first `n` of
them. `LeadsTo P Q` says that every moment at which `P` holds is followed by one at which `Q` does.
The rules are those of UNITY: waiting for an input that keeps coming (`leadsTo_of_wait`), and
descent along a measure that only such steps have to lower (`leadsTo_of_descent`).
-/

namespace Machine

variable {σ ι ω : Type*} (M : Machine σ ι ω)

/-- The state after the first `n` inputs of the schedule. -/
def after (s : σ) (inputs : Nat → ι) : Nat → σ
  | 0 => s
  | n + 1 => (M.step (after s inputs n) (inputs n)).1

/-- Every moment at which `P` holds is followed by one at which `Q` does. -/
def LeadsTo (s : σ) (inputs : Nat → ι) (P Q : σ → Prop) : Prop :=
  ∀ n, P (M.after s inputs n) → ∃ k, n ≤ k ∧ Q (M.after s inputs k)

/-- The inputs of the kind keep coming. -/
def Recurs (inputs : Nat → ι) (kind : ι → Prop) : Prop := ∀ n, ∃ k, n ≤ k ∧ kind (inputs k)

section Rules

variable {M} {s : σ} {inputs : Nat → ι} {P Q R : σ → Prop}

/-- The invariant rule for schedules. -/
theorem after_invariant (hstep : ∀ n, P (M.after s inputs n) → P (M.after s inputs (n + 1)))
    (hs : P s) (n : Nat) : P (M.after s inputs n) := by
  induction n with
  | zero => exact hs
  | succ n ih => exact hstep n ih

/-- What every step keeps holds from any moment on. -/
theorem after_mono (hstep : ∀ n, P (M.after s inputs n) → P (M.after s inputs (n + 1))) {n k : Nat}
    (hle : n ≤ k) (h : P (M.after s inputs n)) : P (M.after s inputs k) := by
  induction hle with
  | refl => exact h
  | step _ ih => exact hstep _ ih

theorem LeadsTo.trans (hPQ : M.LeadsTo s inputs P Q) (hQR : M.LeadsTo s inputs Q R) :
    M.LeadsTo s inputs P R := by
  intro n hP
  obtain ⟨k, hnk, hQ⟩ := hPQ n hP
  obtain ⟨j, hkj, hR⟩ := hQR k hQ
  exact ⟨j, Nat.le_trans hnk hkj, hR⟩

theorem LeadsTo.of_imp (h : ∀ n, P (M.after s inputs n) → Q (M.after s inputs n)) :
    M.LeadsTo s inputs P Q := fun n hP => ⟨n, Nat.le_refl n, h n hP⟩

/-- Two cases that lead to the same. -/
theorem LeadsTo.or {P' : σ → Prop} (h : M.LeadsTo s inputs P Q) (h' : M.LeadsTo s inputs P' Q) :
    M.LeadsTo s inputs (fun a => P a ∨ P' a) Q := by
  rintro n (hP | hP')
  · exact h n hP
  · exact h' n hP'

/-- **Wait rule.** Where `P` stays until `Q` holds, and an input of a kind that keeps coming takes
`P` to `Q`, the one leads to the other. -/
theorem leadsTo_of_wait {kind : ι → Prop} (hrecurs : Recurs inputs kind)
    (hstay : ∀ n, P (M.after s inputs n) →
      P (M.after s inputs (n + 1)) ∨ Q (M.after s inputs (n + 1)))
    (hfire : ∀ n, P (M.after s inputs n) → kind (inputs n) → Q (M.after s inputs (n + 1))) :
    M.LeadsTo s inputs P Q := by
  intro n hP
  obtain ⟨k, hnk, hk⟩ := hrecurs n
  -- `P` is still there when the input comes, or `Q` has come before it
  have hwait : ∀ j, n ≤ j → P (M.after s inputs j) ∨ ∃ i, n ≤ i ∧ Q (M.after s inputs i) := by
    intro j hj
    induction hj with
    | refl => exact .inl hP
    | step hj ih =>
        rcases ih with hP' | hQ
        · rcases hstay _ hP' with hnext | hQ
          · exact .inl hnext
          · exact .inr ⟨_, Nat.le_succ_of_le hj, hQ⟩
        · exact .inr hQ
  rcases hwait k hnk with hP' | hQ
  · exact ⟨k + 1, Nat.le_succ_of_le hnk, hfire k hP' hk⟩
  · exact hQ

/-- **Descent rule.** Where `P` leads to `Q`, or to `P` at a smaller measure, it leads to `Q`. -/
theorem leadsTo_of_descent (measure : σ → Nat)
    (h : ∀ bound, M.LeadsTo s inputs (fun a => P a ∧ measure a = bound)
      (fun a => Q a ∨ (P a ∧ measure a < bound))) : M.LeadsTo s inputs P Q := by
  intro n hP
  generalize hbound : measure (M.after s inputs n) = bound
  -- on the measure at the moment we start from
  induction bound using Nat.strongRecOn generalizing n with
  | ind bound ih =>
      obtain ⟨k, hnk, hQ | ⟨hP', hlt⟩⟩ := h bound n ⟨hP, hbound⟩
      · exact ⟨k, hnk, hQ⟩
      · obtain ⟨j, hkj, hQ⟩ := ih _ hlt k hP' rfl
        exact ⟨j, Nat.le_trans hnk hkj, hQ⟩

end Rules

end Machine
