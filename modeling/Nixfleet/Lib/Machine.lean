import Mathlib.Data.List.Pairwise

set_option autoImplicit false

/-!
# Deterministic machines and their runs

A `Machine` reads one input at a time, moves to a next state and emits a list of outputs.
`run` is the state after a list of inputs, `trace` the outputs of the whole list, and
`Meets ok` says that every step of the run starts from a state and an input that `ok`
accepts, `Sometime ok` that one step does. The two rules used everywhere are `run_invariant`
(what one step preserves, a run preserves) and `forall_mem_trace` (a property of all outputs is
one of every step's outputs).
-/

/-- A machine with states `σ`, inputs `ι` and outputs `ω`. -/
structure Machine (σ ι ω : Type*) where
  /-- One step: the next state, and the outputs of the step, oldest first. -/
  step : σ → ι → σ × List ω

namespace Machine

variable {σ ι ω : Type*} (M : Machine σ ι ω)

/-- The state after reading a list of inputs. -/
def run (s : σ) : List ι → σ
  | [] => s
  | i :: is => run (M.step s i).1 is

/-- All outputs of a run, oldest first. -/
def trace (s : σ) : List ι → List ω
  | [] => []
  | i :: is => (M.step s i).2 ++ trace (M.step s i).1 is

/-- Every step of the run starts from a state and an input that `ok` accepts. -/
def Meets (ok : σ → ι → Prop) (s : σ) : List ι → Prop
  | [] => True
  | i :: is => ok s i ∧ Meets ok (M.step s i).1 is

/-- Some step of the run starts from a state and an input that `ok` accepts. -/
def Sometime (ok : σ → ι → Prop) (s : σ) : List ι → Prop
  | [] => False
  | i :: is => ok s i ∨ Sometime ok (M.step s i).1 is

@[simp] theorem run_nil (s : σ) : M.run s [] = s := rfl

@[simp] theorem run_cons (s : σ) (i : ι) (is : List ι) :
    M.run s (i :: is) = M.run (M.step s i).1 is := rfl

@[simp] theorem trace_nil (s : σ) : M.trace s [] = [] := rfl

@[simp] theorem trace_cons (s : σ) (i : ι) (is : List ι) :
    M.trace s (i :: is) = (M.step s i).2 ++ M.trace (M.step s i).1 is := rfl

@[simp] theorem meets_nil (ok : σ → ι → Prop) (s : σ) : M.Meets ok s [] := trivial

@[simp] theorem meets_cons (ok : σ → ι → Prop) (s : σ) (i : ι) (is : List ι) :
    M.Meets ok s (i :: is) ↔ ok s i ∧ M.Meets ok (M.step s i).1 is := Iff.rfl

/-- A run can be checked for a condition that can be decided step by step. -/
instance decidableMeets (ok : σ → ι → Prop) [∀ s i, Decidable (ok s i)] (s : σ) :
    (is : List ι) → Decidable (M.Meets ok s is)
  | [] => isTrue trivial
  | i :: is =>
      have := decidableMeets ok (M.step s i).1 is
      inferInstanceAs (Decidable (ok s i ∧ M.Meets ok (M.step s i).1 is))

instance decidableSometime (ok : σ → ι → Prop) [∀ s i, Decidable (ok s i)] (s : σ) :
    (is : List ι) → Decidable (M.Sometime ok s is)
  | [] => isFalse id
  | i :: is =>
      have := decidableSometime ok (M.step s i).1 is
      inferInstanceAs (Decidable (ok s i ∨ M.Sometime ok (M.step s i).1 is))

/-- **Output rule.** All outputs of a run satisfy `P` iff those of every step do. -/
theorem forall_mem_trace {P : ω → Prop} {s : σ} {is : List ι} :
    (∀ o ∈ M.trace s is, P o) ↔ M.Meets (fun s i => ∀ o ∈ (M.step s i).2, P o) s is := by
  induction is generalizing s with
  | nil => simp
  | cons i is ih =>
      rw [trace_cons, meets_cons, ← ih]
      constructor
      · intro h
        exact ⟨fun o ho => h o (List.mem_append_left _ ho),
          fun o ho => h o (List.mem_append_right _ ho)⟩
      · rintro ⟨hstep, hrest⟩ o ho
        rcases List.mem_append.mp ho with ho | ho
        · exact hstep o ho
        · exact hrest o ho

theorem meets_congr {ok₁ ok₂ : σ → ι → Prop} (h : ∀ s i, ok₁ s i ↔ ok₂ s i) (s : σ)
    (is : List ι) : M.Meets ok₁ s is ↔ M.Meets ok₂ s is := by
  induction is generalizing s with
  | nil => exact Iff.rfl
  | cons i is ih => rw [meets_cons, meets_cons, h s i, ih]

/-- Two conditions that agree wherever an invariant holds are met by the same runs. The invariant
need only survive the steps that meet the first one. -/
theorem meets_congr_of_invariant {ok₁ ok₂ : σ → ι → Prop} {P : σ → Prop} {s : σ} {is : List ι}
    (hstep : ∀ s, ∀ i ∈ is, P s → ok₁ s i → P (M.step s i).1)
    (h : ∀ s, ∀ i ∈ is, P s → (ok₁ s i ↔ ok₂ s i)) (hs : P s) :
    M.Meets ok₁ s is ↔ M.Meets ok₂ s is := by
  induction is generalizing s with
  | nil => exact Iff.rfl
  | cons i is ih =>
      rw [meets_cons, meets_cons, h s i List.mem_cons_self hs]
      refine and_congr_right fun hok => ?_
      have hnext := hstep s i List.mem_cons_self hs ((h s i List.mem_cons_self hs).mpr hok)
      exact ih (fun s j hj => hstep s j (List.mem_cons_of_mem _ hj))
        (fun s j hj => h s j (List.mem_cons_of_mem _ hj)) hnext

theorem run_append (s : σ) (is js : List ι) :
    M.run s (is ++ js) = M.run (M.run s is) js := by
  induction is generalizing s with
  | nil => rfl
  | cons i is ih => exact ih _

theorem trace_append (s : σ) (is js : List ι) :
    M.trace s (is ++ js) = M.trace s is ++ M.trace (M.run s is) js := by
  induction is generalizing s with
  | nil => rfl
  | cons i is ih => rw [List.cons_append, trace_cons, trace_cons, run_cons, ih, List.append_assoc]

theorem meets_append (ok : σ → ι → Prop) (s : σ) (is js : List ι) :
    M.Meets ok s (is ++ js) ↔ M.Meets ok s is ∧ M.Meets ok (M.run s is) js := by
  induction is generalizing s with
  | nil => simp
  | cons i is ih => simp only [List.cons_append, meets_cons, ih, run_cons, and_assoc]

/-- What was accepted once stays so, however the run goes on. -/
theorem sometime_append (ok : σ → ι → Prop) (s : σ) (is js : List ι) :
    M.Sometime ok s (is ++ js) ↔ M.Sometime ok s is ∨ M.Sometime ok (M.run s is) js := by
  induction is generalizing s with
  | nil => simp [Sometime]
  | cons i is ih => simp only [List.cons_append, Sometime, ih, run_cons, or_assoc]

/-- The condition holds at the step that follows any prefix of the run. -/
theorem Meets.at_step {ok : σ → ι → Prop} {s : σ} {is js : List ι} {i : ι}
    (h : M.Meets ok s (is ++ i :: js)) : ok (M.run s is) i :=
  ((M.meets_append ok s is (i :: js)).mp h).2.1

theorem Meets.of_append {ok : σ → ι → Prop} {s : σ} {is js : List ι}
    (h : M.Meets ok s (is ++ js)) : M.Meets ok s is :=
  ((M.meets_append ok s is js).mp h).1

theorem Meets.and {ok₁ ok₂ : σ → ι → Prop} {s : σ} {is : List ι} (h₁ : M.Meets ok₁ s is)
    (h₂ : M.Meets ok₂ s is) : M.Meets (fun s i => ok₁ s i ∧ ok₂ s i) s is := by
  induction is generalizing s with
  | nil => trivial
  | cons i is ih => exact ⟨⟨h₁.1, h₂.1⟩, ih h₁.2 h₂.2⟩

/-- A condition on inputs alone, which every input meets. -/
theorem meets_of_forall {P : ι → Prop} {is : List ι} (h : ∀ i ∈ is, P i) (s : σ) :
    M.Meets (fun _ i => P i) s is := by
  induction is generalizing s with
  | nil => trivial
  | cons i is ih =>
      exact ⟨h i List.mem_cons_self, ih (fun j hj => h j (List.mem_cons_of_mem _ hj)) _⟩

/-- **Invariant rule.** A property that every accepted step preserves holds after every
run whose steps are accepted. -/
theorem run_invariant {ok : σ → ι → Prop} {P : σ → Prop}
    (hstep : ∀ s i, P s → ok s i → P (M.step s i).1)
    {s : σ} (hs : P s) {is : List ι} (his : M.Meets ok s is) : P (M.run s is) := by
  induction is generalizing s with
  | nil => exact hs
  | cons i is ih => exact ih (hstep s i hs his.1) his.2

/-- **Consequence rule.** What an invariant gives at each accepted step holds at every step of a
run whose steps are accepted. -/
theorem meets_of_invariant {ok good : σ → ι → Prop} {P : σ → Prop}
    (hstep : ∀ s i, P s → ok s i → P (M.step s i).1) (hgood : ∀ s i, P s → ok s i → good s i)
    {s : σ} (hs : P s) {is : List ι} (his : M.Meets ok s is) : M.Meets good s is := by
  induction is generalizing s with
  | nil => trivial
  | cons i is ih => exact ⟨hgood s i hs his.1, ih (hstep s i hs his.1) his.2⟩

/-- **Unless rule.** Where every accepted step preserves a property or puts out something, a run
whose steps are accepted does so too. -/
theorem run_invariant_unless {ok : σ → ι → Prop} {P : σ → Prop} {Q : ω → Prop}
    (hstep : ∀ s i, P s → ok s i → (∃ o ∈ (M.step s i).2, Q o) ∨ P (M.step s i).1)
    {s : σ} (hs : P s) {is : List ι} (his : M.Meets ok s is) :
    (∃ o ∈ M.trace s is, Q o) ∨ P (M.run s is) := by
  induction is generalizing s with
  | nil => exact .inr hs
  | cons i is ih =>
      rcases hstep s i hs his.1 with ⟨o, ho, hQ⟩ | hnext
      · exact .inl ⟨o, List.mem_append_left _ ho, hQ⟩
      · rcases ih hnext his.2 with ⟨o, ho, hQ⟩ | hrun
        · exact .inl ⟨o, List.mem_append_right _ ho, hQ⟩
        · exact .inr hrun

/-- The invariant rule for properties that every step preserves, whatever its input. -/
theorem run_invariant_of_step {P : σ → Prop} (hstep : ∀ s i, P s → P (M.step s i).1)
    {s : σ} (hs : P s) (is : List ι) : P (M.run s is) := by
  induction is generalizing s with
  | nil => exact hs
  | cons i is ih => exact ih (hstep s i hs)

/-- **Monitor rule.** A monitor reads the outputs one by one. What every accepted step keeps
between the state and the monitor's value holds after every run whose steps are accepted. -/
theorem monitor_invariant {γ : Type*} {ok : σ → ι → Prop} {record : γ → ω → γ}
    {R : σ → γ → Prop}
    (hstep : ∀ s i c, R s c → ok s i → R (M.step s i).1 ((M.step s i).2.foldl record c))
    {s : σ} {c : γ} (h : R s c) {is : List ι} (his : M.Meets ok s is) :
    R (M.run s is) ((M.trace s is).foldl record c) := by
  induction is generalizing s c with
  | nil => exact h
  | cons i is ih =>
      rw [run_cons, trace_cons, List.foldl_append]
      exact ih (hstep s i c h his.1) his.2

/-- **History rule.** What every accepted step keeps between the state and the outputs so far holds
after every run whose steps are accepted. -/
theorem history_invariant {ok : σ → ι → Prop} {R : σ → List ω → Prop}
    (hstep : ∀ s i out, R s out → ok s i → R (M.step s i).1 (out ++ (M.step s i).2))
    {s : σ} {out : List ω} (h : R s out) {is : List ι} (his : M.Meets ok s is) :
    R (M.run s is) (out ++ M.trace s is) := by
  induction is generalizing s out with
  | nil => simpa using h
  | cons i is ih =>
      have hnext := ih (hstep s i out h his.1) his.2
      rw [List.append_assoc] at hnext
      exact hnext

/-- **Journal rule.** What every step keeps between the state and the inputs so far holds after
every run. -/
theorem run_journal {R : σ → List ι → Prop}
    (hstep : ∀ s past i, R s past → R (M.step s i).1 (past ++ [i])) {s : σ} {past : List ι}
    (h : R s past) (is : List ι) : R (M.run s is) (past ++ is) := by
  induction is generalizing s past with
  | nil => simpa using h
  | cons i is ih =>
      have hnext := ih (hstep s past i h)
      rw [List.append_assoc] at hnext
      exact hnext

/-- An output of a run is one of the step after some prefix of it. -/
theorem exists_step_of_mem_trace {s : σ} {is : List ι} {o : ω} (h : o ∈ M.trace s is) :
    ∃ before i after, is = before ++ i :: after ∧ o ∈ (M.step (M.run s before) i).2 := by
  induction is generalizing s with
  | nil => cases h
  | cons i is ih =>
      rcases List.mem_append.mp h with hnow | hlater
      · exact ⟨[], i, is, rfl, hnow⟩
      · obtain ⟨before, j, after, heq, hmem⟩ := ih hlater
        exact ⟨i :: before, j, after, by rw [heq]; rfl, hmem⟩

/-- Two conditions that agree wherever the agenda is kept are met by the same runs. -/
theorem meets_congr_of_agenda {ok₁ ok₂ : σ → ι → Prop} {P : σ → List ι → Prop}
    (hstep : ∀ s i is, P s (i :: is) → P (M.step s i).1 is)
    (hok : ∀ s i is, P s (i :: is) → (ok₁ s i ↔ ok₂ s i)) {s : σ} {is : List ι} (h : P s is) :
    M.Meets ok₁ s is ↔ M.Meets ok₂ s is := by
  induction is generalizing s with
  | nil => exact Iff.rfl
  | cons i is ih => rw [meets_cons, meets_cons, hok s i is h, ih (hstep s i is h)]

/-- **Budget rule.** Outputs of one kind are paid from a budget that no step raises, so there
are no more of them in a run than the budget at its start. -/
theorem countP_trace_le {ok : σ → ι → Prop} {P : σ → Prop} {p : ω → Bool} {b : σ → Nat}
    (hstep : ∀ s i, P s → ok s i → P (M.step s i).1 ∧
      (M.step s i).2.countP p + b (M.step s i).1 ≤ b s)
    {s : σ} (hs : P s) {is : List ι} (his : M.Meets ok s is) :
    (M.trace s is).countP p ≤ b s := by
  induction is generalizing s with
  | nil => simp
  | cons i is ih =>
      obtain ⟨hnext, hle⟩ := hstep s i hs his.1
      have hrest := ih hnext his.2
      rw [trace_cons, List.countP_append]
      omega

/-! ## Simulation -/

section Simulation

variable {τ κ υ : Type*} {N : Machine τ κ υ} {abs : σ → τ} {passed : σ → ι → List κ}

/-- The machine, with what it passes on in place of its outputs. -/
def passing (passed : σ → ι → List κ) : Machine σ ι κ := ⟨fun s i => ((M.step s i).1, passed s i)⟩

/-- **Simulation rule.** Where each step of a machine is a run of another one on what the step
passes on, so is each run. -/
theorem run_of_simulation (h : ∀ s i, abs (M.step s i).1 = N.run (abs s) (passed s i)) (s : σ)
    (is : List ι) : abs (M.run s is) = N.run (abs s) ((M.passing passed).trace s is) := by
  induction is generalizing s with
  | nil => rfl
  | cons i is ih =>
      rw [run_cons, ih, trace_cons, run_append, h]
      rfl

end Simulation

/-- A fold, as a machine that puts out nothing. -/
def ofFold (op : σ → ι → σ) : Machine σ ι Empty := ⟨fun s i => (op s i, [])⟩

@[simp] theorem step_ofFold (op : σ → ι → σ) (s : σ) (i : ι) :
    ((ofFold op).step s i).1 = op s i := rfl

theorem run_ofFold (op : σ → ι → σ) (s : σ) (is : List ι) :
    (ofFold op).run s is = is.foldl op s := by
  induction is generalizing s with
  | nil => rfl
  | cons i is ih => exact ih (op s i)

end Machine
