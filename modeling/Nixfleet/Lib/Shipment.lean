import Mathlib.Data.List.Pairwise
import Mathlib.Order.Lattice.Nat

set_option autoImplicit false

/-!
# Numbered items, sent until they are answered for

A sender numbers its items from 1 and keeps each one in a store until the receiver has answered for
it. A pass of the sender holds stored numbers in order; it sends them one by one and ends at the
first one without an answer. The receiver queues what it answers for, unless it has applied that
number or a later one, and applies its queue in order. Answers get lost, and items are sent again.
As long as nothing queued is lost, the receiver applies the next number or one that it has applied
before (`Sound.recv`), and it has applied everything once the store and the queue are empty
(`Sound.drained`).
-/

/-- The numbers on their way from a sender to a receiver. -/
structure Shipment where
  /-- The items `1, …, written` exist. -/
  written : Nat
  stored : Nat → Prop
  /-- What the sender's pass has yet to send. -/
  pass : List Nat
  /-- What the receiver has queued, oldest first. -/
  transit : List Nat
  /-- The last number that the receiver has applied. -/
  applied : Nat

namespace Shipment

variable {s s' : Shipment} {a n : Nat} {l rest : List Nat}

/-! ## Queues without a gap -/

/-- A receiver that has applied `a` meets no number above the next one. -/
def Gapless : Nat → List Nat → Prop
  | _, [] => True
  | a, n :: l => n ≤ a + 1 ∧ Gapless (max a n) l

/-- The last number, once everything queued is applied. -/
def reach (s : Shipment) : Nat := s.transit.foldl max s.applied

theorem le_foldl_max (a : Nat) (l : List Nat) : a ≤ l.foldl max a := by
  induction l generalizing a with
  | nil => exact Nat.le_refl a
  | cons n l ih => exact (Nat.le_max_left a n).trans (ih (max a n))

theorem Gapless.append (h : Gapless a l) (hn : n ≤ l.foldl max a + 1) : Gapless a (l ++ [n]) := by
  induction l generalizing a with
  | nil => exact ⟨hn, trivial⟩
  | cons m l ih => exact ⟨h.1, ih h.2 hn⟩

theorem applied_le_reach (s : Shipment) : s.applied ≤ s.reach := le_foldl_max _ _

/-! ## Steps -/

/-- What may happen to a shipment. An item may leave the store once it is received. -/
inductive Step : Shipment → Shipment → Prop
  /-- Something is stored that was stored before, or nothing happens. -/
  | idle (s : Shipment) (stored : Nat → Prop) (hstored : ∀ k, s.stored k → stored k) :
      Step s { s with stored := stored }
  /-- The next item is written. -/
  | write (s : Shipment) (stored : Nat → Prop)
      (hstored : ∀ k, s.stored k ∨ k = s.written + 1 → stored k) :
      Step s { s with written := s.written + 1, stored := stored }
  /-- A pass begins, with no stored number left out before one that it holds. -/
  | scan (s : Shipment) (pass : List Nat) (hsorted : pass.Pairwise (· < ·))
      (hwritten : ∀ m ∈ pass, m ≤ s.written)
      (hclosed : ∀ m ∈ pass, ∀ k, s.stored k → k < m → k ∈ pass) :
      Step s { s with pass := pass }
  /-- The next item of the pass is received, with or without the sender's notice. -/
  | receive (s : Shipment) (n : Nat) (rest pass transit : List Nat) (stored : Nat → Prop)
      (hnext : s.pass = n :: rest) (hpass : pass = rest ∨ pass = [])
      (htransit : transit = s.transit ++ [n] ∨ n ≤ s.applied ∧ transit = s.transit)
      (hstored : ∀ k, s.stored k → k ≠ n → stored k) :
      Step s { s with pass := pass, transit := transit, stored := stored }
  /-- The pass ends. -/
  | halt (s : Shipment) : Step s { s with pass := [] }
  /-- The receiver applies the oldest number, unless it has applied that one or a later one. -/
  | recv (s : Shipment) (n : Nat) (rest : List Nat) (hnext : s.transit = n :: rest) :
      Step s { s with transit := rest, applied := max s.applied n }

/-! ## Soundness -/

/-- Nothing is lost: what the receiver has not got is stored, and a pass skips nothing of it. -/
structure Sound (s : Shipment) : Prop where
  stored : ∀ k, s.reach < k → k ≤ s.written → s.stored k
  reach_le : s.reach ≤ s.written
  sorted : s.pass.Pairwise (· < ·)
  pass_le : ∀ m ∈ s.pass, m ≤ s.written
  closed : ∀ m ∈ s.pass, ∀ k, s.reach < k → k < m → k ∈ s.pass
  gapless : Gapless s.applied s.transit

/-- Nothing is sent before what comes before it is received. -/
theorem Sound.next (h : s.Sound) (hnext : s.pass = n :: rest) : n ≤ s.reach + 1 := by
  by_contra hlt
  have hmem : s.reach + 1 ∈ s.pass :=
    h.closed n (hnext ▸ List.mem_cons_self) _ (Nat.lt_succ_self _) (by omega)
  have hsorted := h.sorted
  rw [hnext] at hmem hsorted
  rcases List.mem_cons.mp hmem with heq | hlater
  · omega
  · have hgt := (List.pairwise_cons.mp hsorted).1 _ hlater
    omega

/-- **In order.** What is applied next is the next number, or one that has been applied. -/
theorem Sound.recv (h : s.Sound) (hnext : s.transit = n :: rest) :
    n ≤ s.applied ∨ n = s.applied + 1 := by
  have hgapless := h.gapless
  rw [hnext] at hgapless
  have hle := hgapless.1
  omega

theorem Sound.applied_le (h : s.Sound) : s.applied ≤ s.written :=
  s.applied_le_reach.trans h.reach_le

/-- **Up to date.** With nothing stored and nothing queued everything is applied. -/
theorem Sound.drained (h : s.Sound) (hstored : ∀ k, 0 < k → ¬ s.stored k)
    (htransit : s.transit = []) : s.applied = s.written := by
  have hreach : s.reach = s.applied := by rw [reach, htransit, List.foldl_nil]
  rcases Nat.lt_or_ge s.applied s.written with hlt | hge
  · have hmissing := h.stored (s.applied + 1) (by omega) (by omega)
    exact absurd hmissing (hstored _ (Nat.succ_pos _))
  · exact Nat.le_antisymm h.applied_le hge

/-- A shipment of which nothing is on its way. -/
theorem sound_of_level (written : Nat) (stored : Nat → Prop) :
    Sound ⟨written, stored, [], [], written⟩ := by
  refine ⟨fun k hlt hle => ?_, Nat.le_refl written, List.Pairwise.nil, nofun, nofun, trivial⟩
  exact absurd (Nat.lt_of_lt_of_le hlt hle) (Nat.lt_irrefl _)

/-- The receiver reaches the number that it receives, and no further. -/
theorem reach_receive {transit : List Nat}
    (h : transit = s.transit ++ [n] ∨ n ≤ s.applied ∧ transit = s.transit) :
    transit.foldl max s.applied = max s.reach n := by
  rcases h with rfl | ⟨hle, rfl⟩
  · rw [List.foldl_append]
    rfl
  · exact (Nat.max_eq_left (hle.trans s.applied_le_reach)).symm

/-- **Every step keeps a shipment sound.** -/
theorem Step.sound (hstep : Step s s') (h : s.Sound) : s'.Sound := by
  cases hstep with
  | idle stored hstored =>
      exact ⟨fun k hlt hle => hstored k (h.stored k hlt hle), h.reach_le, h.sorted, h.pass_le,
        h.closed, h.gapless⟩
  | write stored hstored =>
      refine ⟨fun k hlt hle => hstored k ?_, h.reach_le.trans (Nat.le_succ _), h.sorted,
        fun m hm => (h.pass_le m hm).trans (Nat.le_succ _), h.closed, h.gapless⟩
      rcases Nat.lt_or_eq_of_le hle with hold | hnew
      · exact .inl (h.stored k hlt (Nat.le_of_lt_succ hold))
      · exact .inr hnew
  | scan pass hsorted hwritten hclosed =>
      refine ⟨h.stored, h.reach_le, hsorted, hwritten, fun m hm k hlt hkm => ?_, h.gapless⟩
      have hle := hwritten m hm
      exact hclosed m hm k (h.stored k hlt (by omega)) hkm
  | receive n rest pass transit stored hnext hpass htransit hstored =>
      have hreach : Shipment.reach ⟨s.written, stored, pass, transit, s.applied⟩ = max s.reach n :=
        reach_receive htransit
      have hsorted := h.sorted
      have hle := h.pass_le n (hnext ▸ List.mem_cons_self)
      have hmem : ∀ m ∈ pass, m ∈ rest := by
        intro m hm
        rcases hpass with rfl | rfl
        · exact hm
        · cases hm
      rw [hnext] at hsorted
      refine ⟨fun k hlt hle' => ?_, ?_, ?_, fun m hm => ?_, fun m hm k hlt hkm => ?_, ?_⟩
      · rw [hreach] at hlt
        exact hstored k (h.stored k (by omega) hle') (by omega)
      · rw [hreach]
        exact Nat.max_le.mpr ⟨h.reach_le, hle⟩
      · rcases hpass with rfl | rfl
        · exact (List.pairwise_cons.mp hsorted).2
        · exact List.Pairwise.nil
      · exact h.pass_le m (hnext ▸ List.mem_cons_of_mem _ (hmem m hm))
      · rw [hreach] at hlt
        have hin := h.closed m (hnext ▸ List.mem_cons_of_mem _ (hmem m hm)) k (by omega) hkm
        rw [hnext] at hin
        rcases hpass with rfl | rfl
        · exact (List.mem_cons.mp hin).resolve_left (by omega)
        · cases hm
      · rcases htransit with rfl | ⟨-, rfl⟩
        · exact h.gapless.append (h.next hnext)
        · exact h.gapless
  | halt => exact ⟨h.stored, h.reach_le, List.Pairwise.nil, nofun, nofun, h.gapless⟩
  | recv n rest hnext =>
      have hreach : Shipment.reach ⟨s.written, s.stored, s.pass, rest, max s.applied n⟩ =
          s.reach := by
        rw [reach, reach, hnext, List.foldl_cons]
      have hgapless := h.gapless
      rw [hnext] at hgapless
      refine ⟨?_, ?_, h.sorted, h.pass_le, ?_, hgapless.2⟩
      · rw [hreach]
        exact h.stored
      · rw [hreach]
        exact h.reach_le
      · rw [hreach]
        exact h.closed

end Shipment
