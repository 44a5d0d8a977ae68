import Nixfleet.Lib.Table

set_option autoImplicit false

/-!
# Watch channels

A `Watch` tells its receivers that something has changed, not what: sending makes a new version, and
a receiver is ready while the newest version is not the one that it has seen. Receivers that look
for work on their own need two things not to sleep on it: whoever makes work sends afterwards, and
a receiver goes to sleep only where it has found none. `Alert` is what these two keep.
-/

universe u

/-- A channel: its version, and the version that each receiver has seen. -/
structure Watch (ι : Type u) [DecidableEq ι] where
  version : Nat
  seen : Table ι Nat
  seen_le : ∀ id v, seen.lookup id = some v → v ≤ version

namespace Watch

variable {ι : Type u} [DecidableEq ι]

/-- A channel without receivers. -/
def empty : Watch ι := ⟨0, ∅, fun _ _ h => by cases h⟩

/-- The receiver takes the newest version for seen: a new one, or one that has looked. -/
def see (w : Watch ι) (id : ι) : Watch ι where
  version := w.version
  seen := w.seen.insert id w.version
  seen_le := by
    intro id' v h
    rw [Table.lookup_insert_eq] at h
    split at h
    · cases h
      exact Nat.le_refl _
    · exact w.seen_le id' v h

/-- Without a receiver nothing is sent. -/
def send (w : Watch ι) : Watch ι :=
  if w.seen.rows.isEmpty then w
  else ⟨w.version + 1, w.seen, fun id v h => Nat.le_succ_of_le (w.seen_le id v h)⟩

/-- The receiver is dropped. -/
def drop (w : Watch ι) (id : ι) : Watch ι where
  version := w.version
  seen := w.seen.erase id
  seen_le := by
    intro id' v h
    by_cases heq : id' = id
    · rw [heq, AList.lookup_erase] at h
      cases h
    · rw [AList.lookup_erase_ne heq] at h
      exact w.seen_le id' v h

/-- The receiver has not seen the newest version. -/
def ready (w : Watch ι) (id : ι) : Bool :=
  (w.seen.lookup id).any (· < w.version)

/-- The receiver is there. -/
def Receives (w : Watch ι) (id : ι) : Prop := (w.seen.lookup id).isSome = true

section Lemmas

variable {w : Watch ι} {id id' : ι}

theorem receives_see : (w.see id).Receives id' ↔ id' = id ∨ w.Receives id' := by
  unfold Receives see
  rw [Table.lookup_insert_eq]
  by_cases h : id' = id <;> simp [h]

theorem receives_drop_of_ne (h : id' ≠ id) : (w.drop id).Receives id' ↔ w.Receives id' := by
  unfold Receives drop
  rw [AList.lookup_erase_ne h]

theorem receives_send : w.send.Receives id ↔ w.Receives id := by
  unfold send
  split <;> exact Iff.rfl

theorem ready_see_of_ne (h : id' ≠ id) : (w.see id).ready id' = w.ready id' := by
  unfold ready see
  rw [Table.lookup_insert_eq, if_neg h]

theorem ready_drop_of_ne (h : id' ≠ id) : (w.drop id).ready id' = w.ready id' := by
  unfold ready drop
  rw [AList.lookup_erase_ne h]

/-- **Sending wakes every receiver.** -/
theorem ready_send (h : w.Receives id) : w.send.ready id = true := by
  obtain ⟨v, hv⟩ := Option.isSome_iff_exists.mp h
  have hsome : w.seen.rows.isEmpty = false := by
    have hmem : (id, v) ∈ w.seen.rows := Table.mem_rows.mpr hv
    cases hrows : w.seen.rows with
    | nil =>
        rw [hrows] at hmem
        cases hmem
    | cons => rfl
  have hle := w.seen_le id v hv
  simp only [send, hsome, ready, Bool.false_eq_true, if_false, hv, Option.any_some,
    decide_eq_true_eq]
  omega

end Lemmas

/-- Every receiver that has work is ready, or something is going to be sent. -/
def Alert (w : Watch ι) (work : ι → Prop) (sending : Prop) : Prop :=
  ∀ id, w.Receives id → work id → w.ready id = true ∨ sending

section Alert

variable {w : Watch ι} {id : ι} {work work' : ι → Prop} {sending sending' : Prop}

/-- Work that was not there before is announced. -/
theorem Alert.change (h : w.Alert work sending) (hwork : ∀ id, work' id → work id ∨ sending')
    (hsending : sending → sending') : w.Alert work' sending' := by
  intro id hreceives hnew
  rcases hwork id hnew with hold | hannounced
  · exact (h id hreceives hold).imp_right hsending
  · exact .inr hannounced

/-- What is sent wakes every receiver. -/
theorem Alert.send (w : Watch ι) (work : ι → Prop) (sending : Prop) : w.send.Alert work sending :=
  fun _ hreceives _ => .inl (ready_send (receives_send.mp hreceives))

/-- A receiver goes to sleep without work, or where something is going to be sent. -/
theorem Alert.see (h : w.Alert work sending) (hid : work id → sending) :
    (w.see id).Alert work sending := by
  intro id' hreceives hwork
  by_cases heq : id' = id
  · exact .inr (hid (heq ▸ hwork))
  · rw [ready_see_of_ne heq]
    exact h id' ((receives_see.mp hreceives).resolve_left heq) hwork

theorem Alert.drop (h : w.Alert work sending) (hid : ¬ work id) :
    (w.drop id).Alert work sending := by
  intro id' hreceives hwork
  by_cases heq : id' = id
  · exact absurd (heq ▸ hwork) hid
  · rw [ready_drop_of_ne heq]
    exact h id' ((receives_drop_of_ne heq).mp hreceives) hwork

end Alert

end Watch
