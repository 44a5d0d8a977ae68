import Mathlib.Data.List.Basic

set_option autoImplicit false

/-!
# Outputs fed through a lossy queue

A party posts items, some of them reach a queue, and the queue's owner takes them one by one and
puts out what an item grants. Whatever is lost on the way, all that is put out was granted by
the posted items, in their order, and each item was used once at most (`Granted`). `Fed` is the
invariant of the queue that gives this: it holds a sublist of what was posted since the last item
that was used.
-/

variable {ι ω : Type*} {grants : ι → List ω → Prop}

/-- A list of outputs that consists of blocks, each granted by an item of its own, in the order of
the items. -/
inductive Granted (grants : ι → List ω → Prop) : List ι → List ω → Prop
  | nil : Granted grants [] []
  | skip {items : List ι} {out : List ω} (item : ι) (h : Granted grants items out) :
      Granted grants (items ++ [item]) out
  | take {items : List ι} {out new : List ω} {item : ι} (h : Granted grants items out)
      (hnew : grants item new) : Granted grants (items ++ [item]) (out ++ new)

theorem Granted.append {items : List ι} {out : List ω} (h : Granted grants items out)
    (more : List ι) : Granted grants (items ++ more) out := by
  induction more generalizing items with
  | nil => simpa using h
  | cons item more ih =>
      have hnext := ih (h.skip item)
      rw [List.append_assoc] at hnext
      exact hnext

/-- Every output is in a block that a posted item granted. -/
theorem Granted.exists_of_mem {items : List ι} {out : List ω} (h : Granted grants items out) {o : ω}
    (ho : o ∈ out) : ∃ item ∈ items, ∃ block, grants item block ∧ o ∈ block := by
  induction h with
  | nil => cases ho
  | skip item _ ih =>
      obtain ⟨i, hi, hblock⟩ := ih ho
      exact ⟨i, List.mem_append_left _ hi, hblock⟩
  | @take items out new item _ hnew ih =>
      rcases List.mem_append.mp ho with hold | hin
      · obtain ⟨i, hi, hblock⟩ := ih hold
        exact ⟨i, List.mem_append_left _ hi, hblock⟩
      · exact ⟨item, List.mem_append_right _ (List.mem_singleton_self item), new, hnew, hin⟩

/-- What was put out is granted by a first part of the posted items, and the queue holds some of
the rest, in their order. -/
def Fed (grants : ι → List ω → Prop) (posted queue : List ι) (out : List ω) : Prop :=
  ∃ used rest, posted = used ++ rest ∧ queue.Sublist rest ∧ Granted grants used out

namespace Fed

variable {posted queue : List ι} {out : List ω}

theorem nil : Fed grants [] [] [] := ⟨[], [], rfl, List.Sublist.slnil, .nil⟩

theorem granted (h : Fed grants posted queue out) : Granted grants posted out := by
  obtain ⟨used, rest, rfl, -, hgranted⟩ := h
  exact hgranted.append rest

/-- The queue may lose items. -/
theorem lose {kept : List ι} (h : Fed grants posted queue out) (hkept : kept.Sublist queue) :
    Fed grants posted kept out := by
  obtain ⟨used, rest, hposted, hqueue, hgranted⟩ := h
  exact ⟨used, rest, hposted, hkept.trans hqueue, hgranted⟩

/-- A posted item that does not reach the queue. -/
theorem miss (h : Fed grants posted queue out) (more : List ι) :
    Fed grants (posted ++ more) queue out := by
  obtain ⟨used, rest, rfl, hqueue, hgranted⟩ := h
  exact ⟨used, rest ++ more, List.append_assoc .., hqueue.trans (List.sublist_append_left ..),
    hgranted⟩

/-- A posted item that is put at the end of the queue. -/
theorem post (h : Fed grants posted queue out) (item : ι) :
    Fed grants (posted ++ [item]) (queue ++ [item]) out := by
  obtain ⟨used, rest, rfl, hqueue, hgranted⟩ := h
  exact ⟨used, rest ++ [item], List.append_assoc .., hqueue.append (List.Sublist.refl _), hgranted⟩

/-- The head of the queue is taken, and what it grants is put out. -/
theorem take {item : ι} {new : List ω} (h : Fed grants posted (item :: queue) out)
    (hnew : grants item new) : Fed grants posted queue (out ++ new) := by
  obtain ⟨used, rest, rfl, hqueue, hgranted⟩ := h
  -- what was posted before the head was lost
  obtain ⟨lost, later, rfl, hin, hlater⟩ := List.cons_sublist_iff.mp hqueue
  obtain ⟨before, after, rfl⟩ := List.append_of_mem hin
  refine ⟨used ++ before ++ [item], after ++ later, ?_, ?_, (hgranted.append before).take hnew⟩
  · simp
  · exact hlater.trans (List.sublist_append_right ..)

end Fed
