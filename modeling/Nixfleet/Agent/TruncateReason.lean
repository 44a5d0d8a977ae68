import Mathlib.Order.Bounds.Basic
import Nixfleet.Agent.Evidence
import Nixfleet.Lib.Utf8

set_option autoImplicit false

/-!
# Failure reasons of bounded length

`truncate_reason` cuts a reason at the last character boundary within the limit. `truncateReasonAt`
is its code, with the limit as a parameter and `none` for a panic; `truncateReason` is what it
computes at the limit of the source (`truncateReasonAt_failureReasonMaxLen`).
-/

namespace Nixfleet

open Utf8

/-- What is put after a reason that was cut. -/
def truncatedMark : String := "...[truncated]"

/-- `while !s.is_char_boundary(end) { end -= 1 }`, and the `end` it stops at. At `0` the
subtraction would overflow. -/
def walkBack (s : String) : Nat → Option Nat
  | 0 => if isCharBoundary s 0 then some 0 else none
  | n + 1 => if isCharBoundary s (n + 1) then some (n + 1) else walkBack s n

/-- `truncate_reason`, with the limit for `FAILURE_REASON_MAX_LEN`. -/
def truncateReasonAt (limit : Nat) (s : String) : Option String :=
  if s.utf8ByteSize > limit then do
    let last ← walkBack s limit
    let kept ← sliceTo s last
    some (kept ++ truncatedMark)
  else some s

/-! ## The loop -/

/-- The character boundaries within a limit. -/
def boundariesUpTo (s : String) (limit : Nat) : Set Nat :=
  {index | isCharBoundary s index = true ∧ index ≤ limit}

/-- The loop stops at the last boundary. -/
theorem walkBack_spec (s : String) (limit : Nat) :
    ∃ last, walkBack s limit = some last ∧ IsGreatest (boundariesUpTo s limit) last := by
  induction limit with
  | zero =>
      refine ⟨0, by rw [walkBack, if_pos (isCharBoundary_zero s)], ?_⟩
      exact ⟨⟨isCharBoundary_zero s, Nat.le_refl 0⟩, fun index h => h.2⟩
  | succ n ih =>
      by_cases hn : isCharBoundary s (n + 1) = true
      · refine ⟨n + 1, by rw [walkBack, if_pos hn], ?_⟩
        exact ⟨⟨hn, Nat.le_refl _⟩, fun index h => h.2⟩
      · obtain ⟨last, hlast, hmem, hgreatest⟩ := ih
        refine ⟨last, by rw [walkBack, if_neg hn, hlast], ⟨hmem.1, by have := hmem.2; omega⟩, ?_⟩
        rintro index ⟨hindex, hle⟩
        have hne : index ≠ n + 1 := fun h => hn (h ▸ hindex)
        exact hgreatest ⟨hindex, by omega⟩

/-- A string that fits ends at its last boundary. -/
theorem isGreatest_utf8ByteSize {s : String} {limit : Nat} (h : s.utf8ByteSize ≤ limit) :
    IsGreatest (boundariesUpTo s limit) s.utf8ByteSize :=
  ⟨⟨isCharBoundary_utf8ByteSize s, h⟩, fun _ hindex => le_utf8ByteSize hindex.1⟩

/-- A string that does not fit is cut at its last boundary. -/
theorem truncateReasonAt_append {limit : Nat} {kept cut : String}
    (hsize : limit < (kept ++ cut).utf8ByteSize)
    (hkept : IsGreatest (boundariesUpTo (kept ++ cut) limit) kept.utf8ByteSize) :
    truncateReasonAt limit (kept ++ cut) = some (kept ++ truncatedMark) := by
  obtain ⟨last, hwalk, hlast⟩ := walkBack_spec (kept ++ cut) limit
  obtain rfl : last = kept.utf8ByteSize := hlast.unique hkept
  rw [truncateReasonAt, if_pos hsize, hwalk]
  show ((sliceTo (kept ++ cut) kept.utf8ByteSize).bind fun kept => some (kept ++ truncatedMark)) = _
  rw [sliceTo_append, Option.bind_some]

/-! ## At the limit of the source -/

/-- The bytes that the characters take. -/
def bytesOf (l : List Char) : Nat := (l.map Char.utf8Size).sum

theorem takeBytes_append {n : Nat} {front : List Char} (hfront : bytesOf front ≤ n)
    (rest : List Char) :
    takeBytes n (front ++ rest) = front ++ takeBytes (n - bytesOf front) rest := by
  induction front generalizing n with
  | nil => rfl
  | cons c front ih =>
      have hsum : bytesOf (c :: front) = c.utf8Size + bytesOf front := by simp [bytesOf]
      rw [hsum] at hfront
      rw [List.cons_append, takeBytes, if_pos (by omega), ih (by omega), hsum, Nat.sub_add_eq]
      rfl

/-- A short front of a reason is not cut off. -/
theorem prefix_truncateReason {front : List Char} {s : String} (hs : front <+: s.toList)
    (hfront : bytesOf front ≤ failureReasonMaxLen) : front <+: (truncateReason s).toList := by
  obtain ⟨rest, hrest⟩ := hs
  unfold truncateReason
  split
  · rw [String.toList_append, String.toList_ofList, ← hrest, takeBytes_append hfront,
      List.append_assoc]
    exact List.prefix_append _ _
  · exact ⟨rest, hrest⟩

theorem utf8ByteSize_eq_bytesOf (l : List Char) : (String.ofList l).utf8ByteSize = bytesOf l :=
  utf8ByteSize_ofList l

theorem bytesOf_append (l l' : List Char) : bytesOf (l ++ l') = bytesOf l + bytesOf l' := by
  simp [bytesOf]

theorem takeBytes_prefix (n : Nat) (l : List Char) :
    takeBytes n l <+: l ∧ bytesOf (takeBytes n l) ≤ n := by
  induction l generalizing n with
  | nil => exact ⟨List.prefix_refl _, Nat.zero_le n⟩
  | cons c l ih =>
      rw [takeBytes]
      by_cases hc : c.utf8Size ≤ n
      · rw [if_pos hc]
        obtain ⟨hstarts, hle⟩ := ih (n - c.utf8Size)
        refine ⟨(List.prefix_cons_inj c).mpr hstarts, ?_⟩
        have hcons := bytesOf_append [c] (takeBytes (n - c.utf8Size) l)
        have hone : bytesOf [c] = c.utf8Size := by simp [bytesOf]
        rw [List.singleton_append] at hcons
        omega
      · rw [if_neg hc]
        exact ⟨List.nil_prefix, Nat.zero_le n⟩

/-- The longest prefix ends at the last boundary. -/
theorem isGreatest_takeBytes (limit : Nat) (s : String) :
    IsGreatest (boundariesUpTo s limit) (bytesOf (takeBytes limit s.toList)) := by
  obtain ⟨⟨rest, hrest⟩, hle⟩ := takeBytes_prefix limit s.toList
  have hs : s = String.ofList (takeBytes limit s.toList) ++ String.ofList rest := by
    rw [← String.ofList_append, hrest, String.ofList_toList]
  refine ⟨⟨?_, hle⟩, ?_⟩
  · exact isCharBoundary_iff.mpr ⟨_, _, hs, utf8ByteSize_eq_bytesOf _⟩
  · rintro index ⟨hindex, hlimit⟩
    obtain ⟨front, back, rfl, rfl⟩ := isCharBoundary_iff.mp hindex
    have hfront : bytesOf front.toList = front.utf8ByteSize := by
      rw [← utf8ByteSize_eq_bytesOf, String.ofList_toList]
    rw [String.toList_append, takeBytes_append (hfront ▸ hlimit), bytesOf_append, hfront]
    exact Nat.le_add_right _ _

/-- The code and what it computes. -/
theorem truncateReasonAt_failureReasonMaxLen (s : String) :
    truncateReasonAt failureReasonMaxLen s = some (truncateReason s) := by
  by_cases hfits : s.utf8ByteSize > failureReasonMaxLen
  · obtain ⟨⟨rest, hrest⟩, -⟩ := takeBytes_prefix failureReasonMaxLen s.toList
    have hs : s = String.ofList (takeBytes failureReasonMaxLen s.toList) ++ String.ofList rest := by
      rw [← String.ofList_append, hrest, String.ofList_toList]
    have hkept := isGreatest_takeBytes failureReasonMaxLen s
    rw [← utf8ByteSize_eq_bytesOf] at hkept
    rw [truncateReason, if_pos hfits]
    have hcut : truncateReasonAt failureReasonMaxLen
        (String.ofList (takeBytes failureReasonMaxLen s.toList) ++ String.ofList rest) =
          some (String.ofList (takeBytes failureReasonMaxLen s.toList) ++ truncatedMark) :=
      truncateReasonAt_append (by rw [← hs]; exact hfits) (by rw [← hs]; exact hkept)
    rw [← hs] at hcut
    exact hcut
  · rw [truncateReasonAt, truncateReason, if_neg hfits, if_neg hfits]

/-! ## What is returned -/

/-- **What `truncate_reason` returns.** It keeps the part up to the last boundary within the limit,
and the reason is unchanged iff it fits or the part it loses is the mark. -/
theorem truncateReasonAt_correct (limit : Nat) (s : String) :
    ∃ kept cut, s = kept ++ cut ∧
      IsGreatest (boundariesUpTo s limit) kept.utf8ByteSize ∧
      truncateReasonAt limit s =
        some (if s.utf8ByteSize ≤ limit then s else kept ++ truncatedMark) ∧
      (truncateReasonAt limit s = some s ↔ s.utf8ByteSize ≤ limit ∨ cut = truncatedMark) := by
  by_cases hfits : s.utf8ByteSize ≤ limit
  · have hsame : truncateReasonAt limit s = some s := if_neg (Nat.not_lt.mpr hfits)
    refine ⟨s, "", by simp, isGreatest_utf8ByteSize hfits, by rw [hsame, if_pos hfits], ?_⟩
    exact iff_of_true hsame (.inl hfits)
  · obtain ⟨last, -, hlast⟩ := walkBack_spec s limit
    obtain ⟨kept, cut, rfl, rfl⟩ := isCharBoundary_iff.mp hlast.1.1
    have hcut := truncateReasonAt_append (Nat.not_le.mp hfits) hlast
    refine ⟨kept, cut, rfl, hlast, by rw [hcut, if_neg hfits], ?_⟩
    rw [hcut, Option.some.injEq, String.append_right_inj]
    constructor
    · exact fun h => .inr h.symm
    · rintro (h | h)
      · exact absurd h hfits
      · exact h.symm

/-- A reason that ends in the mark, behind a part that fills the limit. -/
def markedReason : String := String.ofList (List.replicate failureReasonMaxLen 'x') ++ truncatedMark

/-- It is too long, and is cut to itself. -/
theorem truncateReasonAt_markedReason :
    failureReasonMaxLen < markedReason.utf8ByteSize ∧
      truncateReasonAt failureReasonMaxLen markedReason = some markedReason := by
  have hsize : (String.ofList (List.replicate failureReasonMaxLen 'x')).utf8ByteSize =
      failureReasonMaxLen := by
    rw [utf8ByteSize_ofList, List.map_replicate, List.sum_replicate_nat]
    rfl
  have hlong : failureReasonMaxLen < markedReason.utf8ByteSize := by
    rw [markedReason, String.utf8ByteSize_append, hsize]
    decide
  refine ⟨hlong, truncateReasonAt_append hlong ?_⟩
  refine ⟨⟨isCharBoundary_append _ _, ?_⟩, fun index hindex => ?_⟩
  · exact hsize.le
  · rw [hsize]
    exact hindex.2

end Nixfleet
