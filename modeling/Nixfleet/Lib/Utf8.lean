import Mathlib.Algebra.Ring.Nat

set_option autoImplicit false

/-!
# Strings and their bytes

An offset into a string counts bytes. A string can be cut at an offset that is a character boundary,
and at no other: `slice` is `none` where a cut would be inside a character. A boundary is where the
string falls into two strings (`isCharBoundary_iff`), and what is cut out is the string that stands
there (`slice_append`).

The bytes of a string are those of its characters (`fromUtf8_eq_some`). A filter that keeps every
byte outside ASCII is a filter of the characters (`filter_utf8Bytes`).
-/

namespace Utf8

/-! ## Boundaries -/

/-- The offset is at the first byte of a character, or at the end. -/
def isCharBoundary (s : String) (index : Nat) : Bool := String.Pos.Raw.isValid s ⟨index⟩

theorem isCharBoundary_iff {s : String} {index : Nat} :
    isCharBoundary s index = true ↔
      ∃ front rest, s = front ++ rest ∧ front.utf8ByteSize = index := by
  rw [isCharBoundary, String.Pos.Raw.isValid_eq_true_iff, String.Pos.Raw.isValid_iff_exists_append]
  constructor
  · rintro ⟨front, rest, hs, hindex⟩
    exact ⟨front, rest, hs, (congrArg String.Pos.Raw.byteIdx hindex).symm⟩
  · rintro ⟨front, rest, hs, rfl⟩
    exact ⟨front, rest, hs, rfl⟩

theorem isCharBoundary_append (front rest : String) :
    isCharBoundary (front ++ rest) front.utf8ByteSize = true :=
  isCharBoundary_iff.mpr ⟨front, rest, rfl, rfl⟩

theorem isCharBoundary_zero (s : String) : isCharBoundary s 0 = true :=
  isCharBoundary_iff.mpr ⟨"", s, by simp, rfl⟩

theorem isCharBoundary_utf8ByteSize (s : String) : isCharBoundary s s.utf8ByteSize = true :=
  isCharBoundary_iff.mpr ⟨s, "", by simp, rfl⟩

theorem le_utf8ByteSize {s : String} {index : Nat} (h : isCharBoundary s index = true) :
    index ≤ s.utf8ByteSize := by
  obtain ⟨front, rest, rfl, rfl⟩ := isCharBoundary_iff.mp h
  rw [String.utf8ByteSize_append]
  exact Nat.le_add_right _ _

/-- A boundary inside a front is one of the front. -/
theorem isCharBoundary_of_lt {front rest : String} {index : Nat}
    (h : isCharBoundary (front ++ rest) index = true) (hlt : index < front.utf8ByteSize) :
    isCharBoundary front index = true := by
  unfold isCharBoundary at h ⊢
  rw [String.Pos.Raw.isValid_eq_true_iff] at h ⊢
  rcases String.Pos.Raw.isValid_append.mp h with hfront | ⟨hle, -⟩
  · exact hfront
  · exact absurd (String.Pos.Raw.le_iff.mp hle) (Nat.not_le.mpr hlt)

theorem utf8ByteSize_ofList (l : List Char) :
    (String.ofList l).utf8ByteSize = (l.map Char.utf8Size).sum := by
  induction l with
  | nil => rfl
  | cons c l ih =>
      rw [← List.singleton_append, String.ofList_append, String.utf8ByteSize_append, ih]
      simp

/-! ## Slices -/

/-- The string between two offsets. -/
def slice (s : String) (i j : Nat) : Option String :=
  if i ≤ j ∧ isCharBoundary s i = true ∧ isCharBoundary s j = true then
    String.fromUTF8? (s.toByteArray.extract i j)
  else none

/-- `s[..j]` -/
def sliceTo (s : String) (j : Nat) : Option String := slice s 0 j

/-- `s[i..]` -/
def sliceFrom (s : String) (i : Nat) : Option String := slice s i s.utf8ByteSize

theorem fromUTF8?_toByteArray (s : String) : String.fromUTF8? s.toByteArray = some s := by
  rw [String.fromUTF8?, dif_pos s.isValidUTF8]
  rfl

theorem slice_append (front mid rest : String) :
    slice (front ++ (mid ++ rest)) front.utf8ByteSize (front.utf8ByteSize + mid.utf8ByteSize) =
      some mid := by
  have hmid : isCharBoundary (front ++ (mid ++ rest))
      (front.utf8ByteSize + mid.utf8ByteSize) = true := by
    rw [← String.utf8ByteSize_append, ← String.append_assoc]
    exact isCharBoundary_append (front ++ mid) rest
  have hbytes : (front ++ (mid ++ rest)).toByteArray.extract front.utf8ByteSize
      (front.utf8ByteSize + mid.utf8ByteSize) = mid.toByteArray := by
    rw [String.toByteArray_append, String.toByteArray_append, ← String.size_toByteArray,
      ← String.size_toByteArray]
    generalize front.toByteArray = a
    generalize mid.toByteArray = b
    have hcut := ByteArray.extract_append_size_add (a := a) (b := b ++ rest.toByteArray) (i := 0)
      (j := b.size)
    rw [Nat.add_zero, ByteArray.extract_append_size_left, ByteArray.extract_zero_size] at hcut
    exact hcut
  rw [slice, if_pos ⟨Nat.le_add_right _ _, isCharBoundary_append front _, hmid⟩, hbytes,
    fromUTF8?_toByteArray]

theorem sliceTo_append (front rest : String) :
    sliceTo (front ++ rest) front.utf8ByteSize = some front := by
  have h := slice_append "" front rest
  rwa [String.empty_append, String.utf8ByteSize_empty, Nat.zero_add] at h

theorem sliceFrom_append (front rest : String) :
    sliceFrom (front ++ rest) front.utf8ByteSize = some rest := by
  have h := slice_append front rest ""
  rwa [String.append_empty, ← String.utf8ByteSize_append] at h

theorem sliceFrom_eq_none {s : String} {i : Nat} (h : ¬ isCharBoundary s i = true) :
    sliceFrom s i = none :=
  if_neg fun hcuts => h hcuts.2.1

/-! ## Bytes -/

/-- The bytes of the characters. -/
def utf8Bytes (l : List Char) : List UInt8 := l.flatMap String.utf8EncodeChar

/-- The string that the bytes encode. -/
def fromUtf8 (bytes : List UInt8) : Option String := String.fromUTF8? bytes.toByteArray

theorem toByteArray_utf8Bytes (s : String) : (utf8Bytes s.toList).toByteArray = s.toByteArray :=
  String.utf8Encode_toList

theorem fromUtf8_eq_some {bytes : List UInt8} {s : String} :
    fromUtf8 bytes = some s ↔ bytes = utf8Bytes s.toList := by
  constructor
  · intro h
    unfold fromUtf8 String.fromUTF8? at h
    split at h
    · rename_i hvalid
      obtain rfl := Option.some.inj h
      exact List.toByteArray_inj.mp (toByteArray_utf8Bytes (String.fromUTF8 _ hvalid)).symm
    · cases h
  · rintro rfl
    rw [fromUtf8, toByteArray_utf8Bytes, fromUTF8?_toByteArray]

theorem length_utf8Bytes (s : String) : (utf8Bytes s.toList).length = s.utf8ByteSize := by
  rw [← String.size_toByteArray, ← toByteArray_utf8Bytes, List.size_toByteArray]

theorem fromUtf8_utf8Bytes (l : List Char) : fromUtf8 (utf8Bytes l) = some (String.ofList l) := by
  rw [fromUtf8_eq_some, String.toList_ofList]

/-- A character takes a byte at least. -/
theorem le_length_utf8Bytes (l : List Char) : l.length ≤ (utf8Bytes l).length := by
  induction l with
  | nil => exact Nat.le_refl 0
  | cons c l ih =>
      have hcons : utf8Bytes (c :: l) = String.utf8EncodeChar c ++ utf8Bytes l := rfl
      have hpos := c.utf8Size_pos
      rw [hcons, List.length_append, String.length_utf8EncodeChar, List.length_cons]
      omega

theorem utf8EncodeChar_of_lt {c : Char} (hc : c.toNat < 128) :
    String.utf8EncodeChar c = [UInt8.ofNat c.toNat] := by
  unfold String.utf8EncodeChar
  exact if_pos (Nat.le_of_lt_succ hc)

/-- The bytes of a character outside ASCII are outside ASCII. -/
theorem le_of_mem_utf8EncodeChar {c : Char} (hc : 128 ≤ c.toNat) {b : UInt8}
    (hb : b ∈ String.utf8EncodeChar c) : 128 ≤ b.toNat := by
  have hbyte : ∀ n, 128 ≤ n → n < 256 → 128 ≤ (UInt8.ofNat n).toNat := by
    intro n hle hlt
    rwa [UInt8.toNat_ofNat_of_lt' hlt]
  have hlarge : ¬ c.val.toNat ≤ 0x7f := Nat.not_le.mpr hc
  unfold String.utf8EncodeChar at hb
  dsimp only at hb
  rw [if_neg hlarge] at hb
  split at hb
  · simp only [List.mem_cons, List.not_mem_nil, or_false] at hb
    rcases hb with rfl | rfl <;> exact hbyte _ (by omega) (by omega)
  · split at hb
    · simp only [List.mem_cons, List.not_mem_nil, or_false] at hb
      rcases hb with rfl | rfl | rfl <;> exact hbyte _ (by omega) (by omega)
    · simp only [List.mem_cons, List.not_mem_nil, or_false] at hb
      rcases hb with rfl | rfl | rfl | rfl <;> exact hbyte _ (by omega) (by omega)

/-- **A filter that keeps every byte outside ASCII** is a filter of the characters. -/
theorem filter_utf8Bytes {keep : UInt8 → Bool} (hkeep : ∀ b, 128 ≤ b.toNat → keep b = true)
    (l : List Char) :
    (utf8Bytes l).filter keep =
      utf8Bytes (l.filter fun c => 128 ≤ c.toNat || keep (UInt8.ofNat c.toNat)) := by
  induction l with
  | nil => rfl
  | cons c cs ih =>
      have hcons : utf8Bytes (c :: cs) = String.utf8EncodeChar c ++ utf8Bytes cs := rfl
      rw [hcons, List.filter_append, ih, List.filter_cons]
      by_cases hc : 128 ≤ c.toNat
      · have hall : (String.utf8EncodeChar c).filter keep = String.utf8EncodeChar c :=
          List.filter_eq_self.mpr fun b hb => hkeep b (le_of_mem_utf8EncodeChar hc hb)
        rw [hall, if_pos (by simp [hc])]
        rfl
      · have hone := utf8EncodeChar_of_lt (Nat.not_le.mp hc)
        rw [hone]
        cases hb : keep (UInt8.ofNat c.toNat) with
        | true => simp [hb, hone, utf8Bytes]
        | false => simp [hb, hc]

end Utf8
