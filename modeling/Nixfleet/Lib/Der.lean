import Nixfleet.Lib.BigEndian

set_option autoImplicit false

/-!
# DER integers

The part of DER that signatures need: elements whose length fits in one byte, INTEGERs with their
minimal contents, and a SEQUENCE of two of them. `readPair` is a strict decoder. The contents of a
non-negative number are its shortest spelling, behind a zero byte when the top bit of the spelling
is set (`UnsignedContent`); the decoder accepts them and gives the number back.
-/

namespace Der

/-! ## Contents -/

/-- The first byte has its top bit set. -/
def topBit (bs : List UInt8) : Bool := bs.head?.any fun b => 0x80 ≤ b

/-- The number the contents of an INTEGER stand for, in two's complement. -/
def intOfContent (bs : List UInt8) : Int :=
  if topBit bs then (BigEndian.toNat bs : Int) - 256 ^ bs.length else BigEndian.toNat bs

/-- Contents are minimal when there is a byte, and the first nine bits are not all the same. -/
def MinimalContent : List UInt8 → Prop
  | [] => False
  | [_] => True
  | a :: b :: _ => ¬ (a = 0 ∧ b < 0x80) ∧ ¬ (a = 0xFF ∧ 0x80 ≤ b)

instance : DecidablePred MinimalContent
  | [] => inferInstanceAs (Decidable False)
  | [_] => inferInstanceAs (Decidable True)
  | a :: b :: _ => inferInstanceAs (Decidable (¬ (a = 0 ∧ b < 0x80) ∧ ¬ (a = 0xFF ∧ 0x80 ≤ b)))

/-- The contents of a non-negative number: its shortest spelling, behind a zero byte exactly when
the top bit of the spelling is set. -/
def UnsignedContent (n : Nat) (content : List UInt8) : Prop :=
  ∃ magnitude, magnitude ≠ [] ∧ BigEndian.toNat magnitude = n ∧
    (magnitude.head? = some 0 → magnitude = [0]) ∧
    content = if topBit magnitude then 0 :: magnitude else magnitude

theorem UnsignedContent.minimal {n : Nat} {content : List UInt8} (h : UnsignedContent n content) :
    MinimalContent content := by
  obtain ⟨magnitude, hne, -, hzero, rfl⟩ := h
  split
  · -- the zero byte is needed: the next bit is set
    rename_i htop
    obtain ⟨b, rest, rfl⟩ := List.exists_cons_of_ne_nil hne
    have hb : 0x80 ≤ b := by simpa [topBit] using htop
    exact ⟨fun h => absurd h.2 (by simpa using hb), fun h => absurd h.1 (by decide)⟩
  · rename_i htop
    match magnitude, hne with
    | [_], _ => trivial
    | b :: c :: rest, _ =>
        have hb : ¬ 0x80 ≤ b := by simpa [topBit] using htop
        refine ⟨fun h => ?_, fun h => hb (by rw [h.1]; decide)⟩
        have hsingle := hzero (by rw [h.1]; rfl)
        exact absurd hsingle (by simp)

/-- The contents stand for the number. -/
theorem UnsignedContent.value {n : Nat} {content : List UInt8} (h : UnsignedContent n content) :
    intOfContent content = n := by
  obtain ⟨magnitude, hne, rfl, -, rfl⟩ := h
  split
  · have hpad : topBit (0 :: magnitude) = false := rfl
    rw [intOfContent, hpad, BigEndian.toNat_cons]
    simp
  · rename_i htop
    rw [intOfContent, if_neg htop]

/-! ## Elements -/

/-- An element: a tag, the length of the contents in one byte, and the contents. -/
structure Element (tag : UInt8) (content bs : List UInt8) : Prop where
  bytes : bs = tag :: UInt8.ofNat content.length :: content
  short : content.length < 128

/-- The contents of an element with this tag, and what follows it. -/
def readElement (tag : UInt8) : List UInt8 → Option (List UInt8 × List UInt8)
  | t :: len :: rest =>
      if t = tag ∧ len < 0x80 ∧ len.toNat ≤ rest.length then
        some (rest.take len.toNat, rest.drop len.toNat)
      else none
  | _ => none

/-- An INTEGER with minimal contents. -/
def readInteger (bs : List UInt8) : Option (Int × List UInt8) :=
  (readElement 0x02 bs).bind fun p =>
    if MinimalContent p.1 then some (intOfContent p.1, p.2) else none

/-- A SEQUENCE of two INTEGERs, and nothing else. -/
def readPair (bs : List UInt8) : Option (Int × Int) :=
  (readElement 0x30 bs).bind fun outer =>
    (readInteger outer.1).bind fun first =>
      (readInteger first.2).bind fun second =>
        if second.2 = [] ∧ outer.2 = [] then some (first.1, second.1) else none

section Reading

variable {tag : UInt8} {content content' bs bs' : List UInt8}

theorem Element.length (h : Element tag content bs) : bs.length = content.length + 2 := by
  rw [h.bytes]
  rfl

/-- The length byte is the number of bytes of the contents. -/
theorem Element.toNat_length (h : Element tag content bs) :
    (UInt8.ofNat content.length).toNat = content.length := by
  rw [UInt8.toNat_ofNat']
  exact Nat.mod_eq_of_lt (h.short.trans (by norm_num))

theorem Element.read (h : Element tag content bs) (rest : List UInt8) :
    readElement tag (bs ++ rest) = some (content, rest) := by
  have hlen := h.toNat_length
  have hshort : UInt8.ofNat content.length < 0x80 := by
    rw [UInt8.lt_iff_toNat_lt, hlen]
    exact h.short
  rw [h.bytes, List.cons_append, List.cons_append, readElement, hlen,
    if_pos ⟨rfl, hshort, by simp⟩, List.take_left, List.drop_left]

theorem Element.readInteger {n : Nat} (h : Element 0x02 content bs) (hn : UnsignedContent n content)
    (rest : List UInt8) : readInteger (bs ++ rest) = some ((n : Int), rest) := by
  rw [Der.readInteger, h.read, Option.bind_some, if_pos hn.minimal, hn.value]

/-- **Decoding.** Two non-negative numbers are read back from a SEQUENCE of their INTEGERs. -/
theorem Element.readPair {m n : Nat} {seq : List UInt8} (hseq : Element 0x30 (bs ++ bs') seq)
    (h : Element 0x02 content bs) (hm : UnsignedContent m content)
    (h' : Element 0x02 content' bs') (hn : UnsignedContent n content') :
    readPair seq = some ((m : Int), (n : Int)) := by
  have houter := hseq.read []
  have hlast := h'.readInteger hn []
  rw [List.append_nil] at houter hlast
  rw [Der.readPair, houter, Option.bind_some, h.readInteger hm, Option.bind_some, hlast]
  rfl

end Reading

end Der
