import Mathlib.Data.Nat.Digits.Lemmas

set_option autoImplicit false

/-!
# Numbers written as bytes

A list of bytes spells a number, the most significant byte first (`toNat`), and a number has
one spelling of each width it fits in (`ofNat`).
-/

namespace BigEndian

/-- The number that the bytes spell, the most significant first. -/
def toNat (bs : List UInt8) : Nat := Nat.ofDigits 256 (bs.reverse.map UInt8.toNat)

/-- The lowest `w` bytes of a number, the most significant first. -/
def ofNat : Nat → Nat → List UInt8
  | 0, _ => []
  | w + 1, n => ofNat w (n / 256) ++ [UInt8.ofNat n]

@[simp] theorem toNat_nil : toNat [] = 0 := rfl

theorem toNat_concat (bs : List UInt8) (b : UInt8) : toNat (bs ++ [b]) = toNat bs * 256 + b.toNat := by
  simp only [toNat, List.reverse_append, List.reverse_singleton, List.singleton_append,
    List.map_cons, Nat.ofDigits_cons]
  omega

theorem toNat_cons (b : UInt8) (bs : List UInt8) :
    toNat (b :: bs) = b.toNat * 256 ^ bs.length + toNat bs := by
  simp only [toNat, List.reverse_cons, List.map_append, List.map_cons, List.map_nil,
    Nat.ofDigits_append, List.length_map, List.length_reverse, Nat.ofDigits_singleton]
  ring

/-- A byte is a digit in base 256. -/
theorem digit_lt {bs : List UInt8} {x : Nat} (hx : x ∈ bs.reverse.map UInt8.toNat) : x < 256 := by
  obtain ⟨b, -, rfl⟩ := List.mem_map.mp hx
  exact b.toNat_lt

theorem toNat_lt (bs : List UInt8) : toNat bs < 256 ^ bs.length := by
  have h := Nat.ofDigits_lt_base_pow_length (b := 256) (l := bs.reverse.map UInt8.toNat)
    (by norm_num) fun x hx => digit_lt hx
  simpa [toNat] using h

@[simp] theorem length_ofNat (w n : Nat) : (ofNat w n).length = w := by
  induction w generalizing n with
  | zero => rfl
  | succ w ih => rw [ofNat, List.length_append, ih, List.length_singleton]

theorem toNat_ofNat (w n : Nat) : toNat (ofNat w n) = n % 256 ^ w := by
  induction w generalizing n with
  | zero => rw [ofNat, toNat_nil, pow_zero, Nat.mod_one]
  | succ w ih =>
      have hbyte : (UInt8.ofNat n).toNat = n % 256 := by simp
      rw [ofNat, toNat_concat, ih, hbyte, pow_succ, Nat.mul_comm (256 ^ w), Nat.mod_mul]
      omega

/-- A number that fits is read back. -/
theorem toNat_ofNat_of_lt {w n : Nat} (h : n < 256 ^ w) : toNat (ofNat w n) = n := by
  rw [toNat_ofNat, Nat.mod_eq_of_lt h]

theorem toNat_inj {as bs : List UInt8} (hlen : as.length = bs.length) (h : toNat as = toNat bs) :
    as = bs := by
  have hdigits := Nat.ofDigits_inj_of_len_eq (b := 256) (by norm_num) (by simpa using hlen)
    (fun x hx => digit_lt hx) (fun x hx => digit_lt hx) h
  have hrev := List.map_injective_iff.mpr (fun a b => UInt8.toNat_inj.mp) hdigits
  exact List.reverse_injective hrev

/-- Bytes are the spelling, of their width, of what they spell. -/
theorem ofNat_toNat (bs : List UInt8) : ofNat bs.length (toNat bs) = bs :=
  toNat_inj (length_ofNat _ _) (toNat_ofNat_of_lt (toNat_lt bs))

end BigEndian
