import Mathlib.Data.Nat.Bitwise
import Nixfleet.Proto.Fleet
import Nixfleet.Lib.Der

set_option autoImplicit false

/-!
# Signatures in DER

The TPM returns an ECDSA P-256 signature as the 64 bytes of `r` and `s`;
`der_encode_ecdsa_p256_sig` rewraps it as a SEQUENCE of two INTEGERs.
-/

namespace Nixfleet

/-- The loop of `der_encode_int`: leading zeros are left out, but not the last byte. -/
def skipLeadingZeros : Bytes → Bytes
  | b :: c :: rest => if b = 0 then skipLeadingZeros (c :: rest) else b :: c :: rest
  | bytes => bytes

/-- `der_encode_int`. Its callers pass at least one byte. -/
def derEncodeInt (bytes : Bytes) : Bytes :=
  let kept := skipLeadingZeros bytes
  let needsPad := kept.head?.any fun b => b &&& 0x80 ≠ 0
  let len := kept.length + if needsPad then 1 else 0
  0x02 :: UInt8.ofNat len :: ((if needsPad then [0x00] else []) ++ kept)

/-- `der_encode_ecdsa_p256_sig`. -/
def derEncodeEcdsaP256Sig (raw : Bytes) : Except String Bytes :=
  if raw.length ≠ 64 then
    .error ("expected 64 raw P-256 sig bytes, got " ++ toString raw.length)
  else
    let r := derEncodeInt (raw.take 32)
    let s := derEncodeInt (raw.drop 32)
    .ok (0x30 :: UInt8.ofNat (r.length + s.length) :: (r ++ s))

/-! ## Leading zeros -/

/-- What is kept spells the same number, in no more bytes, and starts with a zero only when it is
one. -/
theorem skipLeadingZeros_spec {bytes : Bytes} (hne : bytes ≠ []) :
    skipLeadingZeros bytes ≠ [] ∧
    BigEndian.toNat (skipLeadingZeros bytes) = BigEndian.toNat bytes ∧
    (skipLeadingZeros bytes).length ≤ bytes.length ∧
    ((skipLeadingZeros bytes).head? = some 0 → skipLeadingZeros bytes = [0]) := by
  induction bytes with
  | nil => exact absurd rfl hne
  | cons b rest ih =>
      cases rest with
      | nil =>
          refine ⟨List.cons_ne_nil _ _, rfl, Nat.le_refl _, fun h => ?_⟩
          have hb : b = 0 := by simpa [skipLeadingZeros] using h
          rw [hb, skipLeadingZeros]
          exact fun _ _ _ h => by cases h
      | cons c rest =>
          by_cases hb : b = 0
          · obtain ⟨hkept, hvalue, hlen, hzero⟩ := ih (List.cons_ne_nil _ _)
            have hskip : skipLeadingZeros (b :: c :: rest) = skipLeadingZeros (c :: rest) := by
              rw [skipLeadingZeros, if_pos hb]
            rw [hskip]
            refine ⟨hkept, ?_, hlen.trans (Nat.le_succ _), hzero⟩
            rw [hvalue, hb, BigEndian.toNat_cons 0 (c :: rest)]
            simp
          · have hskip : skipLeadingZeros (b :: c :: rest) = b :: c :: rest := by
              rw [skipLeadingZeros, if_neg hb]
            rw [hskip]
            refine ⟨List.cons_ne_nil _ _, rfl, Nat.le_refl _, fun h => absurd ?_ hb⟩
            simpa using h

/-! ## INTEGERs -/

/-- The bit `der_encode_int` tests is the top bit. -/
theorem needsPad_eq_topBit (bytes : Bytes) :
    (bytes.head?.any fun b => b &&& 0x80 ≠ 0) = Der.topBit bytes := by
  have hbyte : ∀ b : UInt8, decide (b &&& 0x80 ≠ 0) = decide (0x80 ≤ b) := by
    intro b
    rw [decide_eq_decide, ne_eq, ← UInt8.toNat_inj, UInt8.toNat_and, UInt8.le_iff_toNat_le]
    show ¬ b.toNat &&& 2 ^ 7 = 0 ↔ 128 ≤ b.toNat
    have hb : b.toNat < 256 := b.toNat_lt
    have htop : b.toNat.testBit 7 = decide (128 ≤ b.toNat) := by
      rw [Nat.testBit_eq_decide_div_mod_eq, decide_eq_decide]
      omega
    rw [Nat.and_two_pow, htop]
    by_cases h : 128 ≤ b.toNat
    · simp [h]
    · simp [h]
  simp only [Der.topBit, hbyte]

/-- **One INTEGER.** A string of bytes becomes the INTEGER of the number it spells. -/
theorem derEncodeInt_spec {bytes : Bytes} (hne : bytes ≠ []) (hlen : bytes.length ≤ 32) :
    ∃ content, Der.Element 0x02 content (derEncodeInt bytes) ∧
      Der.UnsignedContent (BigEndian.toNat bytes) content ∧ content.length ≤ 33 := by
  obtain ⟨hkept, hvalue, hle, hzero⟩ := skipLeadingZeros_spec hne
  have hpad := needsPad_eq_topBit (skipLeadingZeros bytes)
  refine ⟨if Der.topBit (skipLeadingZeros bytes) then 0 :: skipLeadingZeros bytes
    else skipLeadingZeros bytes, ?_, ⟨skipLeadingZeros bytes, hkept, hvalue, hzero, rfl⟩, ?_⟩
  · dsimp only [derEncodeInt]
    rw [hpad]
    cases Der.topBit (skipLeadingZeros bytes) with
    | true => exact ⟨rfl, by simp only [if_true, List.length_cons]; omega⟩
    | false => exact ⟨rfl, by simp only [Bool.false_eq_true, if_false]; omega⟩
  · cases Der.topBit (skipLeadingZeros bytes) with
    | true => simp only [if_true, List.length_cons]; omega
    | false => simp only [Bool.false_eq_true, if_false]; omega

/-! ## Signatures -/

/-- **DER encoding of signatures.** A raw signature becomes a SEQUENCE of two INTEGERs with the
contents of `r` and `s`, which the strict decoder gives back. -/
theorem derEncodeEcdsaP256Sig_strict {raw : Bytes} (h : raw.length = 64) :
    ∃ out rDer sDer rContent sContent,
      derEncodeEcdsaP256Sig raw = .ok out ∧
      Der.Element 0x30 (rDer ++ sDer) out ∧
      Der.Element 0x02 rContent rDer ∧
      Der.UnsignedContent (BigEndian.toNat (raw.take 32)) rContent ∧
      Der.MinimalContent rContent ∧
      Der.Element 0x02 sContent sDer ∧
      Der.UnsignedContent (BigEndian.toNat (raw.drop 32)) sContent ∧
      Der.MinimalContent sContent ∧
      Der.readPair out = some ((BigEndian.toNat (raw.take 32) : Int),
        (BigEndian.toNat (raw.drop 32) : Int)) := by
  have htake : (raw.take 32).length = 32 := by
    rw [List.length_take]
    omega
  have hdrop : (raw.drop 32).length = 32 := by
    rw [List.length_drop]
    omega
  obtain ⟨rContent, hr, hrNum, hrLen⟩ :=
    derEncodeInt_spec (List.ne_nil_of_length_pos (by omega)) htake.le
  obtain ⟨sContent, hs, hsNum, hsLen⟩ :=
    derEncodeInt_spec (List.ne_nil_of_length_pos (by omega)) hdrop.le
  have hout : derEncodeEcdsaP256Sig raw =
      .ok (0x30 :: UInt8.ofNat ((derEncodeInt (raw.take 32)).length +
        (derEncodeInt (raw.drop 32)).length) ::
        (derEncodeInt (raw.take 32) ++ derEncodeInt (raw.drop 32))) := by
    rw [derEncodeEcdsaP256Sig, if_neg (not_not.mpr h)]
  have hseq : Der.Element 0x30 (derEncodeInt (raw.take 32) ++ derEncodeInt (raw.drop 32))
      (0x30 :: UInt8.ofNat ((derEncodeInt (raw.take 32)).length +
        (derEncodeInt (raw.drop 32)).length) ::
        (derEncodeInt (raw.take 32) ++ derEncodeInt (raw.drop 32))) := by
    refine ⟨by rw [List.length_append], ?_⟩
    rw [List.length_append, hr.length, hs.length]
    omega
  exact ⟨_, _, _, rContent, sContent, hout, hseq, hr, hrNum, hrNum.minimal, hs, hsNum,
    hsNum.minimal, hseq.readPair hr hrNum hs hsNum⟩

/-- The largest `r`, which needs the zero byte, and `s = 0`. -/
theorem derEncodeEcdsaP256Sig_strict_max :
    (List.replicate 32 (255 : UInt8) ++ List.replicate 32 0).length = 64 ∧
    ∃ out, derEncodeEcdsaP256Sig (List.replicate 32 255 ++ List.replicate 32 0) = .ok out ∧
      Der.readPair out = some (2 ^ 256 - 1, 0) := by
  have hlen : (List.replicate 32 (255 : UInt8) ++ List.replicate 32 0).length = 64 := by decide
  refine ⟨hlen, ?_⟩
  obtain ⟨out, -, -, -, -, hout, -, -, -, -, -, -, -, hread⟩ := derEncodeEcdsaP256Sig_strict hlen
  have hr : BigEndian.toNat ((List.replicate 32 (255 : UInt8) ++ List.replicate 32 0).take 32) =
      2 ^ 256 - 1 := by decide
  have hs : BigEndian.toNat ((List.replicate 32 (255 : UInt8) ++ List.replicate 32 0).drop 32) =
      0 := by decide
  rw [hr, hs] at hread
  exact ⟨out, hout, hread⟩

end Nixfleet
