import Mathlib.Data.List.Infix
import Nixfleet.Agent.Activation
import Nixfleet.Auth.Issuance
import Nixfleet.Lib.Split
import Nixfleet.Lib.Utf8

set_option autoImplicit false

/-!
# Realising a closure

`realise` runs `nix-store --realise` and reads its output. A failure is a signature mismatch iff its
error output holds one of the known phrases, and is then reported with the last 500 bytes of that
output. The cut is at a fixed offset: the report is made iff no character is cut there
(`realise_reported_iff`), and otherwise the task panics, which is `none`.
-/

namespace Nixfleet

open Utf8

/-- How a command ended and what it wrote. -/
structure CommandOutput where
  code : Option Int
  stdout : Bytes
  stderr : Bytes

/-- `ExitStatus::success`. -/
def CommandOutput.success (output : CommandOutput) : Bool := output.code == some 0

/-- Decoding that replaces what is not UTF-8, lower-casing, and the text of a decoding error. -/
structure TextHooks where
  fromUtf8Lossy : Bytes → String
  toLowercase : String → String
  utf8Error : Bytes → String

/-- `str::contains`. -/
def strContains (needle s : String) : Bool := s.toList.tails.any needle.toList.isPrefixOf

theorem strContains_iff {needle s : String} :
    strContains needle s = true ↔ needle.toList <:+: s.toList := by
  rw [strContains, List.any_eq_true, List.infix_iff_prefix_suffix]
  constructor
  · rintro ⟨t, ht, hstarts⟩
    exact ⟨t, List.isPrefixOf_iff_prefix.mp hstarts, (List.mem_tails _ _).mp ht⟩
  · rintro ⟨t, hstarts, ht⟩
    exact ⟨t, (List.mem_tails _ _).mpr ht, List.isPrefixOf_iff_prefix.mpr hstarts⟩

/-- The phrases of Nix for a signature that is not trusted. -/
def signaturePhrases : List String :=
  ["lacks a valid signature", "no signature is trusted", "is not signed by any of the keys",
    "no signatures matched", "signature mismatch", "untrusted signature"]

/-- `looks_like_signature_error`. -/
def looksLikeSignatureError (hooks : TextHooks) (stderr : String) : Bool :=
  let lower := hooks.toLowercase stderr
  signaturePhrases.any fun needle => strContains needle lower

/-- `{:?}` of an exit code. -/
def debugCode : Option Int → String
  | none => "None"
  | some code => "Some(" ++ toString code ++ ")"

/-- `realise`; without an output `nix-store` could not be started. -/
def realise (hooks : TextHooks) (storePath : String) (output : Option CommandOutput) :
    Option (Except RealiseError String) :=
  match output with
  | none => some (.error (.other ("spawn nix-store --realise " ++ storePath)))
  | some output =>
      if !output.success then
        let stderr := hooks.fromUtf8Lossy output.stderr
        if looksLikeSignatureError hooks stderr then do
          let tailStart := stderr.utf8ByteSize - 500
          let tail ← sliceFrom stderr tailStart
          some (.error (.signatureMismatch tail))
        else
          some (.error (.other ("nix-store --realise " ++ storePath ++ " exited " ++
            debugCode output.code ++ ": " ++ stderr)))
      else
        match fromUtf8 output.stdout with
        | none =>
            some (.error (.other ("nix-store --realise stdout not utf-8: " ++
              hooks.utf8Error output.stdout)))
        | some stdout =>
            match (linesOf stdout.toList).head? with
            | none => some (.error (.other "nix-store --realise produced no output"))
            | some line => some (.ok (trim (String.ofList line)))

/-! ## Reports -/

/-- A text holds one of the phrases. -/
def HasSignaturePhrase (text : String) : Prop :=
  ∃ needle ∈ signaturePhrases, needle.toList <:+: text.toList

/-- What a caller is promised: a value is returned, and a run that failed is a signature mismatch
with a short tail of the error output iff the lower-cased error output holds a phrase. -/
structure RealiseReported (hooks : TextHooks) (output : CommandOutput)
    (result : Option (Except RealiseError String)) : Prop where
  returns : result.isSome = true
  mismatch : output.success = false →
    HasSignaturePhrase (hooks.toLowercase (hooks.fromUtf8Lossy output.stderr)) →
    ∃ front tail, hooks.fromUtf8Lossy output.stderr = front ++ tail ∧ tail.utf8ByteSize ≤ 500 ∧
      result = some (.error (.signatureMismatch tail))
  other : output.success = false →
    ¬ HasSignaturePhrase (hooks.toLowercase (hooks.fromUtf8Lossy output.stderr)) →
    ∃ err, result = some (.error (.other err))

section Reports

variable {hooks : TextHooks} {output : CommandOutput}

theorem looksLikeSignatureError_iff {stderr : String} :
    looksLikeSignatureError hooks stderr = true ↔
      HasSignaturePhrase (hooks.toLowercase stderr) := by
  simp only [looksLikeSignatureError, HasSignaturePhrase, List.any_eq_true, strContains_iff]

/-- A run that succeeded is reported, whatever it wrote. -/
theorem realise_of_success (hooks : TextHooks) (storePath : String)
    (h : output.success = true) : ∃ r, realise hooks storePath (some output) = some r := by
  simp only [realise, h, Bool.not_true, Bool.false_eq_true, if_false]
  split
  · exact ⟨_, rfl⟩
  · split <;> exact ⟨_, rfl⟩

/-- So is one that failed without a phrase. -/
theorem realise_of_not_looks (storePath : String) (h : output.success = false)
    (hlooks : looksLikeSignatureError hooks (hooks.fromUtf8Lossy output.stderr) = false) :
    ∃ err, realise hooks storePath (some output) = some (.error (.other err)) := by
  simp only [realise, h, Bool.not_false, if_true, hlooks, Bool.false_eq_true, if_false]
  exact ⟨_, rfl⟩

/-- One that failed with a phrase is reported with what follows the cut. -/
theorem realise_of_looks (storePath : String) (h : output.success = false)
    (hlooks : looksLikeSignatureError hooks (hooks.fromUtf8Lossy output.stderr) = true) :
    realise hooks storePath (some output) =
      (sliceFrom (hooks.fromUtf8Lossy output.stderr)
        ((hooks.fromUtf8Lossy output.stderr).utf8ByteSize - 500)).map fun tail =>
          .error (.signatureMismatch tail) := by
  simp only [realise, h, Bool.not_false, if_true, hlooks]
  cases sliceFrom (hooks.fromUtf8Lossy output.stderr)
    ((hooks.fromUtf8Lossy output.stderr).utf8ByteSize - 500) <;> rfl

/-- At a boundary the cut leaves a short tail. -/
theorem exists_tail {stderr : String}
    (h : isCharBoundary stderr (stderr.utf8ByteSize - 500) = true) :
    ∃ front tail, stderr = front ++ tail ∧ tail.utf8ByteSize ≤ 500 ∧
      sliceFrom stderr (stderr.utf8ByteSize - 500) = some tail := by
  obtain ⟨front, tail, hstderr, hfront⟩ := isCharBoundary_iff.mp h
  have hsize : stderr.utf8ByteSize = front.utf8ByteSize + tail.utf8ByteSize := by
    rw [hstderr, String.utf8ByteSize_append]
  refine ⟨front, tail, hstderr, by omega, ?_⟩
  rw [← hfront, hstderr, sliceFrom_append]

/-- **When a run is reported as promised.** It succeeded, or its error output holds no phrase, or
500 bytes before the end of that output a character begins. -/
theorem realise_reported_iff (hooks : TextHooks) (storePath : String) (output : CommandOutput) :
    RealiseReported hooks output (realise hooks storePath (some output)) ↔
      output.success = true ∨
      looksLikeSignatureError hooks (hooks.fromUtf8Lossy output.stderr) = false ∨
      isCharBoundary (hooks.fromUtf8Lossy output.stderr)
        ((hooks.fromUtf8Lossy output.stderr).utf8ByteSize - 500) = true := by
  cases hsuccess : output.success with
  | true =>
      obtain ⟨r, hr⟩ := realise_of_success hooks storePath hsuccess
      have hno : ¬ output.success = false := by simp [hsuccess]
      refine iff_of_true ⟨by rw [hr]; rfl, ?_, ?_⟩ (.inl rfl)
      · exact fun hfailed => absurd hfailed hno
      · exact fun hfailed => absurd hfailed hno
  | false =>
      cases hlooks : looksLikeSignatureError hooks (hooks.fromUtf8Lossy output.stderr) with
      | false =>
          obtain ⟨err, herr⟩ := realise_of_not_looks storePath hsuccess hlooks
          refine iff_of_true ⟨by rw [herr]; rfl, ?_, fun _ _ => ⟨err, herr⟩⟩ (.inr (.inl rfl))
          intro _ hphrase
          rw [looksLikeSignatureError_iff.mpr hphrase] at hlooks
          cases hlooks
      | true =>
          rw [realise_of_looks storePath hsuccess hlooks]
          by_cases hcut : isCharBoundary (hooks.fromUtf8Lossy output.stderr)
              ((hooks.fromUtf8Lossy output.stderr).utf8ByteSize - 500) = true
          · obtain ⟨front, tail, hstderr, hshort, htail⟩ := exists_tail hcut
            rw [htail]
            refine iff_of_true ⟨rfl, ?_, ?_⟩ (.inr (.inr hcut))
            · exact fun _ _ => ⟨front, tail, hstderr, hshort, rfl⟩
            · exact fun _ hno => absurd (looksLikeSignatureError_iff.mp hlooks) hno
          · rw [sliceFrom_eq_none hcut]
            refine iff_of_false ?_ (by simp [hcut])
            rintro ⟨hreturns, -, -⟩
            cases hreturns

/-- A failure that is reported ends the activation with the system as it was. -/
theorem activateWith_of_failed (nix : NixEnv) (sys : System) {target : ClosureHash}
    {run : ActivationRun} (hfailed : output.success = false)
    (hlock : run.switchInProgress = false)
    (hrealise : realise hooks (storePath target) (some output) = some run.realise) :
    ∃ outcome, activateWith nix sys target run = (.ok outcome, sys) ∧
      ((∃ tail, outcome = .signatureMismatch target tail) ∨
        ∃ reason, outcome = .realiseFailed reason) := by
  cases hlooks : looksLikeSignatureError hooks (hooks.fromUtf8Lossy output.stderr) with
  | false =>
      obtain ⟨err, herr⟩ := realise_of_not_looks (storePath target) hfailed hlooks
      have hrun : run.realise = .error (.other err) := Option.some.inj (hrealise.symm.trans herr)
      refine ⟨.realiseFailed err, ?_, .inr ⟨err, rfl⟩⟩
      simp only [activateWith, hlock, hrun, Bool.false_eq_true, if_false]
  | true =>
      rw [realise_of_looks (storePath target) hfailed hlooks] at hrealise
      obtain ⟨tail, -, hrun⟩ := Option.map_eq_some_iff.mp hrealise
      refine ⟨.signatureMismatch target tail, ?_, .inl ⟨tail, rfl⟩⟩
      simp only [activateWith, hlock, ← hrun, Bool.false_eq_true, if_false]

end Reports

/-! ## A quoted path -/

/-- A path of so many bytes. -/
def pathOfSize (n : Nat) : String := String.ofList (List.replicate n 'x')

/-- What Nix writes about it. -/
def quotedStderr (n : Nat) : String := "‘" ++ (pathOfSize n ++ "’ lacks a valid signature")

/-- Decoding without replacements, and lower-casing of ASCII. -/
def asciiHooks : TextHooks where
  fromUtf8Lossy := fun bytes => (fromUtf8 bytes).getD "\uFFFD"
  toLowercase := fun s => String.ofList (s.toList.map Char.toLower)
  utf8Error := fun _ => "invalid utf-8"

/-- `nix-store --realise` failed with it. -/
def quotedOutput (n : Nat) : CommandOutput := ⟨some 1, [], utf8Bytes (quotedStderr n).toList⟩

theorem utf8ByteSize_quotedStderr (n : Nat) : (quotedStderr n).utf8ByteSize = n + 30 := by
  have hpath : (pathOfSize n).utf8ByteSize = n := by
    rw [pathOfSize, utf8ByteSize_ofList, List.map_replicate, List.sum_replicate_nat]
    exact Nat.mul_one n
  have hopen : "‘".utf8ByteSize = 3 := by decide
  have hclose : "’ lacks a valid signature".utf8ByteSize = 27 := by decide
  rw [quotedStderr, String.utf8ByteSize_append, String.utf8ByteSize_append, hpath, hopen, hclose]
  omega

theorem fromUtf8Lossy_quotedOutput (n : Nat) :
    asciiHooks.fromUtf8Lossy (quotedOutput n).stderr = quotedStderr n := by
  have hdecoded : fromUtf8 (quotedOutput n).stderr = some (quotedStderr n) :=
    fromUtf8_eq_some.mpr rfl
  show (fromUtf8 (quotedOutput n).stderr).getD "\uFFFD" = quotedStderr n
  rw [hdecoded, Option.getD_some]

theorem looksLikeSignatureError_quotedStderr (n : Nat) :
    looksLikeSignatureError asciiHooks (quotedStderr n) = true := by
  have hlower : (asciiHooks.toLowercase (quotedStderr n)).toList =
      (quotedStderr n).toList.map Char.toLower := String.toList_ofList
  have hparts : (quotedStderr n).toList =
      "‘".toList ++ ((pathOfSize n).toList ++ "’ lacks a valid signature".toList) := by
    rw [quotedStderr, String.toList_append, String.toList_append]
  have hend : "’ lacks a valid signature".toList.map Char.toLower =
      ['’', ' '] ++ "lacks a valid signature".toList := by decide
  refine looksLikeSignatureError_iff.mpr ⟨"lacks a valid signature", List.mem_cons_self, ?_⟩
  rw [hlower, hparts, List.map_append, List.map_append, hend, ← List.append_assoc,
    ← List.append_assoc]
  exact (List.suffix_append _ _).isInfix

/-- The cut is in the opening quote. -/
theorem realise_quotedOutput :
    (quotedOutput 471).success = false ∧
      HasSignaturePhrase
        (asciiHooks.toLowercase (asciiHooks.fromUtf8Lossy (quotedOutput 471).stderr)) ∧
      realise asciiHooks "/nix/store/hello" (some (quotedOutput 471)) = none := by
  have hlooks := looksLikeSignatureError_quotedStderr 471
  rw [← fromUtf8Lossy_quotedOutput 471] at hlooks
  refine ⟨rfl, looksLikeSignatureError_iff.mp hlooks, ?_⟩
  have hinside : ¬ isCharBoundary (quotedStderr 471) 1 = true := by
    intro h
    have hquote := isCharBoundary_of_lt h (by decide)
    exact absurd hquote (by decide)
  rw [realise_of_looks "/nix/store/hello" rfl hlooks, fromUtf8Lossy_quotedOutput,
    utf8ByteSize_quotedStderr]
  show Option.map _ (sliceFrom (quotedStderr 471) 1) = none
  rw [sliceFrom_eq_none hinside]
  rfl

end Nixfleet
