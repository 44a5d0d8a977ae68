import Nixfleet.Auth.Issuance
import Nixfleet.Lib.BigEndian
import Nixfleet.Lib.Except

set_option autoImplicit false

/-!
# OpenSSH host keys

`readSshStringAt` reads a length-prefixed field the way `read_ssh_string` does, at a cursor into
the whole blob and with `usize` arithmetic; a read out of bounds is `none`. Below the largest
cursors it stays in bounds and agrees with `readSshString` on what is left of the blob, so that the
format the parser accepts can be read off: two SSH strings, the second one the key.
-/

namespace Nixfleet

/-! ## SSH strings -/

/-- An SSH string: its length in four bytes, and its bytes. -/
def sshString (bs : Bytes) : Bytes := BigEndian.ofNat 4 bs.length ++ bs

theorem length_sshString (bs : Bytes) : (sshString bs).length = 4 + bs.length := by
  rw [sshString, List.length_append, BigEndian.length_ofNat]

theorem sshString_ne_nil (bs : Bytes) : sshString bs ≠ [] := by
  intro hnil
  have hlen := length_sshString bs
  rw [hnil, List.length_nil] at hlen
  omega

/-- The first four bytes are the length of what is read. -/
theorem readSshString_cons (a b c d : UInt8) (rest : Bytes) :
    readSshString (a :: b :: c :: d :: rest) =
      if BigEndian.toNat [a, b, c, d] ≤ rest.length then
        .ok (rest.take (BigEndian.toNat [a, b, c, d]),
          rest.drop (BigEndian.toNat [a, b, c, d]))
      else .error .truncated := by
  have hlen : ((a.toNat * 256 + b.toNat) * 256 + c.toNat) * 256 + d.toNat =
      BigEndian.toNat [a, b, c, d] := by
    simp only [BigEndian.toNat_cons, BigEndian.toNat_nil, List.length_cons, List.length_nil]
    omega
  rw [readSshString, hlen]

theorem readSshString_of_length_lt {buf : Bytes} (h : buf.length < 4) :
    readSshString buf = .error .truncated := by
  match buf with
  | [] | [_] | [_, _] | [_, _, _] => rfl
  | _ :: _ :: _ :: _ :: rest => simp only [List.length_cons] at h; omega

/-- A field is read iff the bytes start with its SSH string, and its length fits in 32 bits. -/
theorem readSshString_eq_ok {buf s rest : Bytes} :
    readSshString buf = .ok (s, rest) ↔ buf = sshString s ++ rest ∧ s.length < 256 ^ 4 := by
  constructor
  · intro h
    match buf with
    | [] | [_] | [_, _] | [_, _, _] => cases h
    | a :: b :: c :: d :: tail =>
        rw [readSshString_cons] at h
        split at h
        · rename_i hle
          cases h
          have hlen : (tail.take (BigEndian.toNat [a, b, c, d])).length =
              BigEndian.toNat [a, b, c, d] := List.length_take_of_le hle
          have hprefix : BigEndian.ofNat 4 (BigEndian.toNat [a, b, c, d]) = [a, b, c, d] :=
            BigEndian.ofNat_toNat [a, b, c, d]
          rw [sshString, hlen, hprefix]
          refine ⟨?_, BigEndian.toNat_lt [a, b, c, d]⟩
          rw [List.append_assoc, List.take_append_drop]
          rfl
        · cases h
  · rintro ⟨rfl, hlt⟩
    have hfour : (BigEndian.ofNat 4 s.length).length = 4 := BigEndian.length_ofNat 4 s.length
    have hvalue : BigEndian.toNat (BigEndian.ofNat 4 s.length) = s.length :=
      BigEndian.toNat_ofNat_of_lt hlt
    rw [sshString]
    match hbytes : BigEndian.ofNat 4 s.length, hfour with
    | [a, b, c, d], _ =>
        rw [hbytes] at hvalue
        show readSshString (a :: b :: c :: d :: (s ++ rest)) = _
        rw [readSshString_cons, hvalue, if_pos (by simp), List.take_left, List.drop_left]

/-! ## Reads at a cursor -/

/-- The values of `usize`. -/
def usizeRange : Nat := 2 ^ 64

/-- `&buf[start..stop]`. -/
def slice (buf : Bytes) (start stop : Nat) : Option Bytes :=
  if start ≤ stop ∧ stop ≤ buf.length then some ((buf.take stop).drop start) else none

/-- `read_ssh_string`: the field, and the cursor behind it. Sums wrap around, as `usize` sums do in
a build without overflow checks. -/
def readSshStringAt (buf : Bytes) (cursor : Nat) :
    Option (Except OpenSshParseError (Bytes × Nat)) :=
  if (cursor + 4) % usizeRange > buf.length then some (.error .truncated)
  else do
    let a ← buf[cursor]?
    let b ← buf[(cursor + 1) % usizeRange]?
    let c ← buf[(cursor + 2) % usizeRange]?
    let d ← buf[(cursor + 3) % usizeRange]?
    let len := BigEndian.toNat [a, b, c, d]
    let cursor := (cursor + 4) % usizeRange
    if (cursor + len) % usizeRange > buf.length then some (.error .truncated)
    else do
      let s ← slice buf cursor ((cursor + len) % usizeRange)
      some (.ok (s, (cursor + len) % usizeRange))

/-- What `ed25519_pubkey_raw_from_openssh` does with the decoded blob. -/
def pubkeyOfBlob (blob : Bytes) : Option (Except OpenSshParseError PublicKey) := do
  match ← readSshStringAt blob 0 with
  | .error err => some (.error err)
  | .ok (algoBytes, cursor) =>
      if algoBytes ≠ sshEd25519 then some (.error .innerAlgorithmMismatch)
      else
        match ← readSshStringAt blob cursor with
        | .error err => some (.error err)
        | .ok (pubkey, _) =>
            if pubkey.length ≠ 32 then some (.error (.wrongPubkeyLength pubkey.length))
            else some (.ok pubkey)

theorem slice_eq_some {buf : Bytes} {start len : Nat} (h : start + len ≤ buf.length) :
    slice buf start (start + len) = some ((buf.drop start).take len) := by
  rw [slice, if_pos ⟨Nat.le_add_right _ _, h⟩, List.drop_take, Nat.add_sub_cancel_left]

/-- **Reads in bounds.** Unless adding four to the cursor overflows, a field is read in bounds, and
as it is read from what is left of the blob. -/
theorem readSshStringAt_eq {buf : Bytes} {cursor : Nat} (hbuf : buf.length < 2 ^ 63)
    (hcursor : cursor + 4 < usizeRange) :
    readSshStringAt buf cursor =
      some ((readSshString (buf.drop cursor)).map fun p => (p.1, buf.length - p.2.length)) := by
  have hmod : ∀ n, n < 2 ^ 63 + 2 ^ 33 → n % usizeRange = n := by
    intro n hn
    exact Nat.mod_eq_of_lt (hn.trans (by norm_num [usizeRange]))
  unfold readSshStringAt
  rw [Nat.mod_eq_of_lt hcursor]
  by_cases hle : cursor + 4 ≤ buf.length
  · rw [if_neg (by omega)]
    have hleft : (buf.drop cursor).length = buf.length - cursor := List.length_drop
    match hdrop : buf.drop cursor, hleft with
    | [], hleft | [_], hleft | [_, _], hleft | [_, _, _], hleft =>
        simp only [List.length_cons, List.length_nil] at hleft
        omega
    | a :: b :: c :: d :: rest, hleft =>
        have hget : ∀ i, buf[cursor + i]? = (a :: b :: c :: d :: rest)[i]? := by
          intro i
          rw [← hdrop, List.getElem?_drop]
        have hlt : BigEndian.toNat [a, b, c, d] < 256 ^ 4 := BigEndian.toNat_lt [a, b, c, d]
        have hrest : buf.drop (cursor + 4) = rest := by
          rw [← List.drop_drop, hdrop]
          rfl
        simp only [List.length_cons] at hleft
        have ha : buf[cursor]? = some a := hget 0
        have hb : buf[cursor + 1]? = some b := hget 1
        have hc : buf[cursor + 2]? = some c := hget 2
        have hd : buf[cursor + 3]? = some d := hget 3
        rw [hmod (cursor + 1) (by omega), hmod (cursor + 2) (by omega),
          hmod (cursor + 3) (by omega), ha, hb, hc, hd]
        simp only [Option.bind_eq_bind, Option.bind_some]
        rw [hmod _ (by omega), readSshString_cons]
        by_cases hlen : BigEndian.toNat [a, b, c, d] ≤ rest.length
        · rw [if_neg (by omega), if_pos hlen, slice_eq_some (by omega), hrest]
          simp only [Option.bind_some, Except.map, List.length_drop]
          congr 3
          omega
        · rw [if_pos (by omega), if_neg hlen]
          rfl
  · have hshort : (buf.drop cursor).length < 4 := by
      rw [List.length_drop]
      omega
    rw [if_pos (by omega), readSshString_of_length_lt hshort]
    rfl

/-- The cursor at the end of the blob, with four more than a `usize` holds. -/
theorem readSshStringAt_out_of_bounds :
    ¬ ∀ (blob : Bytes) (cursor : Nat), blob.length < 2 ^ 63 → cursor < usizeRange →
      readSshStringAt blob cursor ≠ none := by
  intro h
  have hread := h [0, 0] (2 ^ 64 - 2) (by decide) (by decide)
  exact hread (by decide)

/-- What the parser does with the blob stays in bounds, and is what `readSshString` makes of it. -/
theorem pubkeyOfBlob_eq {given : Given} {line b64 : String} {comment : List String} {blob : Bytes}
    (hsplit : splitWhitespace line = "ssh-ed25519" :: b64 :: comment)
    (hdecode : given.base64Decode b64 = some blob) (hlen : blob.length < 2 ^ 63) :
    pubkeyOfBlob blob = some (ed25519PubkeyRawFromOpenssh given line) := by
  unfold ed25519PubkeyRawFromOpenssh pubkeyOfBlob
  simp only [hsplit, hdecode, ne_eq, not_true_eq_false, if_false]
  rw [readSshStringAt_eq hlen (by norm_num [usizeRange]), List.drop_zero]
  cases hread : readSshString blob with
  | error err => rfl
  | ok p =>
      obtain ⟨algoBytes, rest⟩ := p
      obtain ⟨hblob, -⟩ := readSshString_eq_ok.mp hread
      have hcursor : blob.length - rest.length = (sshString algoBytes).length := by
        rw [hblob, List.length_append, Nat.add_sub_cancel]
      have hrest : blob.drop (blob.length - rest.length) = rest := by
        rw [hcursor, hblob, List.drop_left]
      simp only [Except.map, Option.bind_some, Except.bind, bind]
      by_cases halgo : algoBytes = sshEd25519
      · simp only [halgo, not_true_eq_false, if_false]
        have hfit : blob.length - rest.length + 4 < usizeRange := by
          have husize : usizeRange = 2 ^ 64 := rfl
          omega
        rw [readSshStringAt_eq hlen hfit, hrest]
        cases readSshString rest with
        | error err => rfl
        | ok q =>
            by_cases hkey : q.1.length = 32
            · simp [Except.map, hkey]
            · simp [Except.map, hkey]
      · simp only [halgo, not_false_eq_true, if_true]

/-! ## The format -/

/-- **The accepted lines.** -/
theorem ed25519PubkeyRawFromOpenssh_eq_ok {given : Given} {line : String} {key : PublicKey} :
    ed25519PubkeyRawFromOpenssh given line = .ok key ↔
      key.length = 32 ∧ ∃ b64 comment tail,
        splitWhitespace line = "ssh-ed25519" :: b64 :: comment ∧
        given.base64Decode b64 = some (sshString sshEd25519 ++ sshString key ++ tail) := by
  unfold ed25519PubkeyRawFromOpenssh
  constructor
  · intro h
    split at h
    · cases h
    · rename_i algo parts hsplit
      split at h
      · cases h
      · rename_i halgo
        split at h
        · cases h
        · rename_i b64 comment
          split at h
          · cases h
          · rename_i blob hdecode
            obtain ⟨⟨algoBytes, rest⟩, hread, h⟩ := Except.bind_eq_ok.mp h
            dsimp only at h
            split at h
            · cases h
            · rename_i hbytes
              obtain ⟨⟨pubkey, tail⟩, hkey, h⟩ := Except.bind_eq_ok.mp h
              dsimp only at h
              split at h
              · cases h
              · rename_i hlen
                cases h
                obtain ⟨hblob, -⟩ := readSshString_eq_ok.mp hread
                obtain ⟨hrest, -⟩ := readSshString_eq_ok.mp hkey
                refine ⟨not_not.mp hlen, b64, comment, tail, ?_, ?_⟩
                · rw [hsplit, not_not.mp halgo]
                · rw [hdecode, hblob, hrest, not_not.mp hbytes, List.append_assoc]
  · rintro ⟨hlen, b64, comment, tail, hsplit, hdecode⟩
    have hread : readSshString (sshString sshEd25519 ++ sshString key ++ tail) =
        .ok (sshEd25519, sshString key ++ tail) := by
      rw [List.append_assoc]
      exact readSshString_eq_ok.mpr ⟨rfl, by decide⟩
    have hkey : readSshString (sshString key ++ tail) = .ok (key, tail) :=
      readSshString_eq_ok.mpr ⟨rfl, by rw [hlen]; norm_num⟩
    simp only [hsplit, hdecode, ne_eq, not_true_eq_false, if_false, hread, hkey, hlen, bind,
      Except.bind]

/-- A word in front of a space is the first token. -/
theorem splitWhitespace_append_space {word : String} (hne : word ≠ "")
    (hword : ∀ c ∈ word.toList, isWhiteSpace c = false) (rest : String) :
    splitWhitespace (word ++ " " ++ rest) = word :: splitWhitespace rest := by
  have hchars : (word ++ " " ++ rest).toList = word.toList ++ ' ' :: rest.toList := by
    rw [String.toList_append, String.toList_append, List.append_assoc]
    rfl
  have hempty : (!word.toList.isEmpty) = true := by
    rw [Bool.not_eq_true', List.isEmpty_eq_false_iff, ne_eq, String.toList_eq_nil_iff]
    exact hne
  rw [splitWhitespace, hchars,
    List.splitOnP_append_cons_of_forall_mem hword ' ' (by decide) rest.toList]
  simp only [List.filter_cons, hempty, if_true, List.map_cons, String.ofList_toList]
  rfl

/-- The line that holds a key, with the encoder of its blob. -/
def opensshLine (encode : Bytes → String) (key : PublicKey) : String :=
  "ssh-ed25519" ++ " " ++ (encode (sshString sshEd25519 ++ sshString key) ++ " " ++ "test@host")

/-- **The OpenSSH key parser accepts exactly its format.** -/
theorem ed25519PubkeyRawFromOpenssh_format :
    (∀ (given : Given) (line : String) (key : PublicKey),
      ed25519PubkeyRawFromOpenssh given line = .ok key ↔
        key.length = 32 ∧ ∃ b64 comment tail,
          splitWhitespace line = "ssh-ed25519" :: b64 :: comment ∧
          given.base64Decode b64 = some (sshString sshEd25519 ++ sshString key ++ tail)) ∧
    (∀ (blob : Bytes) (cursor : Nat), blob.length < 2 ^ 63 → cursor + 4 < usizeRange →
      readSshStringAt blob cursor ≠ none) ∧
    (∀ (given : Given) (line b64 : String) (comment : List String) (blob : Bytes),
      splitWhitespace line = "ssh-ed25519" :: b64 :: comment →
      given.base64Decode b64 = some blob → blob.length < 2 ^ 63 →
      pubkeyOfBlob blob = some (ed25519PubkeyRawFromOpenssh given line)) ∧
    (∀ (given : Given) (encode : Bytes → String) (key : PublicKey),
      (∀ blob, given.base64Decode (encode blob) = some blob) →
      (∀ blob, blob ≠ [] → encode blob ≠ "") →
      (∀ blob, ∀ c ∈ (encode blob).toList, isWhiteSpace c = false) →
      key.length = 32 → ed25519PubkeyRawFromOpenssh given (opensshLine encode key) = .ok key) := by
  refine ⟨fun _ _ _ => ed25519PubkeyRawFromOpenssh_eq_ok, ?_, ?_, ?_⟩
  · intro blob cursor hblob hcursor
    rw [readSshStringAt_eq hblob hcursor]
    exact Option.some_ne_none _
  · intro given line b64 comment blob hsplit hdecode hlen
    exact pubkeyOfBlob_eq hsplit hdecode hlen
  · intro given encode key hdecode hne hword hlen
    have hblob : sshString sshEd25519 ++ sshString key ≠ [] :=
      List.append_ne_nil_of_left_ne_nil (sshString_ne_nil sshEd25519) _
    have halgo : ∀ c ∈ "ssh-ed25519".toList, isWhiteSpace c = false := by
      have hall : ("ssh-ed25519".toList.all fun c => !isWhiteSpace c) = true := by decide
      intro c hc
      simpa using List.all_eq_true.mp hall c hc
    refine ed25519PubkeyRawFromOpenssh_eq_ok.mpr
      ⟨hlen, encode (sshString sshEd25519 ++ sshString key), ["test@host"], [], ?_, ?_⟩
    · rw [opensshLine, splitWhitespace_append_space (by decide) halgo,
        splitWhitespace_append_space (hne _ hblob) (hword _)]
      rfl
    · rw [hdecode, List.append_nil]

end Nixfleet
