import PatternAudit.Proofs.Text.Decoding

/-! Encoding undoes decoding. The bytes of a character that a decoder is in are held until the
character is complete, and are then the bytes of that character. So well-formed byte strings are
told apart by the texts that they decode to.
-/

namespace PatternAudit.Utf8

-----------------------------------------------------------------------------------------
-- Single characters
-----------------------------------------------------------------------------------------

/-- A byte that can continue a character. -/
def IsTail (byte : UInt8) : Prop :=
  0x80 ≤ byte.toNat ∧ byte.toNat ≤ 0xBF

/-- The byte of a byte's number is that byte. -/
theorem ofNat_eq_of_eq_toNat {number : Nat} {byte : UInt8} (same : number = byte.toNat)
    : UInt8.ofNat number = byte := by
  rw [same, UInt8.ofNat_toNat]

section Characters

variable {first second third fourth : UInt8}

/-- One byte of ASCII is a character. -/
theorem encodeChar_one (ascii : first.toNat < 0x80)
    : encodeChar (Char.ofNat first.toNat) = [first] := by
  have valid : first.toNat.isValidChar := .inl (by omega)
  simp [encodeChar, Decoder.toNat_ofNat_of_valid valid, ascii]

/-- A first byte with one tail is a character. -/
theorem encodeChar_two (least : 0xC2 ≤ first.toNat) (most : first.toNat < 0xE0)
    (tail : IsTail second)
    : encodeChar (Char.ofNat ((first.toNat - 0xC0) * 64 + (second.toNat - 0x80)))
      = [first, second] := by
  obtain ⟨low, high⟩ := tail
  generalize hCode : (first.toNat - 0xC0) * 64 + (second.toNat - 0x80) = code
  have valid : code.isValidChar := .inl (by omega)
  have hFirst : UInt8.ofNat (0xC0 + code / 64) = first := ofNat_eq_of_eq_toNat (by omega)
  have hSecond : UInt8.ofNat (0x80 + code % 64) = second := ofNat_eq_of_eq_toNat (by omega)
  have above : ¬code < 0x80 := by omega
  have below : code < 0x800 := by omega
  dsimp only [encodeChar]
  rw [Decoder.toNat_ofNat_of_valid valid, if_neg above, if_pos below, hFirst, hSecond]

/-- A first byte with two tails is a character, if the first tail makes it neither too small nor
a surrogate.
-/
theorem encodeChar_three (least : 0xE0 ≤ first.toNat) (most : first.toNat < 0xF0)
    (tail : IsTail second) (tail' : IsTail third)
    (large : first.toNat = 0xE0 → 0xA0 ≤ second.toNat)
    (noSurrogate : first.toNat = 0xED → second.toNat ≤ 0x9F)
    : encodeChar
          (Char.ofNat
            (((first.toNat - 0xE0) * 64 + (second.toNat - 0x80)) * 64 + (third.toNat - 0x80)))
      = [first, second, third] := by
  obtain ⟨low, high⟩ := tail
  obtain ⟨low', high'⟩ := tail'
  generalize hCode
    : ((first.toNat - 0xE0) * 64 + (second.toNat - 0x80)) * 64 + (third.toNat - 0x80) = code
  have valid : code.isValidChar := by
    rw [Nat.isValidChar]
    omega
  have hFirst : UInt8.ofNat (0xE0 + code / 4096) = first := ofNat_eq_of_eq_toNat (by omega)
  have hSecond : UInt8.ofNat (0x80 + code / 64 % 64) = second :=
    ofNat_eq_of_eq_toNat (by omega)
  have hThird : UInt8.ofNat (0x80 + code % 64) = third := ofNat_eq_of_eq_toNat (by omega)
  have above : ¬code < 0x80 := by omega
  have above' : ¬code < 0x800 := by omega
  have below : code < 0x10000 := by omega
  dsimp only [encodeChar]
  rw [Decoder.toNat_ofNat_of_valid valid, if_neg above, if_neg above', if_pos below, hFirst,
    hSecond, hThird]

/-- A first byte with three tails is a character, if the first tail makes it neither too small
nor too large.
-/
theorem encodeChar_four (least : 0xF0 ≤ first.toNat) (most : first.toNat ≤ 0xF4)
    (tail : IsTail second) (tail' : IsTail third) (tail'' : IsTail fourth)
    (large : first.toNat = 0xF0 → 0x90 ≤ second.toNat)
    (small : first.toNat = 0xF4 → second.toNat ≤ 0x8F)
    : encodeChar
          (Char.ofNat
            ((((first.toNat - 0xF0) * 64 + (second.toNat - 0x80)) * 64 + (third.toNat - 0x80))
                * 64
              + (fourth.toNat - 0x80)))
      = [first, second, third, fourth] := by
  obtain ⟨low, high⟩ := tail
  obtain ⟨low', high'⟩ := tail'
  obtain ⟨low'', high''⟩ := tail''
  generalize hCode
    : (((first.toNat - 0xF0) * 64 + (second.toNat - 0x80)) * 64 + (third.toNat - 0x80)) * 64
        + (fourth.toNat - 0x80)
      = code
  have valid : code.isValidChar := .inr ⟨by omega, by omega⟩
  have hFirst : UInt8.ofNat (0xF0 + code / 262144) = first := ofNat_eq_of_eq_toNat (by omega)
  have hSecond : UInt8.ofNat (0x80 + code / 4096 % 64) = second :=
    ofNat_eq_of_eq_toNat (by omega)
  have hThird : UInt8.ofNat (0x80 + code / 64 % 64) = third := ofNat_eq_of_eq_toNat (by omega)
  have hFourth : UInt8.ofNat (0x80 + code % 64) = fourth := ofNat_eq_of_eq_toNat (by omega)
  have above : ¬code < 0x80 := by omega
  have above' : ¬code < 0x800 := by omega
  have above'' : ¬code < 0x10000 := by omega
  dsimp only [encodeChar]
  rw [Decoder.toNat_ofNat_of_valid valid, if_neg above, if_neg above', if_neg above'', hFirst,
    hSecond, hThird, hFourth]

end Characters

-----------------------------------------------------------------------------------------
-- Held bytes
-----------------------------------------------------------------------------------------

namespace Decoder

/-- However the bytes that are expected continue the held ones, all of them together are the bytes
of the character that results.
-/
def Promises (held : Bytes) (low high : Nat) : Nat → Nat → Prop
  | 0, code =>
    ∀ byte : UInt8,
      low ≤ byte.toNat
      → byte.toNat ≤ high
      → encodeChar (Char.ofNat (code * 64 + (byte.toNat - 0x80))) = held ++ [byte]
  | more + 1, code =>
    ∀ byte : UInt8,
      low ≤ byte.toNat
      → byte.toNat ≤ high
      → Promises (held ++ [byte]) 0x80 0xBF more (code * 64 + (byte.toNat - 0x80))

/-- The bytes that a decoder has read of the character that it is in. -/
def Holds (held : Bytes) : Decoder → Prop
  | first => held = []
  | rest low high more code => Promises held low high more code

/-- What a byte does to a decoder that holds bytes: it completes their character, it is held too,
or it shows an ill-formed part.
-/
def Keeps (held : Bytes) (byte : UInt8) (outcome : List (Option Char) × Decoder) : Prop :=
  (∃ char, outcome = ([some char], first) ∧ encodeChar char = held ++ [byte])
  ∨ (∃ next, outcome = ([], next) ∧ next.Holds (held ++ [byte]))
  ∨ none ∈ outcome.1

/-- A decoder between two characters holds nothing. -/
theorem holds_first : first.Holds [] :=
  rfl

/-- The first byte of a character is held if it does not stand for itself. -/
theorem keeps_start (byte : UInt8) : Keeps [] byte (start byte.toNat) := by
  have held {low high more code bits : Nat} (same : bits = code)
      (promises : Promises [byte] low high more code)
      : Keeps [] byte ([], rest low high more bits) := by
    subst same
    exact .inr (.inl ⟨_, rfl, promises⟩)
  have broken : Keeps [] byte ([none], first) := .inr (.inr (List.mem_singleton_self _))
  unfold start
  -- After some first bytes, the first tail has bounds of its own.
  split_ifs with ascii tail two isE0 isED three isF0 four isF4
  · exact .inl ⟨_, rfl, encodeChar_one ascii⟩
  · exact broken
  · exact held rfl fun second low high => encodeChar_two (by omega) two ⟨low, high⟩
  · have bits : 0 = byte.toNat - 0xE0 := by omega
    refine held bits fun second low high third low' high' => ?_
    exact encodeChar_three (by omega) (by omega) ⟨by omega, high⟩ ⟨low', high'⟩ (fun _ => low)
      fun isED => by omega
  · have bits : 0xD = byte.toNat - 0xE0 := by omega
    refine held bits fun second low high third low' high' => ?_
    exact encodeChar_three (by omega) (by omega) ⟨low, by omega⟩ ⟨low', high'⟩
      (fun isE0 => by omega) fun _ => high
  · refine held rfl fun second low high third low' high' => ?_
    exact encodeChar_three (by omega) three ⟨low, high⟩ ⟨low', high'⟩
      (fun isE0 => by omega) fun isED => by omega
  · have bits : 0 = byte.toNat - 0xF0 := by omega
    refine held bits fun second low high third low' high' fourth low'' high'' => ?_
    exact encodeChar_four (by omega) (by omega) ⟨by omega, high⟩ ⟨low', high'⟩ ⟨low'', high''⟩
      (fun _ => low) fun isF4 => by omega
  · refine held rfl fun second low high third low' high' fourth low'' high'' => ?_
    exact encodeChar_four (by omega) (by omega) ⟨low, high⟩ ⟨low', high'⟩ ⟨low'', high''⟩
      (fun isF0 => by omega) fun isF4 => by omega
  · have bits : 4 = byte.toNat - 0xF0 := by omega
    refine held bits fun second low high third low' high' fourth low'' high'' => ?_
    exact encodeChar_four (by omega) (by omega) ⟨low, by omega⟩ ⟨low', high'⟩ ⟨low'', high''⟩
      (fun isF0 => by omega) fun _ => high
  · exact broken

/-- A byte is held with those before it, or ends what they began. -/
theorem keeps_step {held : Bytes} {decoder : Decoder} (holds : decoder.Holds held) (byte : UInt8)
    : Keeps held byte (decoder.step byte.toNat) := by
  cases decoder with
  | first =>
      obtain rfl : held = [] := holds
      exact keeps_start byte
  | rest low high more code =>
      rw [step]
      split_ifs with continues
      · cases more with
        | zero => exact .inl ⟨_, rfl, holds byte continues.1 continues.2⟩
        | succ more => exact .inr (.inl ⟨_, rfl, holds byte continues.1 continues.2⟩)
      · exact .inr (.inr List.mem_cons_self)

end Decoder

-----------------------------------------------------------------------------------------
-- Texts
-----------------------------------------------------------------------------------------

/-- An ill-formed part leaves no text. -/
theorem allChars_of_none_mem {pieces : List (Option Char)} (broken : none ∈ pieces)
    : allChars pieces = none := by
  induction pieces with
  | nil => cases broken
  | cons piece pieces ih =>
      cases piece with
      | none => rfl
      | some char =>
          have later : none ∈ pieces := by simpa using broken
          rw [allChars, ih later]
          rfl

/-- The held bytes and those to come are the bytes of the text that results, by induction on the
bytes to come.
-/
theorem Decoder.encode_of_run {held bytes : Bytes} {decoder : Decoder} {chars : List Char}
    (holds : decoder.Holds held) (decoded : allChars (decoder.run bytes) = some chars)
    : encode chars = held ++ bytes := by
  induction bytes generalizing decoder held chars with
  | nil =>
      cases decoder with
      | first =>
          obtain rfl : held = [] := holds
          obtain rfl : [] = chars := Option.some.inj decoded
          rfl
      | rest low high more code => cases decoded
  | cons byte bytes ih =>
      rw [run_cons] at decoded
      rcases keeps_step holds byte with ⟨char, stepped, whole⟩ | ⟨next, stepped, held'⟩ | broken
      · rw [stepped, List.singleton_append, allChars, Option.map_eq_some_iff] at decoded
        obtain ⟨later, decodedLater, rfl⟩ := decoded
        have rest : encode later = bytes := ih holds_first decodedLater
        rw [encode, List.flatMap_cons, whole, ← encode, rest, List.append_assoc]
        rfl
      · rw [stepped] at decoded
        rw [ih held' decoded, List.append_assoc]
        rfl
      · rw [allChars_of_none_mem (List.mem_append_left _ broken)] at decoded
        cases decoded

/-- Encoding a decoded text gives its bytes back. -/
theorem encode_of_decode? {bytes : Bytes} {chars : List Char}
    (decoded : decode? bytes = some chars)
    : encode chars = bytes :=
  Decoder.encode_of_run Decoder.holds_first decoded

/-- Pieces that are all characters are those characters. -/
theorem map_getD_of_allChars {pieces : List (Option Char)} {chars : List Char}
    (whole : allChars pieces = some chars)
    : pieces.map (·.getD '\uFFFD') = chars := by
  induction pieces generalizing chars with
  | nil => exact Option.some.inj whole
  | cons piece pieces ih =>
      cases piece with
      | none => cases whole
      | some char =>
          rw [allChars, Option.map_eq_some_iff] at whole
          obtain ⟨rest, wholeRest, rfl⟩ := whole
          rw [List.map_cons, ih wholeRest]
          rfl

/-- Well-formed byte strings that are decoded to the same text are the same. -/
theorem eq_of_decodeLossy_eq {left right : Bytes} (leftWhole : (decode? left).isSome)
    (rightWhole : (decode? right).isSome) (same : decodeLossy left = decodeLossy right)
    : left = right := by
  obtain ⟨leftText, leftDecoded⟩ := Option.isSome_iff_exists.mp leftWhole
  obtain ⟨rightText, rightDecoded⟩ := Option.isSome_iff_exists.mp rightWhole
  have sameText : leftText = rightText := by
    rw [← map_getD_of_allChars leftDecoded, ← map_getD_of_allChars rightDecoded]
    exact same
  rw [← encode_of_decode? leftDecoded, ← encode_of_decode? rightDecoded, sameText]

end PatternAudit.Utf8
