import PatternAudit.Proofs.Text.Encoding

/-! Decoding undoes encoding, so the well-formed byte strings are the encoded texts. A byte of
ASCII cuts a well-formed byte string into well-formed ones.
-/

namespace PatternAudit.Utf8

-----------------------------------------------------------------------------------------
-- Single characters
-----------------------------------------------------------------------------------------

namespace Decoder

/-- The last byte of a character completes it. -/
theorem run_last {low high code byte : Nat} (least : low ≤ byte) (most : byte ≤ high)
    (small : byte < 0x100) (rest : Bytes)
    : (Decoder.rest low high 0 code).run (.ofNat byte :: rest)
      = some (Char.ofNat (code * 64 + (byte - 0x80))) :: first.run rest := by
  rw [run_cons, UInt8.toNat_ofNat_of_lt' small, step, if_pos ⟨least, most⟩]
  rfl

/-- A byte before the last adds its bits to those read so far. -/
theorem run_tail {low high more code byte : Nat} (least : low ≤ byte) (most : byte ≤ high)
    (small : byte < 0x100) (rest : Bytes)
    : (Decoder.rest low high (more + 1) code).run (.ofNat byte :: rest)
      = (Decoder.rest 0x80 0xBF more (code * 64 + (byte - 0x80))).run rest := by
  rw [run_cons, UInt8.toNat_ofNat_of_lt' small, step, if_pos ⟨least, most⟩]
  rfl

/-- A first byte that begins a character leaves its decoder to read on. -/
theorem run_start {byte : Nat} {next : Decoder} (begins : start byte = ([], next))
    (small : byte < 0x100) (rest : Bytes)
    : first.run (.ofNat byte :: rest) = next.run rest := by
  rw [run_cons, UInt8.toNat_ofNat_of_lt' small, step, begins]
  rfl

/-- The first of three bytes admits the second one: a small code begins with a large tail and a
code below the surrogates with a small one.
-/
theorem start_three {code : Nat} (least : 0x800 ≤ code) (most : code < 0x10000)
    (valid : code.isValidChar)
    : ∃ low high,
        start (0xE0 + code / 4096) = ([], .rest low high 1 (code / 4096))
        ∧ low ≤ 0x80 + code / 64 % 64
        ∧ 0x80 + code / 64 % 64 ≤ high := by
  rw [Nat.isValidChar] at valid
  have bits : 0xE0 + code / 4096 - 0xE0 = code / 4096 := by omega
  rw [start, if_neg (by omega), if_neg (by omega), if_neg (by omega)]
  split_ifs with isE0 isED three
  · have none : code / 4096 = 0 := by omega
    exact ⟨_, _, by rw [none], by omega, by omega⟩
  · have last : code / 4096 = 0xD := by omega
    exact ⟨_, _, by rw [last], by omega, by omega⟩
  · exact ⟨_, _, by rw [bits], by omega, by omega⟩
  all_goals omega

/-- The first of four bytes admits the second one: a small code begins with a large tail and a
code near the last one with a small tail.
-/
theorem start_four {code : Nat} (least : 0x10000 ≤ code) (valid : code.isValidChar)
    : ∃ low high,
        start (0xF0 + code / 262144) = ([], .rest low high 2 (code / 262144))
        ∧ low ≤ 0x80 + code / 4096 % 64
        ∧ 0x80 + code / 4096 % 64 ≤ high := by
  rw [Nat.isValidChar] at valid
  have bits : 0xF0 + code / 262144 - 0xF0 = code / 262144 := by omega
  rw [start]
  iterate 6 rw [if_neg (by omega)]
  split_ifs with isF0 four isF4
  · have none : code / 262144 = 0 := by omega
    exact ⟨_, _, by rw [none], by omega, by omega⟩
  · exact ⟨_, _, by rw [bits], by omega, by omega⟩
  · have last : code / 262144 = 4 := by omega
    exact ⟨_, _, by rw [last], by omega, by omega⟩
  · omega

/-- The bytes of a character are decoded to it, whatever follows them. -/
theorem run_encodeChar (char : Char) (rest : Bytes)
    : first.run (encodeChar char ++ rest) = some char :: first.run rest := by
  have valid : char.toNat.isValidChar := char.valid
  have same : Char.ofNat char.toNat = char := Char.ofNat_toNat char
  have whole {code : Nat} (isCode : code = char.toNat) : Char.ofNat code = char := isCode ▸ same
  have bounded : char.toNat < 0x110000 := by
    rw [Nat.isValidChar] at valid
    omega
  dsimp only [encodeChar]
  split_ifs with one two three
  · have small : char.toNat < UInt8.size := Nat.lt_trans one (by decide)
    rw [List.singleton_append, run_cons, UInt8.toNat_ofNat_of_lt' small, step, start, if_pos one,
      same]
    rfl
  · have begins : start (0xC0 + char.toNat / 64) = ([], .rest 0x80 0xBF 0 (char.toNat / 64)) := by
      have bits : 0xC0 + char.toNat / 64 - 0xC0 = char.toNat / 64 := by omega
      rw [start, if_neg (by omega), if_neg (by omega), if_pos (by omega), bits]
    rw [List.cons_append, run_start begins (by omega), List.singleton_append,
      run_last (by omega) (by omega) (by omega), whole (by omega)]
  · obtain ⟨low, high, begins, least, most⟩ := start_three (by omega) three valid
    rw [List.cons_append, run_start begins (by omega), List.cons_append,
      run_tail least most (by omega), List.singleton_append,
      run_last (by omega) (by omega) (by omega), whole (by omega)]
  · obtain ⟨low, high, begins, least, most⟩ := start_four (by omega) valid
    rw [List.cons_append, run_start begins (by omega), List.cons_append,
      run_tail least most (by omega), List.cons_append,
      run_tail (by omega) (by omega) (by omega), List.singleton_append,
      run_last (by omega) (by omega) (by omega), whole (by omega)]

end Decoder

-----------------------------------------------------------------------------------------
-- Texts
-----------------------------------------------------------------------------------------

/-- An encoded text has its characters as pieces, by induction on them. -/
theorem pieces_encode (chars : List Char) : pieces (encode chars) = chars.map some := by
  induction chars with
  | nil => rfl
  | cons char chars ih =>
      rw [encode, List.flatMap_cons, pieces, Decoder.run_encodeChar, ← encode, ← pieces, ih]
      rfl

/-- Decoding gives an encoded text back. -/
theorem decodeLossy_encode (chars : List Char) : decodeLossy (encode chars) = chars := by
  rw [decodeLossy, pieces_encode, List.map_map]
  exact List.map_id chars

/-- Characters are the pieces that they are made of. -/
theorem allChars_map_some (chars : List Char) : allChars (chars.map some) = some chars := by
  induction chars with
  | nil => rfl
  | cons char chars ih => rw [List.map_cons, allChars, ih, Option.map_some]

/-- An encoded text is well-formed. -/
theorem decode?_encode (chars : List Char) : decode? (encode chars) = some chars := by
  rw [decode?, pieces_encode, allChars_map_some]

/-- Pieces are characters exactly if none of them is ill-formed. -/
theorem isSome_allChars_iff {pieces : List (Option Char)}
    : (allChars pieces).isSome ↔ none ∉ pieces := by
  induction pieces with
  | nil => simp [allChars]
  | cons piece pieces ih => cases piece <;> simp [allChars, ih]

/-- A text of ASCII is decoded from its own bytes only, by induction on it. -/
theorem decodeLossy_eq_iff_of_ascii {bytes : Bytes} {chars : List Char}
    (ascii : ∀ char ∈ chars, 0 < char.toNat ∧ char.toNat < 0x80)
    : decodeLossy bytes = chars ↔ bytes = encode chars := by
  constructor
  · intro decoded
    induction chars generalizing bytes with
    | nil => exact decodeLossy_eq_nil_iff.mp decoded
    | cons char chars ih =>
        obtain ⟨first, others⟩ := List.forall_mem_cons.mp ascii
        obtain ⟨byte, rest, rfl, same, further⟩ :=
          exists_of_decodeLossy_eq_cons first.1 first.2 decoded
        have alone : encodeChar char = [byte] := by
          rw [← Char.ofNat_toNat char, ← same]
          exact encodeChar_one (same ▸ first.2)
        rw [ih others further, encode, encode, List.flatMap_cons, alone, List.singleton_append]
  · rintro rfl
    exact decodeLossy_encode chars

/-- Encoding gives a well-formed byte string back, however it was decoded. -/
theorem encode_decodeLossy {bytes : Bytes} (wellFormed : (decode? bytes).isSome)
    : encode (decodeLossy bytes) = bytes := by
  obtain ⟨chars, decoded⟩ := Option.isSome_iff_exists.mp wellFormed
  have same : decodeLossy bytes = chars := map_getD_of_allChars decoded
  rw [same, encode_of_decode? decoded]

/-- What stands before and after a byte of ASCII is well-formed exactly if all of it is. -/
theorem isSome_decode?_append_ascii {before after : Bytes} {byte : UInt8}
    (ascii : byte.toNat < 0x80)
    : (decode? (before ++ byte :: after)).isSome
      ↔ (decode? before).isSome ∧ (decode? after).isSome := by
  simp only [decode?, isSome_allChars_iff, pieces,
    Decoder.run_append_ascii ascii Decoder.beyondAscii_first]
  simp

end PatternAudit.Utf8
