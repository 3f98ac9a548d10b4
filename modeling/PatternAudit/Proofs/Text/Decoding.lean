import Mathlib.Tactic.SplitIfs
import PatternAudit.Text.Utf8

/-! What lossy decoding does to the characters that paths are cut at. A character of ASCII comes
from the byte of its own and from nothing else, whatever is ill-formed around it.
-/

namespace PatternAudit.Utf8

-----------------------------------------------------------------------------------------
-- Decoders
-----------------------------------------------------------------------------------------

/-- The character that a decoder is in, if it is in one, can only be continued by bytes beyond
ASCII. Its last byte gives a code beyond ASCII, and an earlier byte enough for any last one to do
so.
-/
def Decoder.BeyondAscii : Decoder → Prop
  | .first => True
  | .rest low _ 0 code => 0x80 ≤ low ∧ 0x80 ≤ code * 64 + (low - 0x80)
  | .rest low _ (_ + 1) code => 0x80 ≤ low ∧ 2 ≤ code * 64 + (low - 0x80)

namespace Decoder

/-- A decoder between two characters is in none. -/
theorem beyondAscii_first : first.BeyondAscii :=
  trivial

/-- What a first byte beyond ASCII gives: an ill-formed part or the beginning of a character. -/
def Begins (outcome : List (Option Char) × Decoder) : Prop :=
  outcome = ([none], first)
  ∨ ∃ low high more code,
      outcome = ([], rest low high more code) ∧ (rest low high more code).BeyondAscii

/-- A choice between two such outcomes is one. -/
theorem begins_ite {condition : Prop} [Decidable condition]
    {yes no : List (Option Char) × Decoder} (holds : condition → Begins yes)
    (fails : ¬condition → Begins no)
    : Begins (if condition then yes else no) := by
  split
  · exact holds ‹condition›
  · exact fails ‹¬condition›

/-- A first byte of ASCII stands for itself, and no other stands for a character. -/
theorem start_spec (byte : Nat)
    : (byte < 0x80 ∧ start byte = ([some (Char.ofNat byte)], first)) ∨ Begins (start byte) := by
  by_cases ascii : byte < 0x80
  · exact .inl ⟨ascii, if_pos ascii⟩
  · refine .inr ?_
    rw [start, if_neg ascii]
    refine begins_ite (fun _ => .inl rfl) fun _ => ?_
    -- Seven kinds of bytes begin a character of several bytes.
    iterate 7
      refine begins_ite (fun _ => .inr ⟨_, _, _, _, rfl, ?_⟩) fun _ => ?_
      · simp only [BeyondAscii]
        omega
    exact .inl rfl

/-- The first byte of a character leaves a decoder beyond ASCII. -/
theorem beyondAscii_start (byte : Nat) : (start byte).2.BeyondAscii := by
  rcases start_spec byte with ⟨_, alone⟩ | broken | ⟨low, high, more, code, begun, beyond⟩
  · rw [alone]
    exact beyondAscii_first
  · rw [broken]
    exact beyondAscii_first
  · rwa [begun]

/-- Bytes that continue a character are beyond ASCII. -/
theorem BeyondAscii.le_low {low high more code : Nat}
    (beyond : (rest low high more code).BeyondAscii)
    : 0x80 ≤ low := by
  cases more <;> exact beyond.1

/-- Every byte leaves a decoder beyond ASCII: a byte that continues a character adds to the bits
that have been read so far.
-/
theorem beyondAscii_step {decoder : Decoder} (beyond : decoder.BeyondAscii) (byte : Nat)
    : (decoder.step byte).2.BeyondAscii := by
  cases decoder with
  | first => exact beyondAscii_start byte
  | rest low high more code =>
      rw [step]
      split_ifs with continues
      · cases more with
        | zero => trivial
        | succ more =>
            obtain ⟨_, large⟩ := beyond
            cases more <;> simp only [BeyondAscii] <;> omega
      · exact beyondAscii_start byte

/-- A code point of a character stands for itself. -/
theorem toNat_ofNat_of_valid {code : Nat} (valid : code.isValidChar)
    : (Char.ofNat code).toNat = code := by
  have isChar : Char.ofNat code = Char.ofNatAux code valid := dif_pos valid
  rw [isChar]
  rfl

/-- A code point that stands for anything but NUL stands for itself. -/
theorem toNat_ofNat_of_pos {code : Nat} (notNul : 0 < (Char.ofNat code).toNat)
    : (Char.ofNat code).toNat = code := by
  by_cases valid : code.isValidChar
  · exact toNat_ofNat_of_valid valid
  · have isNul : Char.ofNat code = Char.ofNat 0 := dif_neg valid
    rw [isNul] at notNul
    cases notNul

/-- A character that the first byte completes is that byte. -/
theorem eq_of_mem_start {byte : Nat} {char : Char} (member : some char ∈ (start byte).1)
    : byte < 0x80 ∧ char = Char.ofNat byte := by
  rcases start_spec byte with ⟨ascii, alone⟩ | broken | ⟨low, high, more, code, begun, _⟩
  · rw [alone] at member
    exact ⟨ascii, Option.some.inj (List.mem_singleton.mp member)⟩
  · simp [broken] at member
  · simp [begun] at member

/-- A character of ASCII that a byte completes is that byte. NUL is left out, since it also stands
for the code points that are no characters.
-/
theorem eq_of_mem_step {decoder : Decoder} (beyond : decoder.BeyondAscii) {byte : Nat}
    {char : Char} (member : some char ∈ (decoder.step byte).1) (notNul : 0 < char.toNat)
    (ascii : char.toNat < 0x80)
    : byte = char.toNat := by
  have ofStart (started : some char ∈ (start byte).1) : byte = char.toNat := by
    obtain ⟨_, rfl⟩ := eq_of_mem_start started
    exact (toNat_ofNat_of_pos notNul).symm
  cases decoder with
  | first => exact ofStart member
  | rest low high more code =>
      rw [step] at member
      split_ifs at member with continues
      · cases more with
        | zero =>
            obtain ⟨_, large⟩ := beyond
            have isCode := Option.some.inj (List.mem_singleton.mp member)
            rw [isCode] at notNul ascii
            have same := toNat_ofNat_of_pos notNul
            omega
        | succ more => simp at member
      · exact ofStart (by simpa using member)

/-- A byte of ASCII ends what a decoder is in and stands for itself. -/
theorem step_ascii {decoder : Decoder} (beyond : decoder.BeyondAscii) {byte : Nat}
    (ascii : byte < 0x80)
    : decoder.step byte = (decoder.finish ++ [some (Char.ofNat byte)], .first) := by
  have alone : start byte = ([some (Char.ofNat byte)], .first) := by simp [start, ascii]
  cases decoder with
  | first => exact alone
  | rest low high more code =>
      have far := beyond.le_low
      have stops : ¬(low ≤ byte ∧ byte ≤ high) := by omega
      simp [step, stops, alone, finish]

/-- What a byte ends comes before what the bytes after it do. -/
theorem run_cons (decoder : Decoder) (byte : UInt8) (bytes : Bytes)
    : decoder.run (byte :: bytes)
      = (decoder.step byte.toNat).1 ++ (decoder.step byte.toNat).2.run bytes :=
  rfl

/-- A character of ASCII that a decoder gives comes from a byte, by induction on the bytes. -/
theorem exists_mem_of_mem_run {bytes : Bytes} {char : Char} (notNul : 0 < char.toNat)
    (ascii : char.toNat < 0x80) {decoder : Decoder} (beyond : decoder.BeyondAscii)
    (member : some char ∈ decoder.run bytes)
    : ∃ byte ∈ bytes, byte.toNat = char.toNat := by
  induction bytes generalizing decoder with
  | nil => cases decoder <;> simp [run, finish] at member
  | cons byte bytes ih =>
      rcases List.mem_append.mp member with here | later
      · exact ⟨byte, List.mem_cons_self, eq_of_mem_step beyond here notNul ascii⟩
      · obtain ⟨other, found, same⟩ := ih (beyondAscii_step beyond _) later
        exact ⟨other, List.mem_cons_of_mem _ found, same⟩

/-- A decoder reads what stands before and after a byte of ASCII on its own. -/
theorem run_append_ascii {before after : Bytes} {byte : UInt8} (ascii : byte.toNat < 0x80)
    {decoder : Decoder} (beyond : decoder.BeyondAscii)
    : decoder.run (before ++ byte :: after)
      = decoder.run before ++ some (Char.ofNat byte.toNat) :: first.run after := by
  induction before generalizing decoder with
  | nil => simp [run, step_ascii beyond ascii]
  | cons other before ih =>
      rw [List.cons_append, run_cons, run_cons, ih (beyondAscii_step beyond _),
        List.append_assoc]

/-- A decoder that is in a character, or that reads anything, gives a piece. -/
theorem run_ne_nil {bytes : Bytes} {decoder : Decoder} (work : decoder ≠ first ∨ bytes ≠ [])
    : decoder.run bytes ≠ [] := by
  induction bytes generalizing decoder with
  | nil => cases decoder <;> simp_all [run, finish]
  | cons byte bytes ih =>
      have goes : (decoder.step byte.toNat).1 ≠ [] ∨ (decoder.step byte.toNat).2 ≠ first := by
        have started : (start byte.toNat).1 ≠ [] ∨ (start byte.toNat).2 ≠ first := by
          rcases start_spec byte.toNat with ⟨_, alone⟩ | broken | ⟨_, _, _, _, begun, _⟩
          · simp [alone]
          · simp [broken]
          · simp [begun]
        cases decoder with
        | first => exact started
        | rest low high more code =>
            rw [step]
            split_ifs
            · cases more <;> simp
            · simp
      rw [run_cons, Ne, List.append_eq_nil_iff, not_and]
      intro nothing
      exact ih (.inl (goes.resolve_left (not_not_intro nothing)))

end Decoder

-----------------------------------------------------------------------------------------
-- Decoded texts
-----------------------------------------------------------------------------------------

/-- A character of ASCII in a decoded text comes from a byte. -/
theorem exists_mem_of_mem_decodeLossy {bytes : Bytes} {char : Char} (notNul : 0 < char.toNat)
    (ascii : char.toNat < 0x80) (member : char ∈ decodeLossy bytes)
    : ∃ byte ∈ bytes, byte.toNat = char.toNat := by
  obtain ⟨piece, isPiece, rfl⟩ := List.mem_map.mp member
  cases piece with
  | none => simp at ascii
  | some char =>
      exact Decoder.exists_mem_of_mem_run notNul ascii Decoder.beyondAscii_first isPiece

/-- The character of a byte of ASCII comes from that byte only. -/
theorem mem_of_mem_decodeLossy {bytes : Bytes} {byte : UInt8} (notNul : 0 < byte.toNat)
    (ascii : byte.toNat < 0x80) (member : Char.ofNat byte.toNat ∈ decodeLossy bytes)
    : byte ∈ bytes := by
  have number := Decoder.toNat_ofNat_of_valid (.inl (by omega : byte.toNat < 0xD800))
  obtain ⟨other, found, same⟩ :=
    exists_mem_of_mem_decodeLossy (number.symm ▸ notNul) (number.symm ▸ ascii) member
  obtain rfl : other = byte := UInt8.toNat_inj.mp (same.trans number)
  exact found

/-- Only nothing is decoded to nothing. -/
theorem decodeLossy_eq_nil_iff {bytes : Bytes} : decodeLossy bytes = [] ↔ bytes = [] := by
  constructor
  · intro nothing
    cases bytes with
    | nil => rfl
    | cons byte bytes =>
        have noPieces := List.map_eq_nil_iff.mp nothing
        exact absurd noPieces (Decoder.run_ne_nil (.inr (List.cons_ne_nil _ _)))
  · rintro rfl
    rfl

/-- What stands before and after a byte of ASCII is decoded on its own. -/
theorem decodeLossy_append_ascii {before after : Bytes} {byte : UInt8}
    (ascii : byte.toNat < 0x80)
    : decodeLossy (before ++ byte :: after)
      = decodeLossy before ++ Char.ofNat byte.toNat :: decodeLossy after := by
  simp [decodeLossy, pieces, Decoder.run_append_ascii ascii Decoder.beyondAscii_first]

/-- A character of ASCII at the start of a decoded text comes from the first byte: what stands
before a later one would be decoded before it.
-/
theorem exists_of_decodeLossy_eq_cons {bytes : Bytes} {char : Char} {chars : List Char}
    (notNul : 0 < char.toNat) (ascii : char.toNat < 0x80)
    (decoded : decodeLossy bytes = char :: chars)
    : ∃ byte rest, bytes = byte :: rest ∧ byte.toNat = char.toNat ∧ decodeLossy rest = chars := by
  have member : char ∈ decodeLossy bytes := decoded ▸ List.mem_cons_self
  obtain ⟨byte, found, same⟩ := exists_mem_of_mem_decodeLossy notNul ascii member
  obtain ⟨before, after, rfl, fresh⟩ := List.eq_append_cons_of_mem found
  rw [decodeLossy_append_ascii (same ▸ ascii)] at decoded
  cases before with
  | nil => exact ⟨byte, after, rfl, same, (List.cons_eq_cons.mp decoded).2⟩
  | cons first before =>
      have some : decodeLossy (first :: before) ≠ [] :=
        mt decodeLossy_eq_nil_iff.mp (List.cons_ne_nil first before)
      obtain ⟨other, others, begins⟩ := List.exists_cons_of_ne_nil some
      rw [begins] at decoded
      obtain rfl : other = char := (List.cons_eq_cons.mp decoded).1
      obtain ⟨earlier, isEarlier, sameNumber⟩ :=
        exists_mem_of_mem_decodeLossy notNul ascii (begins ▸ List.mem_cons_self)
      obtain rfl : earlier = byte := UInt8.toNat_inj.mp (sameNumber.trans same.symm)
      exact absurd isEarlier fresh

end PatternAudit.Utf8
