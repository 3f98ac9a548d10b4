/-! UTF-8, read one byte at a time. A byte string is cut into characters and maximal
ill-formed parts; strict decoding refuses the latter and lossy decoding replaces each by U+FFFD.
-/

namespace PatternAudit

/-- File contents, file names and paths. -/
abbrev Bytes := List UInt8

namespace Utf8

/-- What a decoder expects between two bytes. -/
inductive Decoder where
  /-- The first byte of a character. -/
  | first
  /-- A byte from `low` to `high`, then `more` further bytes of the same character, whose bits
  read so far are `code`.
  -/
  | rest (low high : Nat) (more : Nat) (code : Nat)
  deriving DecidableEq, Repr

/-- What one byte does to a decoder that expects the first byte of a character: the pieces that
it ends, where `none` is an ill-formed part, and what is expected next.
-/
def Decoder.start (byte : Nat) : List (Option Char) × Decoder :=
  if byte < 0x80 then ([some (Char.ofNat byte)], .first)
  else if byte < 0xC2 then ([none], .first)
  else if byte < 0xE0 then ([], .rest 0x80 0xBF 0 (byte - 0xC0))
  else if byte = 0xE0 then ([], .rest 0xA0 0xBF 1 0)
  else if byte = 0xED then ([], .rest 0x80 0x9F 1 0xD)
  else if byte < 0xF0 then ([], .rest 0x80 0xBF 1 (byte - 0xE0))
  else if byte = 0xF0 then ([], .rest 0x90 0xBF 2 0)
  else if byte < 0xF4 then ([], .rest 0x80 0xBF 2 (byte - 0xF0))
  else if byte = 0xF4 then ([], .rest 0x80 0x8F 2 4)
  else ([none], .first)

/-- A byte that cannot continue the current character ends an ill-formed part and is read again
as the first byte of a character.
-/
def Decoder.step : Decoder → Nat → List (Option Char) × Decoder
  | .first, byte => start byte
  | .rest low high more code, byte =>
    if low ≤ byte ∧ byte ≤ high then
      let code := code * 64 + (byte - 0x80)
      match more with
      | 0 => ([some (Char.ofNat code)], .first)
      | more + 1 => ([], .rest 0x80 0xBF more code)
    else
      let (pieces, next) := start byte
      (none :: pieces, next)

/-- An unfinished character at the end is an ill-formed part. -/
def Decoder.finish : Decoder → List (Option Char)
  | .first => []
  | .rest .. => [none]

/-- The characters and ill-formed parts of a byte string, in order. -/
def Decoder.run : Decoder → Bytes → List (Option Char)
  | decoder, [] => decoder.finish
  | decoder, byte :: bytes =>
    let (pieces, next) := decoder.step byte.toNat
    pieces ++ next.run bytes

/-- The pieces of a byte string: its characters, and `none` for each maximal ill-formed part. -/
def pieces (bytes : Bytes) : List (Option Char) :=
  Decoder.first.run bytes

/-- The characters, with U+FFFD in the place of each maximal ill-formed part. -/
def decodeLossy (bytes : Bytes) : List Char :=
  (pieces bytes).map (·.getD '\uFFFD')

/-- All pieces as characters, if none is ill-formed. -/
def allChars : List (Option Char) → Option (List Char)
  | [] => some []
  | none :: _ => none
  | some char :: pieces => (allChars pieces).map (char :: ·)

/-- The characters of a well-formed byte string. -/
def decode? (bytes : Bytes) : Option (List Char) :=
  allChars (pieces bytes)

/-- The character that the decoder completes first and how many bytes that takes, if nothing
ill-formed comes before it.
-/
def Decoder.firstChar? : Decoder → Bytes → Option (Char × Nat)
  | _, [] => none
  | decoder, byte :: bytes =>
    match decoder.step byte.toNat with
    | ([some char], _) => some (char, 1)
    | ([], next) => (next.firstChar? bytes).map fun (char, length) => (char, length + 1)
    | _ => none

/-- The character with which a byte string begins, and its length in bytes. -/
def firstChar? (bytes : Bytes) : Option (Char × Nat) :=
  Decoder.first.firstChar? bytes

/-- The bytes of one character. -/
def encodeChar (char : Char) : Bytes :=
  let code := char.toNat
  if code < 0x80 then
    [.ofNat code]
  else if code < 0x800 then
    [.ofNat (0xC0 + code / 64), .ofNat (0x80 + code % 64)]
  else if code < 0x10000 then
    [.ofNat (0xE0 + code / 4096), .ofNat (0x80 + code / 64 % 64), .ofNat (0x80 + code % 64)]
  else
    [.ofNat (0xF0 + code / 262144), .ofNat (0x80 + code / 4096 % 64),
      .ofNat (0x80 + code / 64 % 64), .ofNat (0x80 + code % 64)]

/-- The bytes of a text. -/
def encode (chars : List Char) : Bytes :=
  chars.flatMap encodeChar

/-- The bytes of a string. -/
def ofString (text : String) : Bytes :=
  encode text.toList

end Utf8

end PatternAudit
