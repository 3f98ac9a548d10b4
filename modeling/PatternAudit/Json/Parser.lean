import PatternAudit.Json.Basic
import PatternAudit.Text.Hex

/-! Reading JSON text. Every reader takes the characters that are left and gives what it read
and what is left after it.
-/

namespace PatternAudit.Json

/-- Skips blanks. -/
def skipBlanks : List Char → List Char
  | char :: rest =>
    if char == ' ' || char == '\n' || char == '\t' || char == '\r' then skipBlanks rest
    else char :: rest
  | [] => []

/-- The value of four hexadecimal digits. -/
def hexUnit? (first second third fourth : Char) : Option Nat := do
  let high := (← Text.hexDigit? first) * 16 + (← Text.hexDigit? second)
  let low := (← Text.hexDigit? third) * 16 + (← Text.hexDigit? fourth)
  return high * 256 + low

/-- The character that a letter after a backslash stands for. -/
def escaped? : Char → Option Char
  | '"' => some '"'
  | '\\' => some '\\'
  | '/' => some '/'
  | 'b' => some '\x08'
  | 'f' => some '\x0c'
  | 'n' => some '\n'
  | 'r' => some '\r'
  | 't' => some '\t'
  | _ => none

/-- The rest of a string after its opening quote; `read` holds what was read, last first. A
character beyond the basic plane is escaped as a pair of surrogates, and no surrogate stands
alone.
-/
def stringTail (read : List Char) : List Char → Option (String × List Char)
  | [] => none
  | '"' :: rest => some (.ofList read.reverse, rest)
  | '\\' :: 'u' :: a :: b :: c :: d :: rest => do
    let unit ← hexUnit? a b c d
    if unit < 0xD800 || 0xE000 ≤ unit then
      stringTail (Char.ofNat unit :: read) rest
    else if 0xDC00 ≤ unit then
      none
    else
      match rest with
      | '\\' :: 'u' :: a :: b :: c :: d :: rest =>
        let low ← hexUnit? a b c d
        if 0xDC00 ≤ low && low < 0xE000 then
          let code := 0x10000 + (unit - 0xD800) * 0x400 + (low - 0xDC00)
          stringTail (Char.ofNat code :: read) rest
        else
          none
      | _ => none
  | '\\' :: char :: rest => do
    stringTail ((← escaped? char) :: read) rest
  | char :: rest =>
    if char.toNat < 0x20 || char == '\\' then none
    else stringTail (char :: read) rest

/-- The digits at the front. -/
def digits (text : List Char) : List Char × List Char :=
  (text.takeWhile Char.isDigit, text.dropWhile Char.isDigit)

/-- The fraction of a number, if it has one. -/
def fraction? : List Char → Option (List Char × List Char)
  | '.' :: rest =>
    let (places, rest) := digits rest
    if places.isEmpty then none else some ('.' :: places, rest)
  | text => some ([], text)

/-- The exponent of a number, if it has one. -/
def exponent? : List Char → Option (List Char × List Char)
  | mark :: rest =>
    if mark == 'e' || mark == 'E' then
      let sign := rest.take 1 |>.filter fun char => char == '+' || char == '-'
      let (power, after) := digits (rest.drop sign.length)
      if power.isEmpty then none else some (mark :: sign ++ power, after)
    else
      some ([], mark :: rest)
  | [] => some ([], [])

/-- The whole part of a number has no needless zero in front. -/
def whole? (text : List Char) : Option (List Char × List Char) :=
  match digits text with
  | ([], _) => none
  | ('0' :: _ :: _, _) => none
  | (whole, rest) => some (whole, rest)

/-- A number, kept as it is written. -/
def number? (text : List Char) : Option (Json × List Char) := do
  let sign := text.take 1 |>.filter (· == '-')
  let (whole, rest) ← whole? (text.drop sign.length)
  let (fraction, rest) ← fraction? rest
  let (exponent, rest) ← exponent? rest
  return (.number (.ofList (sign ++ whole ++ fraction ++ exponent)), rest)

mutual

/-- A value; `fuel` bounds the number of values and separators that follow. -/
def value? : Nat → List Char → Option (Json × List Char)
  | 0, _ => none
  | fuel + 1, text =>
    match skipBlanks text with
    | 'n' :: 'u' :: 'l' :: 'l' :: rest => some (.null, rest)
    | 't' :: 'r' :: 'u' :: 'e' :: rest => some (.bool true, rest)
    | 'f' :: 'a' :: 'l' :: 's' :: 'e' :: rest => some (.bool false, rest)
    | '"' :: rest => (stringTail [] rest).map fun (text, rest) => (.string text, rest)
    | '[' :: rest =>
      match skipBlanks rest with
      | ']' :: rest => some (.array [], rest)
      | rest => items? fuel [] rest
    | '\x7b' :: rest =>
      match skipBlanks rest with
      | '\x7d' :: rest => some (.object [], rest)
      | rest => fields? fuel [] rest
    | rest => number? rest

/-- The items of an array up to its closing bracket; `read` holds the items before, last first. -/
def items? : Nat → List Json → List Char → Option (Json × List Char)
  | 0, _, _ => none
  | fuel + 1, read, text => do
    let (item, rest) ← value? fuel text
    match skipBlanks rest with
    | ',' :: rest => items? fuel (item :: read) rest
    | ']' :: rest => some (.array (item :: read).reverse, rest)
    | _ => none

/-- The fields of an object up to its closing brace; `read` holds the fields before, last first. -/
def fields? : Nat → List (String × Json) → List Char → Option (Json × List Char)
  | 0, _, _ => none
  | fuel + 1, read, text => do
    let '"' :: rest := skipBlanks text | none
    let (name, rest) ← stringTail [] rest
    let ':' :: rest := skipBlanks rest | none
    let (field, rest) ← value? fuel rest
    match skipBlanks rest with
    | ',' :: rest => fields? fuel ((name, field) :: read) rest
    | '\x7d' :: rest => some (.object ((name, field) :: read).reverse, rest)
    | _ => none

end

/-- The value that a text denotes, if the text is one JSON value and nothing else. -/
def parse? (text : String) : Option Json := do
  let chars := text.toList
  let (value, rest) ← value? (chars.length + 1) chars
  if (skipBlanks rest).isEmpty then some value else none

end PatternAudit.Json
