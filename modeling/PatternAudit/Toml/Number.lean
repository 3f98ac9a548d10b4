import PatternAudit.Text.Hex
import PatternAudit.Toml.Value

/-! TOML numbers and dates. Each reader takes as much as it can from the front and gives what is
left; what may follow a value is checked elsewhere.
-/

namespace PatternAudit.Toml.Number

/-- Digits of some kind, among which single underscores may stand. The digits are given without
them.
-/
def digitsTail (isDigit : Char → Bool) : List Char → List Char × List Char
  | '_' :: digit :: rest =>
    if isDigit digit then
      let (digits, rest) := digitsTail isDigit rest
      (digit :: digits, rest)
    else
      ([], '_' :: digit :: rest)
  | digit :: rest =>
    if isDigit digit then
      let (digits, rest) := digitsTail isDigit rest
      (digit :: digits, rest)
    else
      ([], digit :: rest)
  | [] => ([], [])

/-- At least one digit, first. -/
def digits? (isDigit : Char → Bool) : List Char → Option (List Char × List Char)
  | digit :: rest =>
    if isDigit digit then
      let (digits, rest) := digitsTail isDigit rest
      some (digit :: digits, rest)
    else
      none
  | [] => none

/-- A decimal number without sign; a zero at the front stands alone. -/
def decimal? : List Char → Option (List Char × List Char)
  | '0' :: rest => some (['0'], rest)
  | text => digits? Char.isDigit text

/-- A sign at the front: whether it is a minus, and the rest. -/
def sign : List Char → Bool × List Char
  | '-' :: rest => (true, rest)
  | '+' :: rest => (false, rest)
  | text => (false, text)

/-- The number that digits denote in a base. -/
def valueOf (base : Nat) (digits : List Char) : Nat :=
  digits.foldl (fun value digit => value * base + (Text.hexDigit? digit).getD 0) 0

/-- A number that sixty-four bits hold. -/
def fits (value : Int) : Option Value :=
  if -0x8000000000000000 ≤ value ∧ value < 0x8000000000000000 then some (.integer value) else none

/-- A number in base sixteen, eight or two after the letter that says so. -/
def based? (base : Nat) (rest : List Char) : Option (Value × List Char) := do
  let (digits, rest) ← digits? (fun char => (Text.hexDigit? char).any (· < base)) rest
  return (← fits (valueOf base digits), rest)

/-- A whole number. -/
def integer? : List Char → Option (Value × List Char)
  | '0' :: 'x' :: rest => based? 16 rest
  | '0' :: 'o' :: rest => based? 8 rest
  | '0' :: 'b' :: rest => based? 2 rest
  | text => do
    let (negative, rest) := sign text
    let (digits, rest) ← decimal? rest
    let value : Int := valueOf 10 digits
    return (← fits (if negative then -value else value), rest)

/-- Whether digits times a power of ten are too large for a floating-point number of sixty-four
bits: as large as halfway between the largest such number and the next power of two.
-/
def isTooLarge (digits : List Char) (power : Int) : Bool :=
  let digits := digits.dropWhile (· == '0')
  let size := digits.length + power
  let limit := (Nat.pow 2 54 - 1) * Nat.pow 2 970
  if digits.isEmpty || size < 300 then false
  else if 400 < size then true
  else if 0 ≤ power then limit ≤ valueOf 10 digits * Nat.pow 10 power.toNat
  else limit * Nat.pow 10 (-power).toNat ≤ valueOf 10 digits

/-- The power of ten after a number, if there is one. -/
def exponent? : List Char → Option (Int × List Char)
  | mark :: rest =>
    if mark = 'e' ∨ mark = 'E' then do
      let (negative, rest) := sign rest
      let (digits, rest) ← digits? Char.isDigit rest
      let power : Int := valueOf 10 digits
      return (if negative then -power else power, rest)
    else
      none
  | [] => none

/-- The places after the point, if there are any. -/
def places? : List Char → Option (List Char × List Char)
  | '.' :: rest => digits? Char.isDigit rest
  | _ => none

/-- The part of a text before what is left of it. -/
def consumed (text rest : List Char) : String :=
  .ofList (text.take (text.length - rest.length))

/-- A number with places or a power of ten, or one of the words for values that are no numbers. A
positive number may not be too large.
-/
def float? (text : List Char) : Option (Value × List Char) := do
  let (negative, rest) := sign text
  match rest with
  | 'i' :: 'n' :: 'f' :: rest => some (.float (consumed text rest), rest)
  | 'n' :: 'a' :: 'n' :: rest => some (.float (consumed text rest), rest)
  | _ =>
    let (whole, rest) ← decimal? rest
    let (places, power, rest) ←
      match places? rest with
      | some (places, rest) =>
        match exponent? rest with
        | some (power, rest) => some (places, power, rest)
        | none => some (places, 0, rest)
      | none => (exponent? rest).map fun (power, rest) => ([], power, rest)
    if !negative && isTooLarge (whole ++ places) (power - places.length) then none
    else some (.float (consumed text rest), rest)

/-- A number of exactly so many digits, within bounds. -/
def field? (width low high : Nat) (text : List Char) : Option (Nat × List Char) :=
  let digits := text.take width
  let value := valueOf 10 digits
  if digits.length = width ∧ digits.all Char.isDigit ∧ low ≤ value ∧ value ≤ high then
    some (value, text.drop width)
  else
    none

/-- What follows a given character. -/
def after? (char : Char) : List Char → Option (List Char)
  | head :: rest => if head = char then some rest else none
  | [] => none

def isLeapYear (year : Nat) : Bool :=
  year % 4 == 0 && (year % 100 != 0 || year % 400 == 0)

/-- The days of a month. -/
def daysIn (year month : Nat) : Nat :=
  if month = 2 then if isLeapYear year then 29 else 28
  else if month = 4 ∨ month = 6 ∨ month = 9 ∨ month = 11 then 30
  else 31

/-- A date. -/
def date? (text : List Char) : Option (List Char) := do
  let (year, rest) ← field? 4 0 9999 text
  let (month, rest) ← field? 2 1 12 (← after? '-' rest)
  let (_, rest) ← field? 2 1 (daysIn year month) (← after? '-' rest)
  return rest

/-- A time of day, with seconds and perhaps parts of them. -/
def time? (text : List Char) : Option (List Char) := do
  let (_, rest) ← field? 2 0 23 text
  let (_, rest) ← field? 2 0 59 (← after? ':' rest)
  let (_, rest) ← field? 2 0 60 (← after? ':' rest)
  match rest with
  | '.' :: parts =>
    if parts.head?.any Char.isDigit then return parts.dropWhile Char.isDigit else return rest
  | _ => return rest

/-- The distance from universal time. -/
def offset? : List Char → Option (List Char)
  | mark :: rest =>
    if mark = 'Z' ∨ mark = 'z' then some rest
    else if mark = '+' ∨ mark = '-' then do
      let (_, rest) ← field? 2 0 23 rest
      let (_, rest) ← field? 2 0 59 (← after? ':' rest)
      return rest
    else
      none
  | [] => none

/-- The time of day after a date and a mark between them. -/
def timeAfterDate? : List Char → Option (List Char)
  | mark :: rest =>
    if mark = 'T' ∨ mark = 't' ∨ mark = ' ' then do
      let rest ← time? rest
      return (offset? rest).getD rest
    else
      none
  | [] => none

/-- A date, with or without a time of day, or a time of day. -/
def dateTime? (text : List Char) : Option (Value × List Char) := do
  let rest ← match date? text with
    | some rest => some ((timeAfterDate? rest).getD rest)
    | none => time? text
  return (.dateTime (consumed text rest), rest)

/-- A date, a floating-point number or a whole number. -/
def read? (text : List Char) : Option (Value × List Char) :=
  dateTime? text <|> float? text <|> integer? text

end PatternAudit.Toml.Number
