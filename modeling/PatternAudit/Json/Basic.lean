/-! JSON values. A number is kept as the text it was written with, because a whole number and
a decimal of the same size are different things to a reader of counts.
-/

namespace PatternAudit

/-- A JSON value; the fields of an object are in the order in which they are written. -/
inductive Json where
  | null
  | bool (value : Bool)
  | number (text : String)
  | string (value : String)
  | array (items : List Json)
  | object (fields : List (String × Json))
  deriving Inhabited

namespace Json

/-- A whole number without a sign. -/
def ofNat (value : Nat) : Json :=
  .number (toString value)

/-- The array of some strings. -/
def ofStrings (values : List String) : Json :=
  .array (values.map .string)

/-- The value that digits denote, in base ten. -/
def decimal (digits : List Char) : Nat :=
  digits.foldl (fun value digit => value * 10 + (digit.toNat - '0'.toNat)) 0

/-- A number that is written as digits only and does not exceed the limit. -/
def natUpTo? (limit : Nat) : Json → Option Nat
  | .number text =>
    let digits := text.toList
    if digits.isEmpty || digits.any (!·.isDigit) || limit < decimal digits then none
    else some (decimal digits)
  | _ => none

def string? : Json → Option String
  | .string value => some value
  | _ => none

def array? : Json → Option (List Json)
  | .array items => some items
  | _ => none

/-- An array that holds strings only. -/
def strings? (value : Json) : Option (List String) := do
  (← value.array?).mapM string?

/-- The value of a field, the last one if the field is repeated. -/
def field? (name : String) : Json → Option Json
  | .object fields => (fields.reverse.find? (·.1 == name)).map (·.2)
  | _ => none

end Json

end PatternAudit
