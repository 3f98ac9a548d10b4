/-! TOML values. Floating-point numbers and dates are kept as they are written, for nothing is
computed with them.
-/

namespace PatternAudit.Toml

/-- A TOML value; the entries of a table are in the order in which they are written. -/
inductive Value where
  | string (value : String)
  | integer (value : Int)
  | float (text : String)
  | boolean (value : Bool)
  | dateTime (text : String)
  | array (items : List Value)
  | table (entries : List (String × Value))
  deriving Inhabited

namespace Value

def string? : Value → Option String
  | .string value => some value
  | _ => none

def array? : Value → Option (List Value)
  | .array items => some items
  | _ => none

/-- An array that holds strings only. -/
def strings? (value : Value) : Option (List String) := do
  (← value.array?).mapM string?

end Value

end PatternAudit.Toml
