import PatternAudit.Json.Basic

/-! Writing JSON text: on one line, or laid out with two blanks per level. Characters beyond
ASCII stand for themselves; quotes, backslashes and control characters are escaped.
-/

namespace PatternAudit.Json

/-- A hexadecimal digit. -/
def hexChar (digit : Nat) : Char :=
  if digit < 10 then Char.ofNat ('0'.toNat + digit) else Char.ofNat ('a'.toNat + (digit - 10))

/-- A character as it is written between quotes. -/
def escape (char : Char) : List Char :=
  match char with
  | '"' => ['\\', '"']
  | '\\' => ['\\', '\\']
  | '\x08' => ['\\', 'b']
  | '\x0c' => ['\\', 'f']
  | '\n' => ['\\', 'n']
  | '\r' => ['\\', 'r']
  | '\t' => ['\\', 't']
  | _ =>
    if char.toNat < 0x20 then
      ['\\', 'u', '0', '0', hexChar (char.toNat / 16), hexChar (char.toNat % 16)]
    else
      [char]

/-- A string between quotes. -/
def quote (text : String) : String :=
  .ofList ('"' :: text.toList.flatMap escape ++ ['"'])

mutual

/-- The value on one line. -/
def compact : Json → String
  | .null => "null"
  | .bool true => "true"
  | .bool false => "false"
  | .number text => text
  | .string text => quote text
  | .array items => "[" ++ ",".intercalate (compactItems items) ++ "]"
  | .object fields => "\x7b" ++ ",".intercalate (compactFields fields) ++ "\x7d"

def compactItems : List Json → List String
  | [] => []
  | item :: items => compact item :: compactItems items

def compactFields : List (String × Json) → List String
  | [] => []
  | (name, field) :: fields => (quote name ++ ":" ++ compact field) :: compactFields fields

end

/-- The blanks at the start of a line. -/
def indent (level : Nat) : String :=
  .ofList (List.replicate (2 * level) ' ')

/-- Entries between brackets, one on a line; without entries the brackets touch. -/
def laidOut (level : Nat) (opening closing : String) (entries : List String) : String :=
  if entries.isEmpty then opening ++ closing
  else
    opening ++ "\n" ++ ",\n".intercalate (entries.map (indent (level + 1) ++ ·)) ++ "\n"
      ++ indent level ++ closing

mutual

/-- The value over several lines, at some level of nesting. -/
def prettyAt (level : Nat) : Json → String
  | .array items => laidOut level "[" "]" (prettyItems (level + 1) items)
  | .object fields => laidOut level "\x7b" "\x7d" (prettyFields (level + 1) fields)
  | .null => "null"
  | .bool true => "true"
  | .bool false => "false"
  | .number text => text
  | .string text => quote text

def prettyItems (level : Nat) : List Json → List String
  | [] => []
  | item :: items => prettyAt level item :: prettyItems level items

def prettyFields (level : Nat) : List (String × Json) → List String
  | [] => []
  | (name, field) :: fields =>
    (quote name ++ ": " ++ prettyAt level field) :: prettyFields level fields

end

/-- The value over several lines. -/
def pretty (value : Json) : String :=
  prettyAt 0 value

end PatternAudit.Json
