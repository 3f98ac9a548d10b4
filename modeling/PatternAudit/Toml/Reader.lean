import PatternAudit.Toml.Number
import PatternAudit.Toml.Quoted
import PatternAudit.Toml.Table

/-! Reading TOML text as a list of statements, one per line. Newlines are single characters here:
a carriage return stands only before one and is dropped beforehand.
-/

namespace PatternAudit.Toml

/-- What a line of a document says. -/
inductive Statement where
  /-- A value for a key, of which the names before the last are given first. -/
  | entry (names : List String) (key : String) (value : Value)
  /-- A header of a table. -/
  | table (names : List String) (key : String)
  /-- A header of the next table of an array. -/
  | next (names : List String) (key : String)

namespace Reader

def skipBlanks : List Char → List Char :=
  List.dropWhile Quotation.isBlank

/-- The rest of a line, if it holds nothing but blanks and perhaps a comment. The newline is left.
-/
def lineRest? (text : List Char) : Option (List Char) :=
  match skipBlanks text with
  | '#' :: rest =>
    let rest := rest.dropWhile Quotation.isText
    if rest.isEmpty || rest.head? == some '\n' then some rest else none
  | rest => if rest.isEmpty || rest.head? == some '\n' then some rest else none

/-- Skips blanks, comments and newlines, as far as they are well formed. -/
def skipLines : Nat → List Char → List Char
  | 0, text => text
  | fuel + 1, text =>
    match lineRest? text with
    | some ('\n' :: rest) => skipLines fuel rest
    | _ => skipBlanks text

/-- A character of a key without quotes. -/
def isKeyChar (char : Char) : Bool :=
  char.isAlphanum || char == '_' || char == '-'

/-- One name of a key. -/
def name? : List Char → Option (String × List Char)
  | '"' :: rest => Quotation.single? '"' rest
  | '\'' :: rest => Quotation.single? '\'' rest
  | text =>
    let name := text.takeWhile isKeyChar
    if name.isEmpty then none else some (.ofList name, text.dropWhile isKeyChar)

/-- Names with dots between them. -/
def names? : Nat → List Char → Option (List String × List Char)
  | 0, _ => none
  | fuel + 1, text => do
    let (name, rest) ← name? (skipBlanks text)
    match skipBlanks rest with
    | '.' :: rest =>
      let (names, rest) ← names? fuel rest
      return (name :: names, rest)
    | rest => return ([name], rest)

/-- Keys of at least so many names, and values nested as deep, are not taken. -/
def depthLimit : Nat := 80

/-- A key: the names before the last, and the last. -/
def key? (text : List Char) : Option (List String × String × List Char) := do
  let (names, rest) ← names? depthLimit text
  if depthLimit ≤ names.length then none
  else return (names.dropLast, ← names.getLast?, rest)

/-- Items with commas between them. A comma after the last may be left out, or be refused. -/
def items? {α : Type} (item? : List Char → Option (α × List Char)) (closing : Char)
    (trailingComma : Bool) (skip : List Char → List Char)
    : Nat → List α → List Char → Option (List α × List Char)
  | 0, _, _ => none
  | fuel + 1, read, text => do
    match skip text with
    | [] => none
    | head :: rest =>
      if head = closing ∧ (trailingComma ∨ read.isEmpty) then
        some (read.reverse, rest)
      else
        let (item, rest) ← item? (head :: rest)
        match skip rest with
        | ',' :: rest => items? item? closing trailingComma skip fuel (item :: read) rest
        | head :: rest => if head = closing then some ((item :: read).reverse, rest) else none
        | [] => none

/-- A key, an equals sign and a value. -/
def pair? (value? : List Char → Option (Value × List Char)) (text : List Char)
    : Option ((List String × String × Value) × List Char) := do
  let (names, key, rest) ← key? text
  let '=' :: rest := rest | none
  let (value, rest) ← value? (skipBlanks rest)
  return ((names, key, value), rest)

/-- The table of some pairs. -/
def inlineTable? (pairs : List (List String × String × Value)) : Option Value := do
  let entries ← pairs.foldlM
    (fun entries (names, key, value) => Entries.defineDotted key value names entries) []
  return .table (Item.toValues entries)

/-- A value, nested in arrays and inline tables at most so deep. -/
def value? : Nat → List Char → Option (Value × List Char)
  | _, '"' :: '"' :: '"' :: rest => readText (Quotation.multiline? '"' rest)
  | _, '\'' :: '\'' :: '\'' :: rest => readText (Quotation.multiline? '\'' rest)
  | _, '"' :: rest => readText (Quotation.single? '"' rest)
  | _, '\'' :: rest => readText (Quotation.single? '\'' rest)
  | depth + 1, '[' :: rest => do
    let fuel := rest.length + 1
    let (items, rest) ← items? (value? depth) ']' true (skipLines fuel) fuel [] rest
    return (.array items, rest)
  | depth + 1, '\x7b' :: rest => do
    let (pairs, rest) ←
      items? (pair? (value? depth)) '\x7d' false skipBlanks (rest.length + 1) [] rest
    return (← inlineTable? pairs, rest)
  | _, 't' :: 'r' :: 'u' :: 'e' :: rest => some (.boolean true, rest)
  | _, 'f' :: 'a' :: 'l' :: 's' :: 'e' :: rest => some (.boolean false, rest)
  | _, text => Number.read? text
where
  readText (read : Option (String × List Char)) : Option (Value × List Char) :=
    read.map fun (text, rest) => (.string text, rest)

/-- What a line says that is not blank. -/
def statement? : List Char → Option (Statement × List Char)
  | '[' :: '[' :: rest => do
    let (names, key, rest) ← key? rest
    let ']' :: ']' :: rest := rest | none
    return (.next names key, rest)
  | '[' :: rest => do
    let (names, key, rest) ← key? rest
    let ']' :: rest := rest | none
    return (.table names key, rest)
  | text => do
    let ((names, key, value), rest) ← pair? (value? (depthLimit - 1)) text
    return (.entry names key value, rest)

/-- The statements of a text; `read` holds those before, last first. -/
def statementsFrom? : Nat → List Statement → List Char → Option (List Statement)
  | 0, _, _ => none
  | fuel + 1, read, text =>
    match skipLines (text.length + 1) text with
    | [] => some read.reverse
    | '#' :: rest => do
      if (← lineRest? ('#' :: rest)).isEmpty then some read.reverse else none
    | head :: rest => do
      let (statement, rest) ← statement? (head :: rest)
      match ← lineRest? rest with
      | [] => some (statement :: read).reverse
      | _ :: rest => statementsFrom? fuel (statement :: read) rest

/-- Drops the carriage return before each newline; none may stand elsewhere. -/
def unifyNewlines? : List Char → Option (List Char)
  | [] => some []
  | '\r' :: '\n' :: rest => (unifyNewlines? rest).map ('\n' :: ·)
  | char :: rest => if char = '\r' then none else (unifyNewlines? rest).map (char :: ·)

/-- The statements of a document. A byte order mark may stand before them. -/
def statements? (text : List Char) : Option (List Statement) := do
  let text ← unifyNewlines? (if text.head? = some '\uFEFF' then text.drop 1 else text)
  statementsFrom? (text.length + 1) [] text

end Reader

end PatternAudit.Toml
