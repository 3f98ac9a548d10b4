import PatternAudit.Text.Hex

/-! Quoted TOML strings: of one line or of several, with escapes or without. A reader takes one
character at a time and remembers in what it is.
-/

namespace PatternAudit.Toml

/-- A kind of quoted string. -/
structure Quotation where
  quote : Char
  /-- A backslash begins an escape. -/
  escapes : Bool
  /-- The string may go over several lines, and three quotes end it. -/
  multiline : Bool

namespace Quotation

/-- What the next character belongs to. -/
inductive Phase where
  | plain
  /-- A backslash came before. -/
  | escape
  /-- The hexadecimal code of a character, of which so many digits are left after the next. -/
  | code (left value : Nat)
  /-- The end of a line that a backslash joins with the next. -/
  | joining
  /-- The blanks and newlines that are left out after such an end of line. -/
  | joined
  /-- So many quotes came before, and one more could end the string. -/
  | quotes (count : Nat)

/-- A character that stands for itself. -/
def isText (char : Char) : Bool :=
  char == '\t' || (0x20 ≤ char.toNat && char.toNat != 0x7F)

def isBlank (char : Char) : Bool :=
  char == ' ' || char == '\t'

/-- The character that a letter after a backslash stands for. -/
def escaped? : Char → Option Char
  | 'b' => some '\x08'
  | 't' => some '\t'
  | 'n' => some '\n'
  | 'f' => some '\x0c'
  | 'r' => some '\r'
  | '"' => some '"'
  | '\\' => some '\\'
  | _ => none

/-- What one character does outside quotes at the end: the next phase and what was read, last
character first.
-/
def step (kind : Quotation) (phase : Phase) (read : List Char) (char : Char)
    : Option (Phase × List Char) :=
  match phase with
  | .escape =>
    if char = 'u' then some (.code 3 0, read)
    else if char = 'U' then some (.code 7 0, read)
    else if kind.multiline && char == '\n' then some (.joined, read)
    else if kind.multiline && isBlank char then some (.joining, read)
    else (escaped? char).map fun char => (.plain, char :: read)
  | .code left value => do
    let value := value * 16 + (← Text.hexDigit? char)
    match left with
    | 0 => return (.plain, (← Text.charOfCode? value) :: read)
    | left + 1 => return (.code left value, read)
  | .joining =>
    if char = '\n' then some (.joined, read)
    else if isBlank char then some (.joining, read)
    else none
  | _ =>
    if (phase matches .joined) && (char == '\n' || isBlank char) then some (.joined, read)
    else if char = kind.quote then some (.quotes 1, read)
    else if kind.escapes && char == '\\' then some (.escape, read)
    else if isText char || (kind.multiline && char == '\n') then some (.plain, char :: read)
    else none

/-- The text of a string and what follows it, from some phase on. Up to two quotes stand for
themselves, also right before the three that end a string of several lines.
-/
def tail? (kind : Quotation) (phase : Phase) (read : List Char)
    : List Char → Option (String × List Char)
  | [] =>
    match phase with
    | .quotes count =>
      if 3 ≤ count then
        some (.ofList (List.replicate (count - 3) kind.quote ++ read).reverse, [])
      else none
    | _ => none
  | char :: rest =>
    match phase with
    | .quotes count =>
      if char = kind.quote then
        if count = 4 then some (.ofList (kind.quote :: kind.quote :: read).reverse, rest)
        else kind.tail? (.quotes (count + 1)) read rest
      else if 3 ≤ count then
        some (.ofList (List.replicate (count - 3) kind.quote ++ read).reverse, char :: rest)
      else
        match kind.step .plain (List.replicate count kind.quote ++ read) char with
        | some (phase, read) => kind.tail? phase read rest
        | none => none
    | _ =>
      match kind.step phase read char with
      | some (.quotes count, read) =>
        if kind.multiline then kind.tail? (.quotes count) read rest
        else some (.ofList read.reverse, rest)
      | some (phase, read) => kind.tail? phase read rest
      | none => none

/-- A string of one line after its opening quote. -/
def single? (quote : Char) (text : List Char) : Option (String × List Char) :=
  tail? { quote, escapes := quote == '"', multiline := false } .plain [] text

/-- A string of several lines after its three opening quotes; a newline right after them does not
count.
-/
def multiline? (quote : Char) (text : List Char) : Option (String × List Char) :=
  tail? { quote, escapes := quote == '"', multiline := true } .plain []
    (if text.head? = some '\n' then text.drop 1 else text)

end Quotation

end PatternAudit.Toml
