import PatternAudit.Text.Hex
import PatternAudit.Yaml.Folding

/-! Quoted YAML scalars. Between single quotes a quote is written twice; between double quotes a
backslash begins an escape.
-/

namespace PatternAudit.Yaml.Quoted

/-- What the next character belongs to. -/
inductive Phase where
  | word
  /-- Blanks and breaks after a word. -/
  | gap (gap : Gap)
  /-- A single quote came before, which ends the scalar unless another follows. -/
  | quote
  /-- A backslash came before. -/
  | escape
  /-- The hexadecimal code of a character, of which so many digits are left after the next. -/
  | code (left value : Nat)

/-- The character that a letter after a backslash stands for. -/
def escaped? : Char → Option Char
  | '0' => some '\x00'
  | 'a' => some '\x07'
  | 'b' => some '\x08'
  | 't' => some '\t'
  | '\t' => some '\t'
  | 'n' => some '\n'
  | 'v' => some '\x0b'
  | 'f' => some '\x0c'
  | 'r' => some '\r'
  | 'e' => some '\x1b'
  | ' ' => some ' '
  | '"' => some '"'
  | '/' => some '/'
  | '\\' => some '\\'
  | 'N' => some '\u0085'
  | '_' => some '\u00a0'
  | 'L' => some '\u2028'
  | 'P' => some '\u2029'
  | _ => none

/-- How many hexadecimal digits follow a letter after a backslash. -/
def codeLength? : Char → Option Nat
  | 'x' => some 2
  | 'u' => some 4
  | 'U' => some 8
  | _ => none

/-- What a character of a word does: the next phase and what was read, last character first. A
double quote that ends the scalar is not seen here.
-/
def wordStep (single : Bool) (read : List Char) (char : Char) : Phase × List Char :=
  if isBlank char || isBreak char then (.gap (({} : Gap).add char), read)
  else if single && char == '\'' then (.quote, read)
  else if !single && char == '\\' then (.escape, read)
  else (.word, char :: read)

/-- The text of a scalar after its opening quote, and what follows it. A marker between documents
may not stand in it.
-/
def tail? (single : Bool) (phase : Phase) (read : List Char)
    : List Glyph → Option (String × List Glyph)
  | [] =>
    match phase with
    | .quote => some (.ofList read.reverse, [])
    | _ => none
  | glyph :: rest =>
    let char := glyph.char
    match phase with
    | .word =>
      if !single && char == '"' then some (.ofList read.reverse, rest)
      else
        let (phase, read) := wordStep single read char
        tail? single phase read rest
    | .gap gap =>
      if isBlank char || isBreak char then tail? single (.gap (gap.add char)) read rest
      else if Glyph.isDocumentMarker (glyph :: rest) then none
      else
        let read := gap.text ++ read
        if !single && char == '"' then some (.ofList read.reverse, rest)
        else
          let (phase, read) := wordStep single read char
          tail? single phase read rest
    | .quote =>
      if char = '\'' then tail? single .word (char :: read) rest
      else some (.ofList read.reverse, glyph :: rest)
    | .escape =>
      if isBreak char then tail? single (.gap .escaped) read rest
      else
        match codeLength? char, escaped? char with
        | some length, _ => tail? single (.code (length - 1) 0) read rest
        | none, some char => tail? single .word (char :: read) rest
        | none, none => none
    | .code left value =>
      match Text.hexDigit? char with
      | none => none
      | some digit =>
        let value := value * 16 + digit
        match left with
        | left + 1 => tail? single (.code left value) read rest
        | 0 =>
          match Text.charOfCode? value with
          | some char => tail? single .word (char :: read) rest
          | none => none

end PatternAudit.Yaml.Quoted
