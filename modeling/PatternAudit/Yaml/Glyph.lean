/-! The characters of a YAML text with the places at which they stand. Line breaks of every kind
but two become newlines, and a carriage return with a newline is one break.
-/

namespace PatternAudit.Yaml

/-- A character and where it stands: how many characters, lines and columns are before it. -/
structure Glyph where
  char : Char
  index : Nat
  line : Nat
  column : Nat
  deriving Repr

/-- The byte order mark. -/
def byteOrderMark : Char := '\uFEFF'

/-- The characters that a text may hold. -/
def isAllowed (char : Char) : Bool :=
  let code := char.toNat
  code == 0x9 || code == 0xA || code == 0xD || (0x20 ≤ code && code ≤ 0x7E) || code == 0x85
    || (0xA0 ≤ code && code ≤ 0xD7FF) || (0xE000 ≤ code && code ≤ 0xFFFD) || 0x10000 ≤ code

/-- A space or a tab. -/
def isBlank (char : Char) : Bool :=
  char == ' ' || char == '\t'

/-- A line break, after the other kinds have become newlines. -/
def isBreak (char : Char) : Bool :=
  char == '\n' || char == '\u2028' || char == '\u2029'

/-- A character of the names of anchors, tags and directives. -/
def isWord (char : Char) : Bool :=
  char.isAlphanum || char == '_' || char == '-'

/-- The kinds of line breaks that become newlines. -/
def isNewline (char : Char) : Bool :=
  char == '\n' || char == '\r' || char == '\u0085'

/-- Gives every character its place. -/
def placed (index line column : Nat) : List Char → List Glyph
  | [] => []
  | '\r' :: '\n' :: rest =>
    { char := '\n', index, line, column } :: placed (index + 2) (line + 1) 0 rest
  | char :: rest =>
    if isNewline char then
      { char := '\n', index, line, column } :: placed (index + 1) (line + 1) 0 rest
    else if isBreak char then
      { char, index, line, column } :: placed (index + 1) (line + 1) 0 rest
    else
      { char, index, line, column } :: placed (index + 1) line (column + 1) rest

/-- The characters of a text, if all of them are allowed. -/
def glyphs? (text : List Char) : Option (List Glyph) :=
  if text.all isAllowed then some (placed 0 0 0 text) else none

namespace Glyph

/-- The next character, if there is one. -/
def next? (text : List Glyph) : Option Char :=
  text.head?.map (·.char)

/-- Whether the next character is a given one. -/
def nextIs (char : Char) (text : List Glyph) : Bool :=
  next? text == some char

/-- Whether the next character passes a test. -/
def nextPasses (test : Char → Bool) (text : List Glyph) : Bool :=
  (next? text).any test

/-- Whether a line ends here. -/
def atLineEnd (text : List Glyph) : Bool :=
  text.isEmpty || nextPasses isBreak text

/-- Whether a word ends here. -/
def atBlank (text : List Glyph) : Bool :=
  text.isEmpty || nextPasses (fun char => isBlank char || isBreak char) text

/-- Skips spaces and tabs. -/
def skipBlanks (text : List Glyph) : List Glyph :=
  text.dropWhile fun glyph => isBlank glyph.char

/-- Whether three times a character stand alone at the start of a line. -/
def isMarker (char : Char) : List Glyph → Bool
  | first :: second :: third :: rest =>
    first.column == 0 && first.char == char && second.char == char && third.char == char
      && atBlank rest
  | _ => false

/-- Whether a marker between documents stands here. -/
def isDocumentMarker (text : List Glyph) : Bool :=
  isMarker '-' text || isMarker '.' text

/-- What is left after the rest of a line, if that holds nothing but blanks and perhaps a comment.
-/
def afterLine? (text : List Glyph) : Option (List Glyph) :=
  let rest := skipBlanks text
  let rest := if nextIs '#' rest then rest.dropWhile fun glyph => !isBreak glyph.char else rest
  if atLineEnd rest then some (rest.drop 1) else none

end Glyph

end PatternAudit.Yaml
