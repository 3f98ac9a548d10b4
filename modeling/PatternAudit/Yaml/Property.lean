import PatternAudit.Text.Hex
import PatternAudit.Yaml.Glyph
import PatternAudit.Yaml.Token

/-! Anchors, tags and directives of YAML, read from the front of a text after the character that
begins them.
-/

namespace PatternAudit.Yaml.Property

/-- The word at the front and what follows it. -/
def word (text : List Glyph) : String × List Glyph :=
  let isPart (glyph : Glyph) := isWord glyph.char
  (.ofList ((text.takeWhile isPart).map (·.char)), text.dropWhile isPart)

/-- A character that may follow the name of an anchor. -/
def mayFollowAnchor (char : Char) : Bool :=
  char == '?' || char == ':' || char == ',' || char == ']' || char == '}' || char == '%'
    || char == '@' || char.toNat == 0x60

/-- The name of an anchor or alias. -/
def anchorName? (text : List Glyph) : Option (String × List Glyph) :=
  let (name, rest) := word text
  if !name.isEmpty && (Glyph.atBlank rest || Glyph.nextPasses mayFollowAnchor rest) then
    some (name, rest)
  else
    none

/-- A character of a tag; commas and square brackets only stand in some places. -/
def isTagChar (brackets : Bool) (char : Char) : Bool :=
  isWord char || ";/?:@&=+$.!~*'()".toList.contains char
    || (brackets && (char == ',' || char == '[' || char == ']'))

/-- How many bytes follow the first byte of a character. -/
def following? (byte : Nat) : Option Nat :=
  if byte < 0x80 then some 0
  else if byte < 0xC0 then none
  else if byte < 0xE0 then some 1
  else if byte < 0xF0 then some 2
  else if byte < 0xF8 then some 3
  else none

/-- What follows the characters of a tag. A percent sign stands before the two digits of a byte, and
`more` is how many bytes of a character are still missing.
-/
def afterTagChars? (brackets : Bool) (more : Nat) : List Glyph → Option (List Glyph)
  | [] => if more = 0 then some [] else none
  | [glyph] =>
    if more = 0 ∧ glyph.char ≠ '%' then
      if isTagChar brackets glyph.char then some [] else some [glyph]
    else none
  | [first, second] =>
    if more = 0 ∧ first.char ≠ '%' then
      if isTagChar brackets first.char then afterTagChars? brackets 0 [second]
      else some [first, second]
    else none
  | first :: high :: low :: rest =>
    if first.char = '%' then do
      let byte := (← Text.hexDigit? high.char) * 16 + (← Text.hexDigit? low.char)
      if more = 0 then afterTagChars? brackets (← following? byte) rest
      else if 0x80 ≤ byte ∧ byte < 0xC0 then afterTagChars? brackets (more - 1) rest
      else none
    else if more ≠ 0 then none
    else if isTagChar brackets first.char then afterTagChars? brackets 0 (high :: low :: rest)
    else some (first :: high :: low :: rest)

/-- What follows at least one character of a tag. -/
def afterSomeTagChars? (brackets : Bool) (text : List Glyph) : Option (List Glyph) := do
  let rest ← afterTagChars? brackets 0 text
  if rest.length < text.length then some rest else none

/-- A tag after its exclamation mark: the handle that has to be declared, if there is one, and what
follows the tag.
-/
def tag? (inFlow : Bool) (text : List Glyph) : Option (Option String × List Glyph) := do
  let (handle, rest) ←
    if Glyph.nextIs '<' text then do
      let rest ← afterSomeTagChars? true (text.drop 1)
      if Glyph.nextIs '>' rest then some (none, rest.drop 1) else none
    else
      let (name, rest) := word text
      if Glyph.nextIs '!' rest then do
        return (some ("!" ++ name ++ "!"), ← afterSomeTagChars? false (rest.drop 1))
      else do
        return (none, ← afterTagChars? false 0 rest)
  if Glyph.atBlank rest || (inFlow && Glyph.nextIs ',' rest) then some (handle, rest) else none

/-- A number of at most nine digits. -/
def versionNumber? (text : List Glyph) : Option (Nat × List Glyph) :=
  let digits := (text.takeWhile fun glyph => glyph.char.isDigit).map (·.char)
  if digits.isEmpty || 9 < digits.length then none
  else
    some (digits.foldl (fun value digit => value * 10 + (digit.toNat - '0'.toNat)) 0,
      text.drop digits.length)

/-- The version that a directive gives: one point one and one point two are understood. -/
def version? (text : List Glyph) : Option (Token × List Glyph) := do
  let (major, rest) ← versionNumber? (Glyph.skipBlanks text)
  if !Glyph.nextIs '.' rest then none
  else
    let (minor, rest) ← versionNumber? (rest.drop 1)
    return (.version (major == 1 && (minor == 1 || minor == 2)), rest)

/-- The handle that a directive declares, before the characters that it stands for. -/
def declaration? (text : List Glyph) : Option (Token × List Glyph) := do
  let text := Glyph.skipBlanks text
  if !Glyph.nextIs '!' text then none
  else
    let (name, rest) := word (text.drop 1)
    let (handle, rest) ←
      if Glyph.nextIs '!' rest then some ("!" ++ name ++ "!", rest.drop 1)
      else if name.isEmpty then some ("!", rest)
      else none
    if !Glyph.nextPasses isBlank rest then none
    else
      let rest ← afterSomeTagChars? true (Glyph.skipBlanks rest)
      if Glyph.atBlank rest then some (.declaration handle, rest) else none

/-- A directive after its percent sign, with the rest of its line. -/
def directive? (text : List Glyph) : Option (Token × List Glyph) := do
  let (name, rest) := word text
  if !Glyph.atBlank rest then none
  else
    let (token, rest) ←
      if name = "YAML" then version? rest
      else if name = "TAG" then declaration? rest
      else none
    return (token, ← Glyph.afterLine? rest)

end PatternAudit.Yaml.Property
