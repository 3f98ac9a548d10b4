import PatternAudit.Yaml.Block
import PatternAudit.Yaml.Plain
import PatternAudit.Yaml.Property
import PatternAudit.Yaml.Quoted

/-! Cutting a YAML text into tokens. That something is a key shows only at the colon after it, so
places where a key may begin are remembered, one for each level of brackets, and the token for the
key is put there afterwards. Such a key is on one line and not too long.
-/

namespace PatternAudit.Yaml

/-- A place where a key may have begun. -/
structure PossibleKey where
  /-- Nothing but a key may begin at this indentation. -/
  required : Bool
  /-- How many tokens are before it. -/
  position : Nat
  start : Glyph

/-- The tokens so far, last first, and what decides how the text goes on. -/
structure Scanner where
  tokens : List Token := []
  /-- The columns of the open block collections, innermost first. -/
  indents : List Nat := []
  /-- The possible keys outside each open bracket, innermost first. -/
  outer : List (Option PossibleKey) := []
  /-- The possible key at this level. -/
  key : Option PossibleKey := none
  /-- A key may begin here. -/
  keyAllowed : Bool := true

namespace Scanner

/-- Whether a bracket is open. -/
def inFlow (scanner : Scanner) : Bool :=
  !scanner.outer.isEmpty

/-- The column of the innermost block collection. -/
def indent (scanner : Scanner) : Option Nat :=
  scanner.indents.head?

/-- Adds a token. -/
def push (scanner : Scanner) (token : Token) : Scanner :=
  { scanner with tokens := token :: scanner.tokens }

/-- Adds a token after the first few. -/
def insert (scanner : Scanner) (position : Nat) (token : Token) : Scanner :=
  { scanner with
    tokens := scanner.tokens.insertIdx (scanner.tokens.length - position) token }

/-- The most characters from the start of a key to its colon. -/
def keyLimit : Nat := 1024

/-- Gives up a possible key that is too far away, unless it is required. -/
def expire (here : Glyph) : Option PossibleKey → Option (Option PossibleKey)
  | none => some none
  | some key =>
    if key.start.line < here.line ∨ key.start.index + keyLimit < here.index then
      if key.required then none else some none
    else
      some (some key)

/-- Gives up all possible keys that are too far away. -/
def expireKeys (scanner : Scanner) (here : Glyph) : Option Scanner := do
  return { scanner with
    key := ← expire here scanner.key
    outer := ← scanner.outer.mapM (expire here) }

/-- Gives up the possible key at this level, unless it is required. -/
def dropKey (scanner : Scanner) : Option Scanner :=
  if scanner.key.any (·.required) then none else some { scanner with key := none }

/-- Remembers that a key may begin here, if that is allowed. -/
def saveKey (scanner : Scanner) (here : Glyph) : Option Scanner :=
  if scanner.keyAllowed then do
    let scanner ← scanner.dropKey
    return { scanner with
      key := some {
        required := !scanner.inFlow && scanner.indent == some here.column
        position := scanner.tokens.length
        start := here } }
  else
    some scanner

/-- Opens a block collection, before the token at a position, if the column is further in. -/
def openBlock (scanner : Scanner) (column position : Nat) (token : Token) : Scanner :=
  if !scanner.inFlow && scanner.indent.all (· < column) then
    { scanner.insert position token with indents := column :: scanner.indents }
  else
    scanner

/-- Closes the block collections that are further in than a column. -/
def closeBlocks (scanner : Scanner) (column : Nat) : Scanner :=
  if scanner.inFlow then scanner
  else
    let closed := scanner.indents.takeWhile (column < ·)
    { scanner with
      tokens := closed.map (fun _ => .blockEnd) ++ scanner.tokens
      indents := scanner.indents.drop closed.length }

/-- Closes all block collections. -/
def closeAllBlocks (scanner : Scanner) : Scanner :=
  if scanner.inFlow then scanner
  else
    { scanner with
      tokens := scanner.indents.map (fun _ => .blockEnd) ++ scanner.tokens
      indents := [] }

/-- Leaves the body of a document for a directive or a marker. -/
def leaveBody (scanner : Scanner) : Option Scanner := do
  let scanner ← scanner.closeAllBlocks.dropKey
  return { scanner with keyAllowed := false }

/-- An opening bracket. -/
def openFlow (scanner : Scanner) (here : Glyph) (token : Token) : Option Scanner := do
  let scanner ← scanner.saveKey here
  return { scanner.push token with
    outer := scanner.key :: scanner.outer
    key := none
    keyAllowed := true }

/-- A closing bracket. -/
def closeFlow (scanner : Scanner) (token : Token) : Option Scanner := do
  let scanner ← scanner.dropKey
  let (key, outer) := match scanner.outer with
    | key :: outer => (key, outer)
    | [] => (none, [])
  return { scanner.push token with key, outer, keyAllowed := false }

/-- A comma between brackets. -/
def flowEntry (scanner : Scanner) : Option Scanner := do
  let scanner ← scanner.dropKey
  return { scanner.push .flowEntry with keyAllowed := true }

/-- A dash before an entry. -/
def blockEntry (scanner : Scanner) (here : Glyph) : Option Scanner := do
  if !scanner.inFlow && !scanner.keyAllowed then none
  else
    let scanner := scanner.openBlock here.column scanner.tokens.length .blockSequenceStart
    let scanner ← scanner.dropKey
    return { scanner.push .blockEntry with keyAllowed := true }

/-- A question mark before a key. -/
def explicitKey (scanner : Scanner) (here : Glyph) : Option Scanner := do
  if !scanner.inFlow && !scanner.keyAllowed then none
  else
    let scanner := scanner.openBlock here.column scanner.tokens.length .blockMappingStart
    let scanner ← scanner.dropKey
    return { scanner.push .key with keyAllowed := !scanner.inFlow }

/-- A colon before a value: what may have been a key was one, or an explicit key came before. -/
def value (scanner : Scanner) (here : Glyph) : Option Scanner :=
  match scanner.key with
  | some key =>
    let scanner := scanner.insert key.position .key
    let scanner := scanner.openBlock key.start.column key.position .blockMappingStart
    some { scanner.push .value with key := none, keyAllowed := false }
  | none =>
    if !scanner.inFlow && !scanner.keyAllowed then none
    else
      let scanner := scanner.openBlock here.column scanner.tokens.length .blockMappingStart
      some { scanner.push .value with keyAllowed := !scanner.inFlow }

/-- A token that may begin a key and after which none may begin at once. -/
def content (scanner : Scanner) (here : Glyph) (token : Token) : Option Scanner := do
  let scanner ← scanner.saveKey here
  return { scanner.push token with keyAllowed := false }

/-- A block scalar, after which a key may begin. -/
def blockContent (scanner : Scanner) (token : Token) : Option Scanner := do
  let scanner ← scanner.dropKey
  return { scanner.push token with keyAllowed := true }

/-- The characters that begin something else than a plain scalar. -/
def isIndicator (char : Char) : Bool :=
  "-?:,[]\x7b\x7d#&*!|>'\"%@".toList.contains char || char.toNat == 0x60

/-- Whether a plain scalar begins here. -/
def beginsPlain (inFlow : Bool) (char : Char) (rest : List Glyph) : Bool :=
  !(isBlank char || isBreak char || isIndicator char)
    || (char == '-' && !Glyph.nextPasses isBlank rest)
    || (!inFlow && (char == '?' || char == ':') && !Glyph.atBlank rest)

/-- A plain scalar. A key may begin after it if a line ended there. -/
def plain (scanner : Scanner) (here : Glyph) (rest : List Glyph)
    : Option (Scanner × List Glyph) := do
  let scanner ← scanner.saveKey here
  let least := (scanner.indent.map (· + 1)).getD 0
  let scalar ← Plain.tail? scanner.inFlow least [] none (here :: rest)
  return ({ scanner.push (.scalar scalar.text true) with keyAllowed := scalar.broken },
    scalar.rest)

/-- The token that begins with a character, and what follows it. -/
def token? (scanner : Scanner) (here : Glyph) (rest : List Glyph)
    : Option (Scanner × List Glyph) :=
  let text := here :: rest
  let alone (scanner : Option Scanner) := scanner.map fun scanner => (scanner, rest)
  if here.column = 0 ∧ here.char = '%' then do
    let scanner ← scanner.leaveBody
    let (token, rest) ← Property.directive? rest
    return (scanner.push token, rest)
  else if Glyph.isMarker '-' text then do
    return ((← scanner.leaveBody).push .documentStart, rest.drop 2)
  else if Glyph.isMarker '.' text then do
    return ((← scanner.leaveBody).push .documentEnd, rest.drop 2)
  else if here.char = '[' then alone (scanner.openFlow here .flowSequenceStart)
  else if here.char = '{' then alone (scanner.openFlow here .flowMappingStart)
  else if here.char = ']' then alone (scanner.closeFlow .flowSequenceEnd)
  else if here.char = '}' then alone (scanner.closeFlow .flowMappingEnd)
  else if here.char = ',' then alone scanner.flowEntry
  else if here.char = '-' ∧ Glyph.atBlank rest then alone (scanner.blockEntry here)
  else if here.char = '?' ∧ (scanner.inFlow ∨ Glyph.atBlank rest) then
    alone (scanner.explicitKey here)
  else if here.char = ':' ∧ (scanner.inFlow ∨ Glyph.atBlank rest) then alone (scanner.value here)
  else if here.char = '*' then do
    let (name, rest) ← Property.anchorName? rest
    return (← scanner.content here (.alias name), rest)
  else if here.char = '&' then do
    let (name, rest) ← Property.anchorName? rest
    return (← scanner.content here (.anchor name), rest)
  else if here.char = '!' then do
    let (handle, rest) ← Property.tag? scanner.inFlow rest
    return (← scanner.content here (.tag handle), rest)
  else if (here.char = '|' ∨ here.char = '>') ∧ !scanner.inFlow then do
    let (text, rest) ← Block.read? (here.char == '|') scanner.indent rest
    return (← scanner.blockContent (.scalar text false), rest)
  else if here.char = '\'' ∨ here.char = '"' then do
    let (text, rest) ← Quoted.tail? (here.char == '\'') .word [] rest
    return (← scanner.content here (.scalar text false), rest)
  else if beginsPlain scanner.inFlow here.char rest then scanner.plain here rest
  else none

/-- Skips blanks, comments and breaks before a token, and says whether a key may begin there. A
line that ends outside brackets allows one; tabs do not stand where one may begin.
-/
def skipToToken (inFlow inComment keyAllowed : Bool) : List Glyph → Bool × List Glyph
  | [] => (keyAllowed, [])
  | glyph :: rest =>
    let char := glyph.char
    if isBreak char then skipToToken inFlow false (keyAllowed || !inFlow) rest
    else if inComment || char == '#' then skipToToken inFlow true keyAllowed rest
    else if char == ' ' || (char == '\t' && (inFlow || !keyAllowed))
        || (char == byteOrderMark && glyph.index == 0) then
      skipToToken inFlow false keyAllowed rest
    else (keyAllowed, glyph :: rest)

/-- All tokens, in order. -/
def finish? (scanner : Scanner) : Option (List Token) := do
  return (← scanner.closeAllBlocks.dropKey).tokens.reverse

/-- The tokens of a text that goes on like this. -/
def tokensFrom? : Nat → Scanner → List Glyph → Option (List Token)
  | 0, _, _ => none
  | fuel + 1, scanner, text =>
    let (keyAllowed, text) := skipToToken scanner.inFlow false scanner.keyAllowed text
    let scanner := { scanner with keyAllowed }
    match text with
    | [] => scanner.finish?
    | here :: rest => do
      let scanner ← scanner.expireKeys here
      let (scanner, rest) ← (scanner.closeBlocks here.column).token? here rest
      tokensFrom? fuel scanner rest

end Scanner

/-- The tokens of a text. -/
def Token.ofText? (text : List Char) : Option (List Token) := do
  let glyphs ← glyphs? text
  Scanner.tokensFrom? (glyphs.length + 1) {} glyphs

end PatternAudit.Yaml
