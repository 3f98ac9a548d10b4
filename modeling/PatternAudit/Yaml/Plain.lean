import PatternAudit.Yaml.Folding

/-! Plain YAML scalars, which end where something else begins: at a colon before a blank, at a
comment, at a marker between documents, at an indicator inside brackets, or at a line that is not
indented enough.
-/

namespace PatternAudit.Yaml.Plain

/-- An indicator that ends a plain scalar inside brackets. -/
def isFlowIndicator (char : Char) : Bool :=
  char == ',' || char == '[' || char == ']' || char == '{' || char == '}'

/-- A plain scalar and what follows it. -/
structure Result where
  text : String
  /-- A line ended after the last word. -/
  broken : Bool
  rest : List Glyph

/-- The text so far, last character first, as a result. -/
def finish (read : List Char) (gap : Gap) (rest : List Glyph) : Result where
  text := .ofList read.reverse
  broken := gap.broken
  rest := rest

/-- Whether a colon stands where it cannot be understood. -/
def isStrayColon (inFlow : Bool) (char : Char) (rest : List Glyph) : Bool :=
  inFlow && char == ':' && Glyph.nextPasses (fun next => isFlowIndicator next || next == '?') rest

/-- Whether a word ends before a character. -/
def endsWord (inFlow : Bool) (char : Char) (rest : List Glyph) : Bool :=
  (char == ':' && Glyph.atBlank rest) || (inFlow && isFlowIndicator char)

/-- Whether the scalar ends before a character that begins a line or follows a blank. -/
def endsAfterGap (inFlow : Bool) (indent : Nat) (glyph : Glyph) (rest : List Glyph) : Bool :=
  (!inFlow && glyph.column < indent) || glyph.char == '#'
    || Glyph.isDocumentMarker (glyph :: rest)

/-- A plain scalar after what was read of it, last character first, and the gap since then. Lines
after the first are indented at least so much, and not by tabs.
-/
def tail? (inFlow : Bool) (indent : Nat) (read : List Char) (gap : Option Gap)
    : List Glyph → Option Result
  | [] => some (finish read (gap.getD {}) [])
  | glyph :: rest =>
    let char := glyph.char
    if isBlank char || isBreak char then
      let gap := gap.getD {}
      if gap.broken && glyph.column < indent && char == '\t' then none
      else tail? inFlow indent read (some (gap.add char)) rest
    else
      let stop := finish read (gap.getD {}) (glyph :: rest)
      if gap.isSome && endsAfterGap inFlow indent glyph rest then some stop
      else if isStrayColon inFlow char rest then none
      else if endsWord inFlow char rest then some stop
      else
        let joined := match gap with
          | some gap => gap.text
          | none => []
        tail? inFlow indent (char :: (joined ++ read)) none rest

end PatternAudit.Yaml.Plain
