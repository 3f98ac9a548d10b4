import PatternAudit.Yaml.Glyph

/-! Blanks and line breaks between the words of a scalar. Blanks within a line stay; a single break
becomes a space; of several breaks the first is dropped.
-/

namespace PatternAudit.Yaml

/-- The blanks and breaks since the last word, each list last character first. -/
structure Gap where
  blanks : List Char := []
  /-- A line ended in the gap. -/
  broken : Bool := false
  /-- The first break, unless it was escaped. -/
  first : Option Char := none
  /-- The breaks after the first. -/
  more : List Char := []

/-- What breaks become, last character first. -/
def foldBreaks (first : Option Char) (more : List Char) : List Char :=
  match first with
  | some '\n' => if more.isEmpty then [' '] else more
  | some char => more ++ [char]
  | none => more

namespace Gap

/-- Adds a blank or a break. Blanks at the start of a line do not count. -/
def add (gap : Gap) (char : Char) : Gap :=
  if isBreak char then
    if gap.broken then { gap with more := char :: gap.more }
    else { broken := true, first := some char }
  else if gap.broken then gap
  else { gap with blanks := char :: gap.blanks }

/-- What the gap becomes between two words, last character first. -/
def text (gap : Gap) : List Char :=
  if gap.broken then foldBreaks gap.first gap.more else gap.blanks

/-- A gap that begins with an escaped break. -/
def escaped : Gap where
  broken := true

end Gap

end PatternAudit.Yaml
