import PatternAudit.Yaml.Folding

/-! Block scalars of YAML: the lines below a header, less their common indentation. A literal one
keeps its breaks and a folded one joins lines, but not those that begin with a blank. The header
may give the indentation and say which breaks at the end are kept.
-/

namespace PatternAudit.Yaml.Block

/-- Which breaks at the end of a block scalar are kept. -/
inductive Chomping where
  | strip
  | clip
  | keep
  deriving DecidableEq

/-- What the header of a block scalar says. -/
structure Header where
  literal : Bool
  chomping : Chomping := .clip
  /-- The indentation relative to the surrounding block, if it is given. -/
  increment : Option Nat := none

/-- The indicator of chomping that a character is. -/
def chomping? : Char → Option Chomping
  | '+' => some .keep
  | '-' => some .strip
  | _ => none

/-- Reads the indicators after the one that begins a block scalar, in either order, and the rest of
their line.
-/
def header? (literal : Bool) (text : List Glyph) : Option (Header × List Glyph) := do
  let header : Header := { literal }
  let (header, rest) ← indicators header text
  return (header, ← Glyph.afterLine? rest)
where
  /-- An indicator of chomping, if there is one. -/
  readChomping (header : Header) : List Glyph → Header × List Glyph
    | glyph :: rest =>
      match chomping? glyph.char with
      | some chomping => ({ header with chomping }, rest)
      | none => (header, glyph :: rest)
    | [] => (header, [])
  /-- A digit for the indentation, if there is one; it may not be zero. -/
  readIncrement (header : Header) : List Glyph → Option (Header × List Glyph)
    | glyph :: rest =>
      if glyph.char.isDigit then
        let digit := glyph.char.toNat - '0'.toNat
        if digit = 0 then none else some ({ header with increment := some digit }, rest)
      else
        some (header, glyph :: rest)
    | [] => some (header, [])
  /-- The indicators in either order. -/
  indicators (header : Header) (text : List Glyph) : Option (Header × List Glyph) :=
    if Glyph.nextPasses (fun char => (chomping? char).isSome) text then
      let (header, rest) := readChomping header text
      readIncrement header rest
    else do
      let (header, rest) ← readIncrement header text
      if header.increment.isSome then return readChomping header rest
      else return (header, rest)

/-- What was read of a block scalar, each list last character first. -/
structure Draft where
  read : List Char := []
  /-- The break after the last line that is not blank. -/
  first : List Char := []
  /-- The breaks after that one. -/
  more : List Char := []
  /-- The last line that is not blank begins with a blank character. -/
  indented : Bool := false

/-- The text before a line that is not blank and that begins with a character. -/
def Draft.beginLine (draft : Draft) (literal : Bool) (char : Char) : Draft :=
  let joined :=
    if !literal && draft.first == ['\n'] && !draft.indented && !isBlank char then
      if draft.more.isEmpty then [' '] else []
    else
      draft.first
  { read := draft.more ++ (joined ++ draft.read), indented := isBlank char }

/-- The text of a finished block scalar. -/
def Draft.finish (draft : Draft) (chomping : Chomping) : String :=
  let read := match chomping with
    | .strip => draft.read
    | .clip => draft.first ++ draft.read
    | .keep => draft.more ++ (draft.first ++ draft.read)
  .ofList read.reverse

/-- Where a reader of a block scalar is. -/
inductive Phase where
  /-- At the start of a line, or in its indentation. The widest indentation so far counts as long
  as the indentation of the scalar is not known.
  -/
  | indentation (widest : Nat)
  /-- In a line that is not blank. -/
  | line

/-- The lines of a block scalar and what follows them. The indentation is that of the first line
that is not blank if it is not known before, and then at least `least`.
-/
def lines? (header : Header) (least : Nat) (indent : Option Nat) (draft : Draft) (phase : Phase)
    : List Glyph → Option (String × List Glyph)
  | [] => some (draft.finish header.chomping, [])
  | glyph :: rest =>
    let char := glyph.char
    match phase with
    | .line =>
      if isBreak char then
        lines? header least indent { draft with first := [char] } (.indentation 0) rest
      else
        lines? header least indent { draft with read := char :: draft.read } .line rest
    | .indentation widest =>
      let inside := indent.all (glyph.column < ·)
      if inside && char == ' ' then lines? header least indent draft (.indentation widest) rest
      else
        let widest := max widest glyph.column
        if inside && char == '\t' then none
        else if isBreak char then
          lines? header least indent { draft with more := char :: draft.more }
            (.indentation widest) rest
        else
          let indent := indent.getD (max widest least)
          if glyph.column = indent then
            let draft := draft.beginLine header.literal char
            lines? header least (some indent) { draft with read := char :: draft.read } .line rest
          else
            some (draft.finish header.chomping, glyph :: rest)

/-- A block scalar after the indicator that begins it; `indent` is the indentation of the
surrounding block, if there is one.
-/
def read? (literal : Bool) (indent : Option Nat) (text : List Glyph)
    : Option (String × List Glyph) := do
  let (header, rest) ← header? literal text
  let least := max 1 ((indent.map (· + 1)).getD 0)
  let given := header.increment.map ((indent.getD 0) + ·)
  lines? header least given {} (.indentation 0) rest

end PatternAudit.Yaml.Block
