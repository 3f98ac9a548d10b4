import PatternAudit.Pattern.Expr
import PatternAudit.Pattern.Tree
import PatternAudit.Pattern.Unicode.Folding

/-! The meaning of a written pattern under its flags. What is matched is either text, where a
pattern may not match anything but UTF-8, or any bytes.
-/

namespace PatternAudit.Pattern

/-- What a pattern is matched against. -/
inductive Target where
  | text
  | bytes
  deriving DecidableEq, Repr

/-- The flags in force at some place of a pattern. -/
structure Flags where
  caseInsensitive : Bool := false
  multiLine : Bool := false
  dotMatchesNewLine : Bool := false
  unicode : Bool := true
  crlf : Bool := false
  deriving DecidableEq, Repr

/-- The flags after some were switched. -/
def Flags.switch (flags : Flags) (change : FlagChange) : Flags where
  caseInsensitive := (change.of? .caseInsensitive).getD flags.caseInsensitive
  multiLine := (change.of? .multiLine).getD flags.multiLine
  dotMatchesNewLine := (change.of? .dotMatchesNewLine).getD flags.dotMatchesNewLine
  unicode := (change.of? .unicode).getD flags.unicode
  crlf := (change.of? .crlf).getD flags.crlf

/-- The greatest byte. -/
def maxByte : Nat := 0xFF

/-- The letters A to Z in one case, shifted to the other. -/
def shiftCase (set : CodeSet) (low high : Nat) (shift : Nat → Nat) : CodeSet :=
  (CodeSet.inter maxByte set (.interval low high)).map fun (a, b) => (shift a, shift b)

/-- The set with both cases of the ASCII letters in it. -/
def foldAscii (set : CodeSet) : CodeSet :=
  set.union ((shiftCase set 0x41 0x5A (· + 32)).union (shiftCase set 0x61 0x7A (· - 32)))

namespace Meaning

/-- The greatest code that a class can hold. -/
def limit (flags : Flags) : Nat :=
  if flags.unicode then Unicode.maxCode else maxByte

/-- The set under the flag that ignores case. -/
def fold (flags : Flags) (set : CodeSet) : CodeSet :=
  if !flags.caseInsensitive then set
  else if flags.unicode then Unicode.foldCase set
  else foldAscii set

/-- A negated set of bytes, or any set of bytes beyond ASCII, is no set of characters. -/
def allow (target : Target) (flags : Flags) (set : CodeSet) : Option CodeSet :=
  if target == .text && !flags.unicode && !set.isAscii then none else some set

/-- The set, folded and then negated where asked. -/
def foldAndNegate (target : Target) (flags : Flags) (negated : Bool) (set : CodeSet)
    : Option CodeSet :=
  let set := fold flags set
  allow target flags (if negated then set.complement (limit flags) else set)

/-- The code of a letter in a class: a character or, without Unicode, a byte. -/
def letterCode (target : Target) (flags : Flags) (letter : Letter) : Option Nat :=
  let code := letter.char.toNat
  if flags.unicode || code < 0x80 then some code
  else if letter.byte && target == .bytes then some code
  else none

/-- The codes of a shorthand class. -/
def shorthandCodes (flags : Flags) : Shorthand → CodeSet
  | .digit => if flags.unicode then Unicode.digitCodes else [(0x30, 0x39)]
  | .space => if flags.unicode then Unicode.spaceCodes else [(0x09, 0x0D), (0x20, 0x20)]
  | .word =>
    if flags.unicode then Unicode.wordCodes
    else [(0x30, 0x39), (0x41, 0x5A), (0x5F, 0x5F), (0x61, 0x7A)]

mutual

/-- The codes of a class. Case is folded before a class is negated, and both sides of an operation
are folded before it.
-/
def codes (target : Target) (flags : Flags) : ClassTree → Option CodeSet
  | .empty => some []
  | .letter letter => do
    let code ← letterCode target flags letter
    return .interval code code
  | .range first last => do
    return .interval (← letterCode target flags first) (← letterCode target flags last)
  | .posix negated intervals => foldAndNegate target flags negated intervals
  | .property negated name => do
    if flags.unicode then foldAndNegate target flags negated (← Unicode.named? name) else none
  | .valued negated property value => do
    if flags.unicode then foldAndNegate target flags negated (← Unicode.valued? property value)
    else none
  | .shorthand negated kind =>
    let set := shorthandCodes flags kind
    allow target flags (if negated then set.complement (limit flags) else set)
  | .bracketed negated body => do
    foldAndNegate target flags negated (← codes target flags body)
  | .union items => codesOfAll target flags items
  | .operation kind left right => do
    let left := fold flags (← codes target flags left)
    let right := fold flags (← codes target flags right)
    match kind with
    | .intersection => return left.inter (limit flags) right
    | .difference => return left.difference (limit flags) right
    | .symmetricDifference => return left.symmetricDifference (limit flags) right

/-- The codes of some of the classes. -/
def codesOfAll (target : Target) (flags : Flags) : List ClassTree → Option CodeSet
  | [] => some []
  | item :: items => do
    return (← codes target flags item).union (← codesOfAll target flags items)

end

/-- A class as an expression. -/
def ofClass (target : Target) (flags : Flags) (cls : ClassTree) : Option Expr := do
  let set ← codes target flags cls
  return if flags.unicode then .ofChars set else .ofByteSet set

/-- A letter as an expression. -/
def ofLetter (target : Target) (flags : Flags) (letter : Letter) : Option Expr :=
  let code := letter.char.toNat
  if flags.unicode then
    if flags.caseInsensitive && !(Unicode.caseClassOf code).isEmpty then
      some (.ofChars (Unicode.foldCase (.interval code code)))
    else
      some (.literal (Utf8.encodeChar letter.char))
  else if code < 0x80 then
    if flags.caseInsensitive then some (.ofByteSet (foldAscii (.interval code code)))
    else some (.literal [.ofNat code])
  else if letter.byte then
    if target == .text then none else some (.literal [.ofNat code])
  else
    some (.literal (Utf8.encodeChar letter.char))

/-- Any character or byte, but for the ends of lines unless these are asked for. -/
def ofAny (target : Target) (flags : Flags) : Option Expr :=
  if target == .text && !flags.unicode then none
  else
    let excluded :=
      if flags.dotMatchesNewLine then []
      else if flags.crlf then [(0x0A, 0x0A), (0x0D, 0x0D)]
      else [(0x0A, 0x0A)]
    let set := CodeSet.complement (limit flags) excluded
    some (if flags.unicode then .chars set else .bytes set)

/-- An assertion as a condition. -/
def ofAssertion (flags : Flags) : Assertion → Look
  | .startLine =>
    if !flags.multiLine then .start else if flags.crlf then .startLineCrlf else .startLine
  | .endLine =>
    if !flags.multiLine then .finish else if flags.crlf then .finishLineCrlf else .finishLine
  | .startText => .start
  | .endText => .finish
  | .wordBoundary => if flags.unicode then .wordUnicode else .wordAscii
  | .notWordBoundary => if flags.unicode then .notWordUnicode else .notWordAscii
  | .wordStart => if flags.unicode then .wordStartUnicode else .wordStartAscii
  | .wordEnd => if flags.unicode then .wordEndUnicode else .wordEndAscii
  | .wordStartHalf => if flags.unicode then .wordStartHalfUnicode else .wordStartHalfAscii
  | .wordEndHalf => if flags.unicode then .wordEndHalfUnicode else .wordEndHalfAscii

mutual

/-- The expression of a tree and the flags in force after it. Flags that are switched hold up to
the end of the enclosing group, in later branches too.
-/
def ofTree (target : Target) (flags : Flags) : Tree → Option (Expr × Flags)
  | .empty => some (.empty, flags)
  | .flags change => some (.empty, flags.switch change)
  | .letter letter => (ofLetter target flags letter).map (·, flags)
  | .any => (ofAny target flags).map (·, flags)
  | .assertion kind => some (.look (ofAssertion flags kind), flags)
  | .set cls => (ofClass target flags cls).map (·, flags)
  | .repetition min max body => do
    let (body, flags) ← ofTree target flags body
    return (.repeated min max body, flags)
  | .group change captures body => do
    let (body, _) ← ofTree target (flags.switch change) body
    return (if captures then .capture body else body, flags)
  | .concatenation parts => do
    let (parts, flags) ← ofTrees target flags parts
    return (.concatenated parts, flags)
  | .alternation branches => do
    let (branches, flags) ← ofTrees target flags branches
    return (.alternated branches, flags)

/-- The expressions of trees that follow each other. -/
def ofTrees (target : Target) (flags : Flags) : List Tree → Option (List Expr × Flags)
  | [] => some ([], flags)
  | tree :: trees => do
    let (expr, flags) ← ofTree target flags tree
    let (exprs, flags) ← ofTrees target flags trees
    return (expr :: exprs, flags)

end

/-- The expression of a whole pattern. -/
def ofPattern (target : Target) (tree : Tree) : Option Expr :=
  (ofTree target {} tree).map (·.1)

end Meaning

end PatternAudit.Pattern
