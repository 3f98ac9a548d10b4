import PatternAudit.Pattern.Unicode.Query
import PatternAudit.Text.Utf8

/-! What a pattern matches: expressions over bytes, characters and positions. The functions that
build expressions keep them simple: there are no empty parts, literals that follow each other
are one literal, and alternatives that are single characters are one class.
-/

namespace PatternAudit.Pattern

/-- Conditions on a position between two bytes. -/
inductive Look where
  | start
  | finish
  | startLine
  | finishLine
  | startLineCrlf
  | finishLineCrlf
  | wordAscii
  | notWordAscii
  | wordUnicode
  | notWordUnicode
  | wordStartAscii
  | wordEndAscii
  | wordStartUnicode
  | wordEndUnicode
  | wordStartHalfAscii
  | wordEndHalfAscii
  | wordStartHalfUnicode
  | wordEndHalfUnicode
  deriving DecidableEq, Repr

/-- An expression over byte strings. -/
inductive Expr where
  /-- The empty string. -/
  | empty
  /-- These bytes. -/
  | literal (text : Bytes)
  /-- One character of the set, in UTF-8. -/
  | chars (set : CodeSet)
  /-- One byte of the set. -/
  | bytes (set : CodeSet)
  /-- The empty string at a position that meets the condition. -/
  | look (condition : Look)
  /-- From `min` to `max` times the body, or any number of times from `min` on. -/
  | repetition (min : Nat) (max : Option Nat) (body : Expr)
  /-- The body, as a numbered group. -/
  | capture (body : Expr)
  | concatenation (parts : List Expr)
  | alternation (branches : List Expr)

namespace Expr

/-- Matches nothing at all. -/
def fail : Expr :=
  .bytes []

mutual

/-- Whether an expression matches the empty string only. -/
def onlyEmpty : Expr → Bool
  | .empty => true
  | .look _ => true
  | .literal text => text.isEmpty
  | .chars _ => false
  | .bytes _ => false
  | .repetition _ max body => body.onlyEmpty && max.isSome
  | .capture body => body.onlyEmpty
  | .concatenation parts => allOnlyEmpty parts
  | .alternation branches => allOnlyEmpty branches

def allOnlyEmpty : List Expr → Bool
  | [] => true
  | expr :: exprs => expr.onlyEmpty && allOnlyEmpty exprs

end

mutual

/-- Whether an expression can match the empty string, looking conditions aside. -/
def canBeEmpty : Expr → Bool
  | .empty => true
  | .look _ => true
  | .literal text => text.isEmpty
  | .chars _ => false
  | .bytes _ => false
  | .repetition min _ body => min == 0 || body.canBeEmpty
  | .capture body => body.canBeEmpty
  | .concatenation parts => allCanBeEmpty parts
  | .alternation branches => someCanBeEmpty branches

def allCanBeEmpty : List Expr → Bool
  | [] => true
  | expr :: exprs => expr.canBeEmpty && allCanBeEmpty exprs

def someCanBeEmpty : List Expr → Bool
  | [] => false
  | expr :: exprs => expr.canBeEmpty || someCanBeEmpty exprs

end

/-- One character of a set; a set of one character is a literal. -/
def ofChars (set : CodeSet) : Expr :=
  match set.single? with
  | some code => .literal (Utf8.encodeChar (Char.ofNat code))
  | none => if set.isEmpty then fail else .chars set

/-- One byte of a set; a set of one byte is a literal. -/
def ofByteSet (set : CodeSet) : Expr :=
  match set.single? with
  | some byte => .literal [.ofNat byte]
  | none => .bytes set

/-- A repetition. What matches the empty string only is not repeated. -/
def repeated (min : Nat) (max : Option Nat) (body : Expr) : Expr :=
  let (min, max) :=
    if body.onlyEmpty then (Nat.min min 1, some ((max.map (Nat.min · 1)).getD 1)) else (min, max)
  if min == 0 && max == some 0 then .empty
  else if min == 1 && max == some 1 then body
  else .repetition min max body

/-- The parts of an expression as a part of a concatenation. -/
def flatParts : Expr → List Expr
  | .empty => []
  | .concatenation parts => parts
  | expr => [expr]

/-- Joins literals that follow each other. -/
def joinLiterals : List Expr → List Expr
  | [] => []
  | .literal text :: rest =>
    match joinLiterals rest with
    | .literal more :: rest => .literal (text ++ more) :: rest
    | rest => .literal text :: rest
  | expr :: rest => expr :: joinLiterals rest

/-- A concatenation. -/
def concatenated (parts : List Expr) : Expr :=
  match joinLiterals (parts.flatMap flatParts) with
  | [] => .empty
  | [part] => part
  | parts => .concatenation parts

/-- The branches of an expression as a branch of an alternation. -/
def flatBranches : Expr → List Expr
  | .alternation branches => branches
  | expr => [expr]

/-- The characters that a branch selects, if it is a character or a class of characters. -/
def asChars? : Expr → Option CodeSet
  | .literal text =>
    match Utf8.decode? text with
    | some [char] => some (.interval char.toNat char.toNat)
    | _ => none
  | .chars set => some set
  | .bytes set => if set.isAscii then some set else none
  | _ => none

/-- The bytes that a branch selects, if it is a byte or a class of bytes. -/
def asByteSet? : Expr → Option CodeSet
  | .literal [byte] => some (.interval byte.toNat byte.toNat)
  | .bytes set => some set
  | .chars set => if set.isAscii then some set else none
  | _ => none

/-- An alternation. -/
def alternated (branches : List Expr) : Expr :=
  match branches.flatMap flatBranches with
  | [] => fail
  | [branch] => branch
  | branches =>
    match branches.mapM asChars? with
    | some sets => ofChars (sets.foldl CodeSet.union [])
    | none =>
      match branches.mapM asByteSet? with
      | some sets => ofByteSet (sets.foldl CodeSet.union [])
      | none => .alternation branches

end Expr

end PatternAudit.Pattern
