/-! Patterns as they are written: a tree of alternatives, concatenations, repetitions, groups and
classes, with the flags that groups switch on and off.
-/

namespace PatternAudit.Pattern

/-- A flag of the pattern language that decides what is matched. -/
inductive Flag where
  | caseInsensitive
  | multiLine
  | dotMatchesNewLine
  | swapGreed
  | unicode
  | crlf
  | ignoreBlanks
  deriving DecidableEq, Repr

/-- Flags that are switched on or off, each at most once. -/
abbrev FlagChange := List (Flag × Bool)

/-- The new value of a flag, if it is switched. -/
def FlagChange.of? (change : FlagChange) (flag : Flag) : Option Bool :=
  (change.find? (·.1 == flag)).map (·.2)

/-- Conditions on a position, by the way they are written. -/
inductive Assertion where
  | startLine
  | endLine
  | startText
  | endText
  | wordBoundary
  | notWordBoundary
  | wordStart
  | wordEnd
  | wordStartHalf
  | wordEndHalf
  deriving DecidableEq, Repr

/-- A character, and whether it was written as two hexadecimal digits and so may be a byte. -/
structure Letter where
  char : Char
  byte : Bool := false
  deriving DecidableEq, Repr

/-- The classes that a single letter after a backslash stands for. -/
inductive Shorthand where
  | digit
  | space
  | word
  deriving DecidableEq, Repr

/-- Operations on classes, next to union. -/
inductive ClassOperation where
  | intersection
  | difference
  | symmetricDifference
  deriving DecidableEq, Repr

/-- A set of characters, as written. -/
inductive ClassTree where
  | empty
  | letter (letter : Letter)
  | range (first last : Letter)
  | posix (negated : Bool) (intervals : List (Nat × Nat))
  | property (negated : Bool) (name : List Char)
  | valued (negated : Bool) (property value : List Char)
  | shorthand (negated : Bool) (kind : Shorthand)
  | bracketed (negated : Bool) (body : ClassTree)
  | union (items : List ClassTree)
  | operation (kind : ClassOperation) (left right : ClassTree)

/-- A pattern, as written. -/
inductive Tree where
  | empty
  | flags (change : FlagChange)
  | letter (letter : Letter)
  | any
  | assertion (kind : Assertion)
  | set (body : ClassTree)
  | repetition (min : Nat) (max : Option Nat) (body : Tree)
  | group (change : FlagChange) (captures : Bool) (body : Tree)
  | alternation (branches : List Tree)
  | concatenation (parts : List Tree)

/-- One item stands for itself. -/
def ClassTree.ofItems : List ClassTree → ClassTree
  | [] => .empty
  | [item] => item
  | items => .union items

/-- One part stands for itself. -/
def Tree.ofParts : List Tree → Tree
  | [] => .empty
  | [part] => part
  | parts => .concatenation parts

/-- One branch stands for itself. -/
def Tree.ofBranches : List Tree → Tree
  | [] => .empty
  | [branch] => branch
  | branches => .alternation branches

mutual

/-- How deeply brackets, unions and operations are nested. -/
def ClassTree.depth : ClassTree → Nat
  | .bracketed _ body => body.depth + 1
  | .union items => ClassTree.depthOfAll items + 1
  | .operation _ left right => max left.depth right.depth + 1
  | .empty | .letter .. | .range .. | .posix .. | .property .. | .valued .. | .shorthand .. => 0

def ClassTree.depthOfAll : List ClassTree → Nat
  | [] => 0
  | item :: items => max item.depth (ClassTree.depthOfAll items)

end

mutual

/-- How deeply the parts of a pattern are nested. Only a bracketed class counts as a level of its
own; the other classes are leaves.
-/
def Tree.depth : Tree → Nat
  | .set body => body.depth
  | .repetition _ _ body => body.depth + 1
  | .group _ _ body => body.depth + 1
  | .alternation branches => Tree.depthOfAll branches + 1
  | .concatenation parts => Tree.depthOfAll parts + 1
  | .empty | .flags _ | .letter _ | .any | .assertion _ => 0

def Tree.depthOfAll : List Tree → Nat
  | [] => 0
  | tree :: trees => max tree.depth (Tree.depthOfAll trees)

end

end PatternAudit.Pattern
