/-! YAML nodes. Aliases and anchors carry a reference: at first the name that is written, later the
number of an anchored node.
-/

namespace PatternAudit.Yaml

/-- A node of a document, with the anchor on it, if there is one. -/
inductive Node (ref : Type) where
  /-- A scalar; plain ones are those without quotes and not in a block of their own. -/
  | scalar (anchor : Option ref) (text : String) (plain : Bool)
  | sequence (anchor : Option ref) (items : List (Node ref))
  | mapping (anchor : Option ref) (entries : List (Node ref × Node ref))
  | alias (target : ref)
  deriving Inhabited

namespace Node

variable {ref : Type}

/-- A node that is not written. -/
def empty : Node ref :=
  .scalar none "" true

mutual

/-- How many starts and ends of nodes a document has. -/
def eventCount : Node ref → Nat
  | .scalar .. => 1
  | .alias _ => 1
  | .sequence _ items => 2 + itemEvents items
  | .mapping _ entries => 2 + entryEvents entries

def itemEvents : List (Node ref) → Nat
  | [] => 0
  | item :: items => eventCount item + itemEvents items

def entryEvents : List (Node ref × Node ref) → Nat
  | [] => 0
  | (key, value) :: entries => eventCount key + eventCount value + entryEvents entries

end

/-- A node under its own reference, if it has one. -/
def referenced (anchor : Option ref) (node : Node ref) : List (ref × Node ref) :=
  match anchor with
  | some anchor => [(anchor, node)]
  | none => []

mutual

/-- The anchored nodes in a node, in the order in which they begin. -/
def anchored : Node ref → List (ref × Node ref)
  | .scalar anchor text plain => referenced anchor (.scalar anchor text plain)
  | .alias _ => []
  | .sequence anchor items => referenced anchor (.sequence anchor items) ++ anchoredItems items
  | .mapping anchor entries =>
    referenced anchor (.mapping anchor entries) ++ anchoredEntries entries

def anchoredItems : List (Node ref) → List (ref × Node ref)
  | [] => []
  | item :: items => anchored item ++ anchoredItems items

def anchoredEntries : List (Node ref × Node ref) → List (ref × Node ref)
  | [] => []
  | (key, value) :: entries => anchored key ++ (anchored value ++ anchoredEntries entries)

end

end Node

/-- The numbers that names of anchors stand for. -/
abbrev Numbering := List (String × Nat)

namespace Numbering

/-- Gives the name of an anchor the next number. The next number is how many different names there
are, so a name that is used again has the number of the next new name too.
-/
def number (names : Numbering) : Option String → Numbering × Option Nat
  | none => (names, none)
  | some name =>
    let next := names.length
    ((name, next) :: names.filter (·.1 != name), some next)

end Numbering

namespace Node

mutual

/-- Replaces names by numbers, in the order in which nodes begin. An alias has the number that its
name then stands for.
-/
def resolve (names : Numbering) : Node String → Option (Numbering × Node Nat)
  | .scalar anchor text plain =>
    let (names, anchor) := names.number anchor
    some (names, .scalar anchor text plain)
  | .alias name => (names.lookup name).map fun target => (names, .alias target)
  | .sequence anchor items => do
    let (names, anchor) := names.number anchor
    let (names, items) ← resolveItems names items
    return (names, .sequence anchor items)
  | .mapping anchor entries => do
    let (names, anchor) := names.number anchor
    let (names, entries) ← resolveEntries names entries
    return (names, .mapping anchor entries)

def resolveItems (names : Numbering) : List (Node String) → Option (Numbering × List (Node Nat))
  | [] => some (names, [])
  | item :: items => do
    let (names, item) ← resolve names item
    let (names, items) ← resolveItems names items
    return (names, item :: items)

def resolveEntries (names : Numbering)
    : List (Node String × Node String) → Option (Numbering × List (Node Nat × Node Nat))
  | [] => some (names, [])
  | (key, value) :: entries => do
    let (names, key) ← resolve names key
    let (names, value) ← resolve names value
    let (names, entries) ← resolveEntries names entries
    return (names, (key, value) :: entries)

end

end Node

end PatternAudit.Yaml
