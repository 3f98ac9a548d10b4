import PatternAudit.Config.Basic
import PatternAudit.Yaml.Document

/-! Configurations as YAML documents. Every scalar is a string, whatever it looks like, and tags do
not count. Lists may be left out, unknown keys are ignored, and no known key is given twice. Where
a list or a mapping is wanted, an empty plain scalar stands for one without entries.
-/

namespace PatternAudit

namespace Yaml

/-- Reading parts of a document. Following an alias costs one of so many steps. -/
abbrev Reading := StateT Nat Option

/-- The node that is meant by a node, through an alias if it is one. -/
def follow (document : Document) : Node Nat → Reading (Node Nat)
  | .alias number => do
    let steps ← get
    match steps with
    | 0 => failure
    | steps + 1 =>
      set steps
      StateT.lift (document.anchored? number)
  | node => return node

/-- The text of a scalar. -/
def readText (document : Document) (node : Node Nat) : Reading String := do
  match ← follow document node with
  | .scalar _ text _ => return text
  | _ => failure

/-- The items of a sequence. -/
def readItems (document : Document) (node : Node Nat) : Reading (List (Node Nat)) := do
  match ← follow document node with
  | .sequence _ items => return items
  | .scalar _ "" true => return []
  | _ => failure

/-- The entries of a mapping, of which the keys are texts. -/
def readEntries (document : Document) (node : Node Nat) : Reading (List (String × Node Nat)) := do
  match ← follow document node with
  | .mapping _ entries =>
    entries.mapM fun (key, value) => do return (← readText document key, value)
  | .scalar _ "" true => return []
  | _ => failure

/-- The texts in a sequence. -/
def readTexts (document : Document) (node : Node Nat) : Reading (List String) := do
  (← readItems document node).mapM (readText document)

/-- What is read from the value of a known key, which is given at most once. -/
def readField {α : Type} (read : Node Nat → Reading α) (key : String)
    (entries : List (String × Node Nat)) : Reading (Option α) :=
  match entries.filter (·.1 == key) with
  | [] => return none
  | [(_, value)] => return some (← read value)
  | _ => failure

end Yaml

/-- The rule that a node describes. -/
def RuleEntry.readYaml (document : Yaml.Document) (node : Yaml.Node Nat)
    : Yaml.Reading RuleEntry := do
  let entries ← Yaml.readEntries document node
  let some pattern ← Yaml.readField (Yaml.readText document) "pattern" entries | failure
  let expected ← Yaml.readField (Yaml.readTexts document) "expected" entries
  return { pattern, expected := expected.getD [] }

/-- The configuration that a document describes. -/
def Configuration.readYaml (document : Yaml.Document) : Yaml.Reading Configuration := do
  let entries ← Yaml.readEntries document document.root
  let included ← Yaml.readField (Yaml.readTexts document) "include" entries
  let excluded ← Yaml.readField (Yaml.readTexts document) "exclude" entries
  let rules ← Yaml.readField
    (fun node => do (← Yaml.readItems document node).mapM (RuleEntry.readYaml document))
    "rules" entries
  return {
    included := included.getD []
    excluded := excluded.getD []
    rules := rules.getD [] }

/-- The configuration that a document describes, if aliases are not followed too often. -/
def Configuration.ofYaml? (document : Yaml.Document) : Option Configuration :=
  (readYaml document).run' (100 * document.root.eventCount)

end PatternAudit
