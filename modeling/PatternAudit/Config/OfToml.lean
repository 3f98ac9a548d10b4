import PatternAudit.Config.Basic
import PatternAudit.Toml.Document

/-! Configurations as TOML tables. Lists may be left out, unknown keys are ignored, and no known key
is given twice. A rule may also be written as the array of its pattern and its expected files.
-/

namespace PatternAudit

namespace Toml

/-- What is read from the value of a known key, which is given at most once. -/
def readField? {α : Type} (read : Value → Option α) (key : String)
    (entries : List (String × Value)) : Option (Option α) :=
  match entries.filter (·.1 == key) with
  | [] => some none
  | [(_, value)] => (read value).map some
  | _ => none

/-- The strings under a key; without the key there are none. -/
def stringsAt? (key : String) (entries : List (String × Value)) : Option (List String) := do
  return (← readField? Value.strings? key entries).getD []

end Toml

/-- The rule that a value describes. -/
def RuleEntry.ofToml? : Toml.Value → Option RuleEntry
  | .table entries => do
    let some pattern ← Toml.readField? Toml.Value.string? "pattern" entries | none
    return { pattern, expected := ← Toml.stringsAt? "expected" entries }
  | .array [pattern] => do
    return { pattern := ← pattern.string? }
  | .array (pattern :: expected :: _) => do
    return { pattern := ← pattern.string?, expected := ← expected.strings? }
  | _ => none

/-- The rules in an array. -/
def Configuration.rulesOfArray? (value : Toml.Value) : Option (List RuleEntry) := do
  (← value.array?).mapM RuleEntry.ofToml?

/-- The rules under the key for them; without the key there are none. -/
def Configuration.rulesOfToml? (entries : List (String × Toml.Value))
    : Option (List RuleEntry) := do
  return (← Toml.readField? rulesOfArray? "rules" entries).getD []

/-- The configuration that a table describes. -/
def Configuration.ofToml? (entries : List (String × Toml.Value)) : Option Configuration := do
  return {
    included := ← Toml.stringsAt? "include" entries
    excluded := ← Toml.stringsAt? "exclude" entries
    rules := ← rulesOfToml? entries }

end PatternAudit
