import PatternAudit.Toml.Reader

/-! TOML documents. Statements are carried out in order; a header says to which table the entries
after it belong.
-/

namespace PatternAudit.Toml

/-- The tables so far, and the names of the table that is added to. -/
structure Draft where
  entries : Entries := []
  current : List String := []

/-- Carries out a statement, unless it defines something twice. -/
def Draft.apply? (draft : Draft) : Statement → Option Draft
  | .entry names key value => do
    let entries ← draft.entries.within (Entries.defineDotted key value names) draft.current
    return { draft with entries }
  | .table names key => do
    return { entries := ← draft.entries.within (Entries.openTable key) names
             current := names ++ [key] }
  | .next names key => do
    return { entries := ← draft.entries.within (Entries.openNext key) names
             current := names ++ [key] }

/-- The table that statements describe. -/
def ofStatements? (statements : List Statement) : Option (List (String × Value)) := do
  let draft ← statements.foldlM Draft.apply? {}
  return Item.toValues draft.entries

/-- The table that a text describes. -/
def parse? (text : String) : Option (List (String × Value)) := do
  ofStatements? (← Reader.statements? text.toList)

end PatternAudit.Toml
