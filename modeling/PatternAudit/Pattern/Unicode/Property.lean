import PatternAudit.Pattern.CodeSet

/-! Tables of character properties: named sets of characters.
-/

namespace PatternAudit.Pattern.Unicode

/-- A set of characters with its names, in lower case and without blanks, dashes and underscores. -/
structure Property where
  names : List String
  intervals : String

/-- The property with the given names that the characters in the written intervals have. -/
def named (names : List String) (intervals : String) : Property :=
  ⟨names, intervals⟩

/-- The characters that have the property. -/
def Property.codes (property : Property) : CodeSet :=
  .ofHex property.intervals

/-- The property of that name in a table. -/
def find? (table : List Property) (name : String) : Option Property :=
  table.find? fun property => property.names.contains name

end PatternAudit.Pattern.Unicode
