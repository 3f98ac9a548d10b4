import PatternAudit.Pattern.Unicode.Age
import PatternAudit.Pattern.Unicode.Binary
import PatternAudit.Pattern.Unicode.GeneralCategory
import PatternAudit.Pattern.Unicode.Script
import PatternAudit.Pattern.Unicode.ScriptExtension
import PatternAudit.Pattern.Unicode.Segmentation

/-! Sets of characters by the name of a property, or by the names of a property and of one of
its values. Names are compared loosely.
-/

namespace PatternAudit.Pattern.Unicode

/-- The greatest code of a character. -/
def maxCode : Nat := 0x10FFFF

/-- A name without what loose comparison ignores: a leading `is`, the case of letters, blanks,
dashes, underscores and everything beyond ASCII. The name `isc` is left alone.
-/
def looseName (name : List Char) : String :=
  let lower := name.map Char.toLower
  let stem := if lower.take 2 == ['i', 's'] then lower.drop 2 else lower
  let kept := stem.filter fun char =>
    char.toNat < 0x80 && !(char == ' ' || char == '-' || char == '_')
  if stem.length < lower.length && kept == ['c'] then "isc" else .ofList kept

/-- The characters of the category with that short name. -/
def categoryCodes (name : String) : CodeSet :=
  match find? categories name with
  | some category => category.codes
  | none => []

/-- Categories that are unions of others. -/
def categoryGroups : List (List String × List String) := [
  (["lc", "casedletter"], ["lu", "ll", "lt"]),
  (["l", "letter"], ["lu", "ll", "lt", "lm", "lo"]),
  (["m", "mark", "combiningmark"], ["mn", "mc", "me"]),
  (["n", "number"], ["nd", "nl", "no"]),
  (["p", "punctuation", "punct"], ["pc", "pd", "ps", "pe", "pi", "pf", "po"]),
  (["s", "symbol"], ["sm", "sc", "sk", "so"]),
  (["z", "separator"], ["zs", "zl", "zp"]),
  (["c", "other"], ["cc", "cf", "co", "cn"])]

/-- The union of some categories. -/
def categoriesCodes (names : List String) : CodeSet :=
  names.foldl (fun set name => set.union (categoryCodes name)) []

/-- The characters of a general category. -/
def categoryNamed? (name : String) : Option CodeSet :=
  if name == "any" then some (.interval 0 maxCode)
  else if name == "ascii" then some (.interval 0 0x7F)
  else if name == "assigned" then some ((categoryCodes "cn").complement maxCode)
  else
    match categoryGroups.find? fun group => group.1.contains name with
    | some group => some (categoriesCodes group.2)
    | none => (find? categories name).map (·.codes)

/-- The characters of a script. -/
def scriptNamed? (name : String) : Option CodeSet :=
  (find? scripts name).map (·.codes)

/-- The characters that are used with a script. -/
def extendedScriptNamed? (name : String) : Option CodeSet :=
  match find? extendedScripts name with
  | some property => some property.codes
  | none => scriptNamed? name

/-- The characters that some version of the standard has. -/
def ageNamed? (name : String) : Option CodeSet :=
  match versions.findIdx? fun version => version.names.contains name with
  | some index =>
    some ((versions.take (index + 1)).foldl (fun set version => set.union version.codes) [])
  | none => none

/-- The characters that a single name selects: those with a binary property, those of a category
or those of a script.
-/
def named? (name : List Char) : Option CodeSet :=
  let name := looseName name
  match find? binaryProperties name with
  | some property => some property.codes
  | none =>
    match categoryNamed? name with
    | some set => some set
    | none => scriptNamed? name

/-- The characters for which a property has a value. -/
def valued? (property value : List Char) : Option CodeSet :=
  let value := looseName value
  let among (table : List Property) := (find? table value).map (·.codes)
  match looseName property with
  | "gc" | "generalcategory" => categoryNamed? value
  | "sc" | "script" => scriptNamed? value
  | "scx" | "scriptextensions" => extendedScriptNamed? value
  | "age" => ageNamed? value
  | "gcb" | "graphemeclusterbreak" => among graphemeBreaks
  | "wb" | "wordbreak" => among wordBreaks
  | "sb" | "sentencebreak" => among sentenceBreaks
  | _ => none

/-- The characters of a binary property. -/
def binaryCodes (name : String) : CodeSet :=
  match find? binaryProperties name with
  | some property => property.codes
  | none => []

/-- Decimal digits. -/
def digitCodes : CodeSet :=
  categoryCodes "nd"

/-- White space. -/
def spaceCodes : CodeSet :=
  binaryCodes "whitespace"

/-- Characters of words: letters, marks, decimal digits, connectors and joiners. -/
def wordCodes : CodeSet :=
  (binaryCodes "alphabetic").union
    ((categoriesCodes ["mn", "mc", "me", "nd", "pc"]).union (binaryCodes "joincontrol"))

/-- Letters in the wide sense. -/
def alphabeticCodes : CodeSet :=
  binaryCodes "alphabetic"

/-- Numbers of any kind. -/
def numericCodes : CodeSet :=
  categoriesCodes ["nd", "nl", "no"]

end PatternAudit.Pattern.Unicode
