import PatternAudit.Path.Basic

/-! Configurations: which files are scanned, and which files may hold each tracked pattern.
-/

namespace PatternAudit

/-- One tracked pattern and the files in which it is sanctioned, as written. -/
structure RuleEntry where
  pattern : String
  expected : List String := []
  deriving DecidableEq, Repr

/-- Path patterns that select and reject files, and the tracked patterns in report order. -/
structure Configuration where
  included : List String := []
  excluded : List String := []
  rules : List RuleEntry := []
  deriving DecidableEq, Repr

/-- The document formats of configuration files. -/
inductive Format where
  | toml
  | yaml
  deriving DecidableEq, Repr

namespace Format

/-- Whether a byte is a letter, in either case, of which the lower case is given. -/
def isLetter (lower byte : UInt8) : Bool :=
  byte == lower || byte + 0x20 == lower

/-- Whether a name spells a lower-case word in any letter case. -/
def spells (word : String) (name : Bytes) : Bool :=
  let letters := Utf8.ofString word
  letters.length == name.length && (letters.zip name).all fun (lower, byte) => isLetter lower byte

/-- The extensions `yaml` and `yml` announce YAML, and everything else is TOML. -/
def ofPath (path : Bytes) : Format :=
  match Path.extension? path with
  | some extension =>
    if spells "yaml" extension || spells "yml" extension then .yaml else .toml
  | none => .toml

end Format

end PatternAudit
