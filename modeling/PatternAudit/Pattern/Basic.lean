import PatternAudit.Pattern.Matching
import PatternAudit.Pattern.Meaning
import PatternAudit.Pattern.Reader
import PatternAudit.Pattern.Weight

/-! Patterns: regular expressions that are searched for in texts or in lines of bytes.
-/

namespace PatternAudit.Pattern

/-- Why a pattern cannot be used. -/
inductive Fault where
  /-- It is not well formed, or could match what is not UTF-8 where text is wanted. -/
  | malformed
  /-- Its automata are too large. -/
  | tooLarge
  deriving DecidableEq, Repr

/-- The expression of a pattern. -/
def compile (target : Target) (source : String) : Except Fault Expr :=
  match (Reader.parse? source.toList).bind (Meaning.ofPattern target) with
  | none => .error .malformed
  | some expr => if expr.isSmall then .ok expr else .error .tooLarge

/-- Whether an expression occurs in a text. Matches begin between characters. -/
def occursInText (expr : Expr) (text : String) : Bool :=
  let haystack : Haystack := (Utf8.ofString text).toArray
  expr.matchesFrom haystack.isBoundary haystack

/-- Whether an expression occurs in a line of bytes. -/
def occursInLine (expr : Expr) (line : Bytes) : Bool :=
  expr.matchesFrom (fun _ => true) line.toArray

end PatternAudit.Pattern
