import PatternAudit.Config.Basic
import PatternAudit.Path.KeySet
import PatternAudit.Pattern.Basic

/-! Rules: a configuration whose patterns have become tests. Building is all or nothing, and a
failure names the first pattern that cannot be used: include patterns come first, then exclude
patterns, then those of the rules.
-/

namespace PatternAudit

/-- The lists of a configuration that hold patterns. -/
inductive PatternList where
  | included
  | excluded
  | rules
  deriving DecidableEq, Repr

/-- The name of a list. -/
def PatternList.name : PatternList → String
  | included => "include"
  | excluded => "exclude"
  | rules => "rules"

/-- A pattern that cannot be used, and where it stands. -/
structure PatternError where
  list : PatternList
  index : Nat
  pattern : String
  fault : Pattern.Fault
  deriving DecidableEq, Repr

namespace PatternError

/-- Where the pattern stands, up to the reason. -/
def place (error : PatternError) : String :=
  "invalid pattern `" ++ error.pattern ++ "` at " ++ error.list.name ++ "["
    ++ toString error.index ++ "]: "

/-- The reason. -/
def reason (error : PatternError) : String :=
  match error.fault with
  | .malformed => "regex parse error: the pattern is not well formed"
  | .tooLarge => "Compiled regex exceeds size limit of 10485760 bytes."

/-- The whole message. -/
def message (error : PatternError) : String :=
  error.place ++ error.reason

/-- The name of this kind of error. -/
def code : String := "lidder::invalid_pattern"

/-- Advice that fits every such error. -/
def help : String := "patterns use Rust `regex` syntax; escape literal metacharacters with `\\`"

end PatternError

/-- How patterns become tests: those on paths look at text, those of rules at lines of bytes. -/
structure Engine where
  text : String → Except Pattern.Fault (String → Bool)
  line : String → Except Pattern.Fault (Bytes → Bool)

/-- Patterns as regular expressions. -/
def Engine.standard : Engine where
  text source := (Pattern.compile .text source).map Pattern.occursInText
  line source := (Pattern.compile .bytes source).map Pattern.occursInLine

/-- Which files are in scope, by their keys. -/
structure Scope where
  included : List (String → Bool)
  excluded : List (String → Bool)

/-- A key that an exclude pattern matches is out of scope; any other is in scope if an include
pattern matches it.
-/
def Scope.accepts (scope : Scope) (key : String) : Bool :=
  !scope.excluded.any (· key) && scope.included.any (· key)

/-- A tracked pattern as written, its test of lines, and the keys of the files in which it is
sanctioned.
-/
structure Rule where
  source : String
  occursIn : Bytes → Bool
  expected : KeySet

/-- A scope and the rules in report order. -/
structure Ruleset where
  scope : Scope
  rules : List Rule

namespace Ruleset

/-- The tests of a list of patterns, of which the first has the given index. -/
def compileFrom {α : Type} (list : PatternList) (compile : String → Except Pattern.Fault α)
    : Nat → List String → Except PatternError (List α)
  | _, [] => .ok []
  | index, pattern :: patterns =>
    match compile pattern with
    | .error fault => .error { list, index, pattern, fault }
    | .ok test => (compileFrom list compile (index + 1) patterns).map (test :: ·)

/-- The rule of an entry whose pattern has become a test. -/
def ruleOf (entry : RuleEntry) (occursIn : Bytes → Bool) : Rule where
  source := entry.pattern
  occursIn := occursIn
  expected := .ofList (entry.expected.map Path.textKey)

/-- Makes tests of all patterns of a configuration. -/
def buildWith (engine : Engine) (config : Configuration) : Except PatternError Ruleset := do
  let included ← compileFrom .included engine.text 0 config.included
  let excluded ← compileFrom .excluded engine.text 0 config.excluded
  let tests ← compileFrom .rules engine.line 0 (config.rules.map (·.pattern))
  return { scope := { included, excluded }, rules := List.zipWith ruleOf config.rules tests }

/-- Makes regular expressions of all patterns of a configuration. -/
def build (config : Configuration) : Except PatternError Ruleset :=
  buildWith .standard config

/-- Keeps of every rule's sanctioned files only the target. -/
def narrow (ruleset : Ruleset) (target : String) : Ruleset :=
  let key := Path.textKey target
  { ruleset with
    rules := ruleset.rules.map fun rule =>
      { rule with expected := rule.expected.filter (· == key) } }

end Ruleset

end PatternAudit
