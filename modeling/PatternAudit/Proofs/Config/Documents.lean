import Mathlib
import PatternAudit.Config.Parse
import PatternAudit.Proofs.Config.YamlTrees
import PatternAudit.Proofs.Toml.Refusal

/-! Configurations in either format. A TOML text and a YAML text that say what describes a
configuration are both read as that configuration, and those that say something faulty are both
refused.
-/

namespace PatternAudit.Configuration

open DataTree

/-- A TOML text says a table. -/
def WritesToml (text : String) (entries : List (String × DataTree)) : Prop :=
  Toml.parse? text = some (entriesToToml entries)

/-- A YAML text says a table: it is blank, and the table has no entries, or the root of its document
tells the table through no more aliases than may be followed.
-/
def WritesYaml (text : String) (entries : List (String × DataTree)) : Prop :=
  if text.toList.all Text.isBlank then entries = []
  else
    ∃ document aliases,
      Yaml.Document.parse? text = some document
      ∧ document.Tells document.root (.table entries) aliases
      ∧ aliases ≤ 100 * document.root.eventCount

/-- A table without entries describes the empty configuration only. -/
theorem eq_empty_of_describes {config : Configuration} (describes : Describes [] config)
    : config = {} := by
  obtain ⟨included, excluded, rules⟩ := config
  have texts {key : String} {texts : List String} (gives : GivesTexts key [] texts)
      : texts = [] := by
    rcases gives with once | ⟨_, none⟩
    · cases once
    · exact none
  obtain rfl : included = [] := texts describes.included
  obtain rfl : excluded = [] := texts describes.excluded
  obtain rfl : rules = [] := by
    rcases describes.rules with ⟨_, once, _⟩ | ⟨_, none⟩
    · cases once
    · exact none
  rfl

/-- A table without entries is not faulty. -/
theorem not_faulty_nil : ¬Faulty [] := by
  rintro (⟨key, _, repeated⟩ | ⟨items, given, _⟩)
  · simp [under] at repeated
  · simp [under] at given

section Texts

variable {text : String} {entries : List (String × DataTree)} {config : Configuration}

/-- A TOML text that says what describes a configuration is read as it. -/
theorem parseToml?_of_describes (writes : WritesToml text entries)
    (describes : Describes entries config)
    : parseToml? text = some config := by
  rw [parseToml?, writes]
  exact describes.ofToml

/-- A YAML text that says what describes a configuration is read as it. -/
theorem parseYaml?_of_describes (writes : WritesYaml text entries)
    (describes : Describes entries config)
    : parseYaml? text = some config := by
  unfold WritesYaml at writes
  unfold parseYaml?
  split at writes
  · subst writes
    rw [if_pos ‹_›, eq_empty_of_describes describes]
  · obtain ⟨document, aliases, parsed, tells, enough⟩ := writes
    rw [if_neg ‹_›, parsed]
    exact describes.ofYaml tells enough

/-- A YAML text that says something faulty is refused. -/
theorem parseYaml?_of_faulty (writes : WritesYaml text entries) (faulty : Faulty entries)
    : parseYaml? text = none := by
  unfold WritesYaml at writes
  unfold parseYaml?
  split at writes
  · subst writes
    exact absurd faulty not_faulty_nil
  · obtain ⟨document, aliases, parsed, tells, _⟩ := writes
    rw [if_neg ‹_›, parsed]
    exact faulty.ofYaml tells

/-- A TOML text that says nothing but something faulty is refused. -/
theorem parseToml?_of_faulty
    (writes : ∀ table, Toml.parse? text = some table → table = entriesToToml entries)
    (faulty : Faulty entries)
    : parseToml? text = none := by
  unfold parseToml?
  cases parsed : Toml.parse? text with
  | none => rfl
  | some table =>
      obtain rfl := writes table parsed
      exact faulty.ofToml

/-- A TOML text that gives a key twice is refused. -/
theorem parseToml?_of_repeats {statements : List Toml.Statement} {key : String}
    (read : Toml.Reader.statements? text.toList = some statements)
    (repeats : Toml.Repeats key statements)
    : parseToml? text = none := by
  have refused : Toml.parse? text = none := by
    rw [Toml.parse?, read]
    exact Toml.ofStatements?_of_repeats repeats
  rw [parseToml?, refused]
  rfl

/-- A TOML text with an inline table that gives a key twice is refused. -/
theorem parseToml?_of_repeatsInline {key : String} (repeats : Toml.Reader.RepeatsInline key text)
    : parseToml? text = none := by
  rw [parseToml?, repeats.refused]
  rfl

end Texts

/-- Configurations in two formats. What a table describes is what a TOML text and a YAML text that
say the table are both read as, with the lists as they are written, whatever the order of its keys
and whatever other keys it has. If the table is faulty, both texts are refused; the TOML text may
then also have been refused before. A TOML text is refused before if it gives a key twice: in the
entries and headers of one table, or in an inline table that reading it comes to.
-/
theorem documents_agree (entries : List (String × DataTree))
    : (∀ config,
          Describes entries config
          → (∀ text, WritesToml text entries → parseToml? text = some config)
            ∧ ∀ text, WritesYaml text entries → parseYaml? text = some config)
      ∧ (Faulty entries
          → (∀ text,
                (∀ table, Toml.parse? text = some table → table = entriesToToml entries)
                → parseToml? text = none)
            ∧ ∀ text, WritesYaml text entries → parseYaml? text = none)
      ∧ (∀ key text statements,
          Toml.Reader.statements? text.toList = some statements
          → Toml.Repeats key statements
          → parseToml? text = none)
      ∧ ∀ key text, Toml.Reader.RepeatsInline key text → parseToml? text = none := by
  refine ⟨?_, ?_, ?_, ?_⟩
  · intro config describes
    exact ⟨fun text writes => parseToml?_of_describes writes describes,
      fun text writes => parseYaml?_of_describes writes describes⟩
  · intro faulty
    exact ⟨fun text writes => parseToml?_of_faulty writes faulty,
      fun text writes => parseYaml?_of_faulty writes faulty⟩
  · intro key text statements read repeats
    exact parseToml?_of_repeats read repeats
  · intro key text repeats
    exact parseToml?_of_repeatsInline repeats

/-- A configuration with one rule. -/
def sampleConfiguration : Configuration where
  included := ["x"]
  rules := [{ pattern := "x" }]

/-- A table that describes it, with a key of its own in the rule. -/
def sampleTable : List (String × DataTree) :=
  [
    ("include", .list [.text "x"]),
    ("rules", .list [.table [("note", .text "n"), ("pattern", .text "x")]])
  ]

/-- The table in TOML. -/
def sampleToml : String := "include = ['x']\n[[rules]]\nnote = 'n'\npattern = 'x'\n"

/-- The table in YAML, with an alias for the pattern. -/
def sampleYaml : String := "include: [&x 'x']\nrules:\n- note: n\n  pattern: *x\n"

/-- The rule in YAML. -/
def sampleRule : Yaml.Node Nat :=
  .mapping none
    [
      (.scalar none "note" true, .scalar none "n" true),
      (.scalar none "pattern" true, .alias 0)
    ]

/-- The document in YAML. -/
def sampleDocument : Yaml.Document where
  root :=
    .mapping none
      [
        (.scalar none "include" true, .sequence none [.scalar (some 0) "x" false]),
        (.scalar none "rules" true, .sequence none [sampleRule])
      ]

/-- The document tells the table through its alias. -/
theorem tells_sampleDocument
    : sampleDocument.Tells sampleDocument.root (.table sampleTable) 1 := by
  have rule
      : sampleDocument.Tells sampleRule
          (.table [("note", .text "n"), ("pattern", .text "x")]) 1 := by
    refine .table none
      [
        ⟨.scalar none "note" true, "note", 0, ⟨.scalar none "n" true, .text "n", 0⟩⟩,
        ⟨.scalar none "pattern" true, "pattern", 0, ⟨.alias 0, .text "x", 1⟩⟩
      ] ?_ ?_
    · simp only [List.forall_mem_cons]
      exact ⟨.text none _ _, .text none _ _, List.forall_mem_nil _⟩
    · simp only [List.forall_mem_cons]
      exact ⟨.text none _ _, .reference 0 rfl (.text _ _ _), List.forall_mem_nil _⟩
  have included
      : sampleDocument.Tells (.sequence none [.scalar (some 0) "x" false])
          (.list [.text "x"]) 0 :=
    .list none [⟨.scalar (some 0) "x" false, .text "x", 0⟩]
      (List.forall_mem_singleton.mpr (.text _ _ _))
  have rules
      : sampleDocument.Tells (.sequence none [sampleRule])
          (.list [.table [("note", .text "n"), ("pattern", .text "x")]]) 1 :=
    .list none [⟨sampleRule, _, 1⟩] (List.forall_mem_singleton.mpr rule)
  refine .table none
    [
      ⟨.scalar none "include" true, "include", 0, ⟨_, _, 0⟩⟩,
      ⟨.scalar none "rules" true, "rules", 0, ⟨_, _, 1⟩⟩
    ] ?_ ?_
  · simp only [List.forall_mem_cons]
    exact ⟨.text none _ _, .text none _ _, List.forall_mem_nil _⟩
  · simp only [List.forall_mem_cons]
    exact ⟨included, rules, List.forall_mem_nil _⟩

/-- The array of the rules, and then a header of them as one table. -/
def reopenedToml : String := "[[rules]]\npattern = 'x'\n[rules]\n"

/-- A rule as an inline table with two patterns. -/
def twofoldToml : String := "rules = [\x7bpattern = 'x', pattern = 'y'\x7d]\n"

/-- Reading the rule as an inline table comes to a key given twice. -/
theorem repeatsInline_twofoldToml : Toml.Reader.RepeatsInline "pattern" twofoldToml := by
  have array
      : Toml.Reader.ValueTo 79 "[\x7bpattern = 'x', pattern = 'y'\x7d]\n".toList 78
          "\x7bpattern = 'x', pattern = 'y'\x7d]\n".toList := by
    refine .item (.here ?_ ?_) .here
    · rfl
    · decide
  have given
      : Toml.Reader.key? twofoldToml.toList
        = some ([], "rules", '=' :: " [\x7bpattern = 'x', pattern = 'y'\x7d]\n".toList) := by
    rfl
  have opened
      : Toml.Reader.ComesTo twofoldToml 78 "\x7bpattern = 'x', pattern = 'y'\x7d]\n".toList :=
    .intro rfl (.here rfl (by decide)) (by decide) given array
  exact .intro [] [] [] opened rfl

/-- The two texts say the table and are read as its configuration. A text that gives the rules twice
and one that gives a pattern twice are refused.
-/
theorem documents_agree_sample
    : WritesToml sampleToml sampleTable
      ∧ WritesYaml sampleYaml sampleTable
      ∧ parseToml? sampleToml = some sampleConfiguration
      ∧ parseYaml? sampleYaml = some sampleConfiguration
      ∧ parseToml? reopenedToml = none
      ∧ parseToml? twofoldToml = none := by
  have describes : Describes sampleTable sampleConfiguration :=
    ⟨.inl rfl, .inr ⟨rfl, rfl⟩, .inl ⟨_, rfl, .cons ⟨_, rfl, rfl, .inr ⟨rfl, rfl⟩⟩ .nil⟩⟩
  have inToml : WritesToml sampleToml sampleTable := by
    cbv
  have inYaml : WritesYaml sampleYaml sampleTable := by
    have solid : ¬sampleYaml.toList.all Text.isBlank := by decide
    have parsed : Yaml.Document.parse? sampleYaml = some sampleDocument := by
      cbv
    rw [WritesYaml, if_neg solid]
    exact ⟨sampleDocument, 1, parsed, tells_sampleDocument, by decide⟩
  have reopened
      : Toml.Reader.statements? reopenedToml.toList
        = some [.next [] "rules", .entry [] "pattern" (.string "x"), .table [] "rules"] := by
    cbv
  obtain ⟨read, _, refused, refusedInline⟩ := documents_agree sampleTable
  obtain ⟨readToml, readYaml⟩ := read sampleConfiguration describes
  exact ⟨inToml, inYaml, readToml sampleToml inToml, readYaml sampleYaml inYaml,
    refused _ _ _ reopened (.tables [] [_] []), refusedInline _ _ repeatsInline_twofoldToml⟩

end PatternAudit.Configuration
