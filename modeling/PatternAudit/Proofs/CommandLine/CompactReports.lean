import PatternAudit.Proofs.CommandLine.Checking
import PatternAudit.Proofs.Lines.Counting
import PatternAudit.Proofs.Text.Ordering

/-! What a check shows as compact text: one entry after the other, each ended by a newline. The
entries are the lines of the text as long as no path and no pattern brings a newline of its own.
-/

namespace PatternAudit

namespace Report

/-- A rule and a path that is extra or missing for it, as compact text names them. -/
structure Entry where
  pattern : String
  kind : String
  path : String
  deriving DecidableEq

namespace Entry

/-- The line of an entry, without what ends it. -/
def line (entry : Entry) : String :=
  entry.path ++ ": " ++ entry.kind ++ " '" ++ entry.pattern ++ "'"

/-- How many newlines the path and the pattern bring into the line. -/
def newlines (entry : Entry) : Nat :=
  entry.path.toList.count '\n' + entry.pattern.toList.count '\n'

end Entry

/-- The entries of a rule's outcome: its extra paths, then its missing ones. -/
def entriesOf (mode : Mode) (rule : RuleReport) : List Entry :=
  rule.extra.toList.map (Entry.mk rule.pattern "unexpected")
    ++ rule.missing.toList.map (Entry.mk rule.pattern (missingKind mode))

/-- The entries of a report, in the order of the rules. -/
def entries (report : Report) : List Entry :=
  report.rules.flatMap (entriesOf report.mode)

-----------------------------------------------------------------------------------------
-- Entries and what is written of them
-----------------------------------------------------------------------------------------

/-- There is an entry for each extra and each missing path of each rule. -/
theorem length_entries (report : Report)
    : report.entries.length
      = (report.rules.map fun rule =>
          rule.extra.toList.length + rule.missing.toList.length).sum := by
  simp [entries, entriesOf, List.length_flatMap]

/-- The line of a mismatch is that of its entry, ended by a newline. -/
theorem line_append_newline (pattern kind path : String)
    : (Entry.mk pattern kind path).line ++ "\n" = mismatchLine kind pattern path := by
  simp [Entry.line, mismatchLine, String.append_assoc]

/-- The lines of a rule's mismatches are its entries, each ended by a newline. -/
theorem mismatchLines_eq (mode : Mode) (rule : RuleReport)
    : mismatchLines mode rule = (entriesOf mode rule).map fun entry => entry.line ++ "\n" := by
  simp only [mismatchLines, entriesOf, List.map_append, List.map_map, Function.comp_def,
    line_append_newline]

/-- A rule that passed has no entry. -/
theorem entriesOf_eq_nil_of_passed {mode : Mode} {rule : RuleReport} (passed : rule.passed = true)
    : entriesOf mode rule = [] := by
  simp only [RuleReport.passed, Mismatches.isEmpty, KeySet.isEmpty, Bool.and_eq_true,
    List.isEmpty_iff] at passed
  simp [entriesOf, passed]

/-- Rules that passed may be left out of the entries, by induction on the rules. -/
theorem flatMap_entriesOf_failing (mode : Mode) (rules : List RuleReport)
    : (rules.filter (!·.passed)).flatMap (entriesOf mode) = rules.flatMap (entriesOf mode) := by
  induction rules with
  | nil => rfl
  | cons rule rules ih =>
      rw [List.flatMap_cons, ← ih]
      cases passed : rule.passed with
      | true => simp [passed, entriesOf_eq_nil_of_passed passed]
      | false => simp [passed]

/-- Compact text is the entries, each ended by a newline. -/
theorem compactText_eq (report : Report)
    : report.compactText = String.join (report.entries.map fun entry => entry.line ++ "\n") := by
  rw [compactText, failing, entries, ← flatMap_entriesOf_failing, List.map_flatMap]
  congr 1
  exact List.flatMap_congr fun rule _ => mismatchLines_eq report.mode rule

/-- The bytes of compact text are the written lines of its entries. -/
theorem ofString_compactText (report : Report)
    : Utf8.ofString report.compactText
      = Lines.unlines (report.entries.map fun entry => Utf8.ofString entry.line) := by
  rw [compactText_eq, Utf8.ofString, String.toList_join, Lines.unlines]
  simp only [List.flatMap_map, Utf8.encode, Utf8.ofString, List.flatMap_assoc,
    String.toList_append, List.flatMap_append]
  rfl

/-- What is said of missing paths has no newline in it. -/
theorem count_newline_missingKind (mode : Mode)
    : (missingKind mode).toList.count '\n' = 0 := by
  cases mode <;> decide

/-- No kind of entry has a newline in its name. -/
theorem count_newline_kind {report : Report} {entry : Entry} (member : entry ∈ report.entries)
    : entry.kind.toList.count '\n' = 0 := by
  obtain ⟨rule, _, inRule⟩ := List.mem_flatMap.mp member
  rcases List.mem_append.mp inRule with extra | missing
  · obtain ⟨path, _, rfl⟩ := List.mem_map.mp extra
    change "unexpected".toList.count '\n' = 0
    decide
  · obtain ⟨path, _, rfl⟩ := List.mem_map.mp missing
    exact count_newline_missingKind report.mode

/-- The newlines in the line of an entry are those of its path and of its pattern. -/
theorem count_newline_line {report : Report} {entry : Entry} (member : entry ∈ report.entries)
    : (Utf8.ofString entry.line).count Lines.newline = entry.newlines := by
  rw [Lines.count_newline_ofString, Entry.line, Entry.newlines]
  simp [count_newline_kind member]

/-- No newline is brought exactly if none is in the path and none in the pattern. -/
theorem Entry.newlines_eq_zero_iff {entry : Entry}
    : entry.newlines = 0 ↔ '\n' ∉ entry.path.toList ∧ '\n' ∉ entry.pattern.toList := by
  rw [newlines, Nat.add_eq_zero_iff, List.count_eq_zero, List.count_eq_zero]

/-- Compact text has as many lines as entries, and one more for each newline in a path or a
pattern.
-/
theorem length_pieces_compactText (report : Report)
    : (Lines.pieces (Utf8.ofString report.compactText)).length
      = report.entries.length + (report.entries.map Entry.newlines).sum := by
  have counts
      : report.entries.map (fun entry => (Utf8.ofString entry.line).count Lines.newline)
        = report.entries.map Entry.newlines :=
    List.map_congr_left fun _ => count_newline_line
  rw [ofString_compactText, Lines.length_pieces (Lines.closed_unlines _), Lines.count_unlines,
    List.length_map, List.map_map, Function.comp_def, counts]

/-- The lines of compact text are its entries exactly if no path and no pattern of them has a
newline.
-/
theorem pieces_compactText_iff (report : Report)
    : Lines.pieces (Utf8.ofString report.compactText)
        = report.entries.map (fun entry => Utf8.ofString entry.line ++ [Lines.newline])
      ↔ ∀ entry ∈ report.entries, '\n' ∉ entry.path.toList ∧ '\n' ∉ entry.pattern.toList := by
  have written :=
    Lines.pieces_unlines_iff (report.entries.map fun entry => Utf8.ofString entry.line)
  rw [List.map_map, Function.comp_def, List.forall_mem_map] at written
  rw [ofString_compactText, written]
  refine forall₂_congr fun entry member => ?_
  rw [← List.count_eq_zero, count_newline_line member, Entry.newlines_eq_zero_iff]

end Report

namespace CommandLine

-----------------------------------------------------------------------------------------
-- Checks that show compact text
-----------------------------------------------------------------------------------------

/-- The output of a check in compact style. It is an entry for each extra and each missing path of
each rule, in the order of the rules, extra paths first and both in ascending order of their bytes,
with a newline after each. Who reads it by lines gets as many lines as entries and one more for
each newline in a path or a pattern, so the lines are the entries exactly if there is none.
-/
theorem compact_lines {world : Surroundings} {arguments : List Bytes}
    {named target : Option Bytes} {root : Bytes} {report : Report}
    (parsed
      : Arguments.parse world.config arguments
        = .ok { config := named, command := .check target root .compact })
    (checked : check world named target root = .ok report)
    : let output := Utf8.ofString (run world arguments).output
      output = Lines.unlines (report.entries.map fun entry => Utf8.ofString entry.line)
      ∧ report.entries.length
        = (report.rules.map fun rule =>
            rule.extra.toList.length + rule.missing.toList.length).sum
      ∧ (∀ rule ∈ report.rules,
          (rule.extra.toList.map Utf8.ofString).Pairwise (· < ·)
          ∧ (rule.missing.toList.map Utf8.ofString).Pairwise (· < ·))
      ∧ (Lines.pieces output).length
        = report.entries.length + (report.entries.map Report.Entry.newlines).sum
      ∧ (Lines.pieces output
          = report.entries.map (fun entry => Utf8.ofString entry.line ++ [Lines.newline])
        ↔ ∀ entry ∈ report.entries,
            '\n' ∉ entry.path.toList ∧ '\n' ∉ entry.pattern.toList) := by
  have shown : (run world arguments).output = report.compactText := by
    rw [run_of_parse parsed]
    simp only [Invocation.run, checked, render]
  have ascending (keys : KeySet) : (keys.toList.map Utf8.ofString).Pairwise (· < ·) :=
    List.pairwise_map.mpr (keys.ascending.imp Utf8.ofString_lt_ofString)
  rw [shown]
  refine ⟨report.ofString_compactText, report.length_entries, ?_,
    report.length_pieces_compactText, report.pieces_compactText_iff⟩
  intro rule _
  exact ⟨ascending rule.extra, ascending rule.missing⟩

/-- The sample directory with another file, whose name has a newline in it. -/
def newlineWorld : Surroundings where
  files := {
    root :=
      .directory none
        [
          (Utf8.ofString "lidder.toml", .file (.stream (Utf8.ofString sampleText))),
          (Utf8.ofString "b\nc", .file (.stream [0x61, 0x0A])),
          ([0x66], .file (.stream [0x61, 0x0A]))
        ] }

/-- A file that breaks the only rule, alone. -/
def singleReport (path : String) : Report where
  mode := .singleFile
  rules := [{ pattern := "a", extra := .ofList [path], missing := ∅ }]
  filesChecked := 1

/-- Checks of the two files of that directory give a report of one mismatch each. -/
theorem checks_newlineWorld
    : check newlineWorld none (some [0x66]) [Path.dot] = .ok (singleReport "f")
      ∧ check newlineWorld none (some (Utf8.ofString "b\nc")) [Path.dot]
        = .ok (singleReport "b\nc") := by
  have described
      : Configuration.parse? .toml sampleText
        = some { included := [""], rules := [{ pattern := "a" }] } := by
    decide +kernel
  obtain ⟨ruleset, built, plain, broken⟩
      : ∃ ruleset,
          Ruleset.build { included := [""], rules := [{ pattern := "a" }] } = .ok ruleset
          ∧ Audit.run ruleset newlineWorld.files .ascending
              (Audit.plan ruleset (some [0x66]) [Path.dot])
            = .ok (singleReport "f")
          ∧ Audit.run ruleset newlineWorld.files .ascending
              (Audit.plan ruleset (some (Utf8.ofString "b\nc")) [Path.dot])
            = .ok (singleReport "b\nc") :=
    ⟨_, rfl, rfl, rfl⟩
  have configures : Configures newlineWorld none _ ruleset :=
    ⟨rfl, Utf8.ofString "/lidder.toml", sampleText, rfl, rfl, described, built⟩
  refine ⟨?_, ?_⟩
  · rw [configures.check_eq, plain]
    rfl
  · rw [configures.check_eq, broken]
    rfl

/-- The file with a plain name is shown in a line of its own. -/
theorem compact_lines_sample
    : check newlineWorld none (some [0x66]) [Path.dot] = .ok (singleReport "f")
      ∧ Lines.pieces
          (Utf8.ofString (run newlineWorld (words ["check", "-f", "compact", "f"])).output)
        = [Utf8.ofString "f: unexpected 'a'" ++ [Lines.newline]] := by
  have checked := checks_newlineWorld.1
  obtain ⟨_, _, _, _, lines⟩ :=
    compact_lines
      (rfl
        : Arguments.parse newlineWorld.config (words ["check", "-f", "compact", "f"])
          = .ok { config := none, command := .check (some [0x66]) [Path.dot] .compact })
      checked
  exact ⟨checked, lines.mpr (by decide)⟩

/-- The file with a newline in its name is one mismatch and is shown in two lines. -/
theorem compact_line_breaks
    : check newlineWorld none (some (Utf8.ofString "b\nc")) [Path.dot]
        = .ok (singleReport "b\nc")
      ∧ (singleReport "b\nc").entries.length = 1
      ∧ Lines.pieces
          (Utf8.ofString (run newlineWorld (words ["check", "-f", "compact", "b\nc"])).output)
        = [Utf8.ofString "b\n", Utf8.ofString "c: unexpected 'a'\n"] := by
  have checked := checks_newlineWorld.2
  have parsed
      : Arguments.parse newlineWorld.config (words ["check", "-f", "compact", "b\nc"])
        = .ok {
            config := none
            command := .check (some (Utf8.ofString "b\nc")) [Path.dot] .compact } :=
    rfl
  refine ⟨checked, rfl, ?_⟩
  rw [run_of_parse parsed]
  simp only [Invocation.run, checked]
  rfl

end CommandLine

end PatternAudit
