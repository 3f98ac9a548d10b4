import PatternAudit.CommandLine.Run
import PatternAudit.Proofs.Audit.Running
import PatternAudit.Proofs.Report.Rendering

/-! How a check ends: without rules to check with, without being able to read what it needs, or
with a report. Which of the three it is decides the status and what is shown.
-/

namespace PatternAudit.CommandLine

-----------------------------------------------------------------------------------------
-- Configurations that are found
-----------------------------------------------------------------------------------------

/-- There is a working directory, a file is chosen, its text can be read and describes a
configuration, and all patterns of that compile to rules.
-/
def Configures (world : Surroundings) (named : Option Bytes) (config : Configuration)
    (ruleset : Ruleset)
    : Prop :=
  world.files.isStanding = true
  ∧ ∃ path text,
      (Source.resolve world named).path? = some path
      ∧ world.files.readText path = .ok text
      ∧ Configuration.parse? (.ofPath path) text = some config
      ∧ Ruleset.build config = .ok ruleset

/-- There are rules to check with. -/
def Configured (world : Surroundings) (named : Option Bytes) : Prop :=
  ∃ config ruleset, Configures world named config ruleset

/-- Two worlds have the same source of a configuration: both have a working directory or none, they
choose the same file, and reading it gives the same text or the same fault.
-/
structure SameSource (world world' : Surroundings) (named named' : Option Bytes) : Prop where
  standing : world.files.isStanding = world'.files.isStanding
  source : Source.resolve world named = Source.resolve world' named'
  text
    : ∀ path,
        (Source.resolve world named).path? = some path
        → world.files.readText path = world'.files.readText path

/-- A configuration is loaded exactly if the file has a text that describes it. -/
theorem Source.load_eq_ok_iff {source : Source} {files : Files.FileSystem}
    {config : Configuration}
    : source.load files = .ok config
      ↔ ∃ path text,
          source.path? = some path
          ∧ files.readText path = .ok text
          ∧ Configuration.parse? (.ofPath path) text = some config := by
  unfold load
  cases chosen : source.path? with
  | none => simp
  | some path =>
      cases read : files.readText path with
      | error fault => simp [loadPath, read]
      | ok text =>
          cases parsed : Configuration.parse? (.ofPath path) text with
          | none => simp [loadPath, read, parsed]
          | some found => simp [loadPath, read, parsed]

/-- In a working directory, a configuration is had by loading the one that is chosen. -/
theorem configuration_of_standing {world : Surroundings}
    (standing : world.files.isStanding = true) (named : Option Bytes)
    : configuration world named
      = ((Source.resolve world named).load world.files).mapError LoadError.failure := by
  simp [configuration, Surroundings.requireDirectory, standing, bind, Except.bind]

/-- Without one, nothing is had. -/
theorem configuration_of_not_standing {world : Surroundings}
    (gone : world.files.isStanding = false) (named : Option Bytes)
    : configuration world named = .error { top := Files.Fault.notFound.message } := by
  simp [configuration, Surroundings.requireDirectory, gone, bind, Except.bind]

/-- A configuration is had exactly if there is a working directory and the chosen file has a text
that describes it.
-/
theorem configuration_eq_ok_iff {world : Surroundings} {named : Option Bytes}
    {config : Configuration}
    : configuration world named = .ok config
      ↔ world.files.isStanding = true
        ∧ ∃ path text,
            (Source.resolve world named).path? = some path
            ∧ world.files.readText path = .ok text
            ∧ Configuration.parse? (.ofPath path) text = some config := by
  cases standing : world.files.isStanding with
  | false => simp [configuration_of_not_standing standing]
  | true =>
      rw [← Source.load_eq_ok_iff, configuration_of_standing standing]
      cases (Source.resolve world named).load world.files <;> simp [Except.mapError]

/-- Rules are had exactly by building them from a configuration that is had. -/
theorem configures_iff {world : Surroundings} {named : Option Bytes} {config : Configuration}
    {ruleset : Ruleset}
    : Configures world named config ruleset
      ↔ configuration world named = .ok config ∧ Ruleset.build config = .ok ruleset := by
  rw [configuration_eq_ok_iff]
  constructor
  · rintro ⟨standing, path, text, chosen, read, parsed, built⟩
    exact ⟨⟨standing, path, text, chosen, read, parsed⟩, built⟩
  · rintro ⟨⟨standing, path, text, chosen, read, parsed⟩, built⟩
    exact ⟨standing, path, text, chosen, read, parsed, built⟩

/-- There is only one set of rules to check with. -/
theorem Configures.unique {world : Surroundings} {named : Option Bytes}
    {config config' : Configuration} {ruleset ruleset' : Ruleset}
    (first : Configures world named config ruleset)
    (second : Configures world named config' ruleset')
    : ruleset = ruleset' := by
  obtain ⟨loaded, built⟩ := configures_iff.mp first
  obtain ⟨loaded', built'⟩ := configures_iff.mp second
  obtain rfl : config = config' := Except.ok.inj (loaded.symm.trans loaded')
  exact Except.ok.inj (built.symm.trans built')

/-- The same source gives the same configuration, or the same failure. -/
theorem SameSource.configuration_eq {world world' : Surroundings} {named named' : Option Bytes}
    (same : SameSource world world' named named')
    : configuration world named = configuration world' named' := by
  have text := same.text
  have required : world.requireDirectory = world'.requireDirectory := by
    rw [Surroundings.requireDirectory, Surroundings.requireDirectory, same.standing]
  unfold configuration Source.load
  rw [← same.source, required]
  cases chosen : (Source.resolve world named).path? with
  | none => rfl
  | some path => simp only [loadPath, text path chosen]

-----------------------------------------------------------------------------------------
-- What commands give
-----------------------------------------------------------------------------------------

/-- With rules to check with, a check is a run of the plan for its target and root. -/
theorem Configures.check_eq {world : Surroundings} {named : Option Bytes}
    {config : Configuration} {ruleset : Ruleset}
    (configures : Configures world named config ruleset) (target : Option Bytes) (root : Bytes)
    : check world named target root
      = (Audit.run ruleset world.files .ascending (Audit.plan ruleset target root)).mapError
          readFailure := by
  obtain ⟨loaded, built⟩ := configures_iff.mp configures
  simp [check, loaded, built, Except.mapError, bind, Except.bind]

/-- Without rules to check with, a check fails in a way that only the configuration decides. -/
theorem check_of_not_configured {world world' : Surroundings} {named named' : Option Bytes}
    (same : configuration world named = configuration world' named')
    (unconfigured : ¬Configured world named)
    : ∃ failure,
        (∀ target root, check world named target root = .error failure)
        ∧ ∀ target root, check world' named' target root = .error failure := by
  unfold check
  rw [← same]
  cases loaded : configuration world named with
  | error failure => exact ⟨failure, fun _ _ => rfl, fun _ _ => rfl⟩
  | ok config =>
      cases built : Ruleset.build config with
      | error error =>
          refine ⟨(patternFailure error).under "Invalid configuration", ?_, ?_⟩ <;>
            simp [bind, Except.bind, Except.mapError, built]
      | ok ruleset =>
          exact absurd ⟨config, ruleset, configures_iff.mpr ⟨loaded, built⟩⟩ unconfigured

/-- The same failure to have a configuration leaves every world without rules. -/
theorem configured_congr {world world' : Surroundings} {named named' : Option Bytes}
    (same : configuration world named = configuration world' named')
    : Configured world named ↔ Configured world' named' := by
  simp only [Configured, configures_iff, same]

/-- Rules are listed exactly if there are rules to check with. -/
theorem exists_listRules_iff {world : Surroundings} {named : Option Bytes}
    : (∃ listing, listRules world named = .ok listing) ↔ Configured world named := by
  simp only [Configured, configures_iff]
  unfold listRules
  cases loaded : configuration world named with
  | error failure => simp [bind, Except.bind]
  | ok config =>
      cases built : Ruleset.build config with
      | error error => simp [bind, Except.bind, Except.mapError, built]
      | ok ruleset => simp [bind, Except.bind, Except.mapError, pure, Except.pure, built]

-----------------------------------------------------------------------------------------
-- Outcomes
-----------------------------------------------------------------------------------------

/-- An outcome shows nothing and tells that the run could not be carried out. -/
structure Outcome.Refuses (outcome : Outcome) : Prop where
  status : outcome.status = 1
  output : outcome.output = ""

/-- An outcome shows a report in a style, and its status tells whether a rule failed. In text and
in compact text, what is shown tells the same.
-/
structure Outcome.Renders (outcome : Outcome) (style : Style) (report : Report) : Prop where
  output : outcome.output = render style report
  passes
    : (∀ rule ∈ report.rules, rule.extra = ∅ ∧ rule.missing = ∅) → outcome.status = 0
  fails
    : ¬(∀ rule ∈ report.rules, rule.extra = ∅ ∧ rule.missing = ∅) → outcome.status = 2
  text : style = .text → (outcome.status = 0 ↔ outcome.output = Report.successLine)
  compact : style = .compact → (outcome.status = 0 ↔ outcome.output = "")
  speaks : outcome.status = 2 → outcome.output ≠ ""

/-- The status of a run with a report is 0 if it passes, and 2 otherwise. -/
theorem statusOf_eq_zero_iff {report : Report} : statusOf report = 0 ↔ report.passed = true := by
  cases passes : report.passed <;> simp [statusOf, passes]

/-- A report of a failed rule says something in every style. -/
theorem render_ne_empty {report : Report} (failed : report.passed ≠ true) (style : Style)
    : render style report ≠ "" := by
  cases style with
  | text => exact report.text_ne_empty
  | json => exact report.jsonText_ne_empty
  | compact => exact fun silent => failed (Report.compactText_eq_empty_iff.mp silent)

/-- The outcome of a run with a report shows that report. -/
theorem renders_of_report (style : Style) (report : Report) (files : Files.FileSystem)
    : Outcome.Renders { status := statusOf report, output := render style report, files } style
        report where
  output := rfl
  passes clean := statusOf_eq_zero_iff.mpr (Report.passed_iff.mpr clean)
  fails dirty := if_neg fun passes => dirty (Report.passed_iff.mp passes)
  text := by
    rintro rfl
    exact statusOf_eq_zero_iff.trans Report.text_eq_successLine_iff.symm
  compact := by
    rintro rfl
    exact statusOf_eq_zero_iff.trans Report.compactText_eq_empty_iff.symm
  speaks failed := by
    refine render_ne_empty (fun passes => ?_) style
    have zero : statusOf report = 0 := statusOf_eq_zero_iff.mpr passes
    exact absurd (zero.symm.trans failed) (by decide)

/-- How a check can end. -/
inductive Ending where
  /-- There are no rules to check with. -/
  | unconfigured
  /-- A directory or file that the run needs cannot be read. -/
  | unreadable
  /-- There is a report. -/
  | reported

/-- An outcome of a check is one of this ending. -/
def EndsIn (world : Surroundings) (named target : Option Bytes) (root : Bytes) (style : Style)
    (outcome : Outcome)
    : Ending → Prop
  | .unconfigured => ¬Configured world named ∧ outcome.Refuses
  | .unreadable =>
    ∃ config ruleset,
      Configures world named config ruleset
      ∧ (¬∃ found,
          (Audit.plan ruleset target root).Scans ruleset.scope.accepts world.files found)
      ∧ outcome.Refuses
  | .reported =>
    ∃ config ruleset found report,
      Configures world named config ruleset
      ∧ (Audit.plan ruleset target root).Scans ruleset.scope.accepts world.files found
      ∧ (Audit.plan ruleset target root).Reports ruleset found report
      ∧ outcome.Renders style report

/-- A check has at most one ending, since the rules to check with are the same. -/
theorem EndsIn.unique {world : Surroundings} {named target : Option Bytes} {root : Bytes}
    {style : Style} {outcome : Outcome} {left right : Ending}
    (first : EndsIn world named target root style outcome left)
    (second : EndsIn world named target root style outcome right)
    : left = right := by
  cases left with
  | unconfigured =>
      cases right with
      | unconfigured => rfl
      | unreadable =>
          obtain ⟨config, ruleset, configures, _⟩ := second
          exact absurd ⟨config, ruleset, configures⟩ first.1
      | reported =>
          obtain ⟨config, ruleset, _, _, configures, _⟩ := second
          exact absurd ⟨config, ruleset, configures⟩ first.1
  | unreadable =>
      obtain ⟨config, ruleset, configures, unreadable, _⟩ := first
      cases right with
      | unconfigured => exact absurd ⟨config, ruleset, configures⟩ second.1
      | unreadable => rfl
      | reported =>
          obtain ⟨_, _, found, _, configures', scans, _⟩ := second
          obtain rfl := configures.unique configures'
          exact absurd ⟨found, scans⟩ unreadable
  | reported =>
      obtain ⟨config, ruleset, found, _, configures, scans, _⟩ := first
      cases right with
      | unconfigured => exact absurd ⟨config, ruleset, configures⟩ second.1
      | unreadable =>
          obtain ⟨_, _, configures', unreadable, _⟩ := second
          obtain rfl := configures.unique configures'
          exact absurd ⟨found, scans⟩ unreadable
      | reported => rfl

section Configured

variable {world : Surroundings} {named : Option Bytes} {config : Configuration}
  {ruleset : Ruleset}

/-- With rules to check with, a check that cannot read what it needs shows nothing. -/
theorem Configures.refuses (configures : Configures world named config ruleset)
    {target : Option Bytes} {root : Bytes}
    (unreadable
      : ¬∃ found,
          (Audit.plan ruleset target root).Scans ruleset.scope.accepts world.files found)
    (style : Style)
    : Outcome.Refuses
        (Invocation.run { config := named, command := .check target root style } world) := by
  have checked := configures.check_eq target root
  cases ran : Audit.run ruleset world.files .ascending (Audit.plan ruleset target root) with
  | error failure =>
      rw [ran] at checked
      simp only [Invocation.run, checked, Except.mapError]
      exact ⟨rfl, rfl⟩
  | ok report => exact absurd (Audit.exists_run_iff.mp ⟨report, ran⟩) unreadable

/-- With rules to check with, a check that can read what it needs shows the report on that. -/
theorem Configures.renders (configures : Configures world named config ruleset)
    {target : Option Bytes} {root : Bytes} {found : List (Bytes × Files.Content)}
    (scans : (Audit.plan ruleset target root).Scans ruleset.scope.accepts world.files found)
    (style : Style)
    : ∃ report,
        (Audit.plan ruleset target root).Reports ruleset found report
        ∧ Outcome.Renders
            (Invocation.run { config := named, command := .check target root style } world) style
            report := by
  obtain ⟨report, ran⟩ := Audit.exists_run scans .ascending
  have checked := configures.check_eq target root
  rw [ran] at checked
  refine ⟨report, Audit.reports_of_run scans ran, ?_⟩
  simp only [Invocation.run, checked, Except.mapError]
  exact renders_of_report style report world.files

end Configured

/-- A check has an ending. -/
theorem exists_endsIn (world : Surroundings) (named target : Option Bytes) (root : Bytes)
    (style : Style)
    : ∃ ending,
        EndsIn world named target root style
          (Invocation.run { config := named, command := .check target root style } world)
          ending := by
  by_cases configured : Configured world named
  · obtain ⟨config, ruleset, configures⟩ := configured
    by_cases readable
        : ∃ found, (Audit.plan ruleset target root).Scans ruleset.scope.accepts world.files found
    · obtain ⟨found, scans⟩ := readable
      obtain ⟨report, reports, renders⟩ := configures.renders scans style
      exact ⟨.reported, config, ruleset, found, report, configures, scans, reports, renders⟩
    · exact ⟨.unreadable, config, ruleset, configures, readable, configures.refuses readable style⟩
  · obtain ⟨failure, fails, _⟩ := check_of_not_configured rfl configured
    refine ⟨.unconfigured, configured, ?_⟩
    simp only [Invocation.run, fails]
    exact ⟨rfl, rfl⟩

/-- No outcome that shows a report shows nothing and tells of a failure. -/
theorem Outcome.Renders.not_refuses {outcome : Outcome} {style : Style} {report : Report}
    (renders : outcome.Renders style report)
    : ¬outcome.Refuses := by
  intro refuses
  by_cases clean : ∀ rule ∈ report.rules, rule.extra = ∅ ∧ rule.missing = ∅
  · cases refuses.status.symm.trans (renders.passes clean)
  · cases refuses.status.symm.trans (renders.fails clean)

/-- Arguments that make sense are carried out. -/
theorem run_of_parse {world : Surroundings} {arguments : List Bytes} {invocation : Invocation}
    (parsed : Arguments.parse world.config arguments = .ok invocation)
    : run world arguments = invocation.run world := by
  simp [run, parsed]

/-- Outcomes of checks. In every world, arguments that ask for a check have exactly one of three
endings. With rules to check with, the check shows nothing but a failure exactly if not all that it
needs can be read, and else the report on what it scans. That there are no rules to check with is,
with its status and everything shown, the same for every check in any world with the same source of
a configuration, whatever the target, the root, the style and the files. Listing the rules succeeds
exactly if there are rules to check with.
-/
theorem check_endings {world : Surroundings} {arguments : List Bytes}
    {named target : Option Bytes} {root : Bytes} {style : Style}
    (parsed
      : Arguments.parse world.config arguments
        = .ok { config := named, command := .check target root style })
    : (∃! ending, EndsIn world named target root style (run world arguments) ending)
      ∧ (∀ config ruleset,
          Configures world named config ruleset
          → ((run world arguments).Refuses
              ↔ ¬∃ found,
                  (Audit.plan ruleset target root).Scans ruleset.scope.accepts world.files found)
            ∧ ∀ found,
                (Audit.plan ruleset target root).Scans ruleset.scope.accepts world.files found
                → ∃ report,
                    (Audit.plan ruleset target root).Reports ruleset found report
                    ∧ (run world arguments).Renders style report)
      ∧ (¬Configured world named
        → ∀ world' arguments' named' target' root' style',
            Arguments.parse world'.config arguments'
              = .ok { config := named', command := .check target' root' style' }
            → SameSource world world' named named'
            → ¬Configured world' named'
              ∧ (run world' arguments').status = (run world arguments).status
              ∧ (run world' arguments').output = (run world arguments).output
              ∧ (run world' arguments').errors = (run world arguments).errors)
      ∧ ∀ listing,
          Arguments.parse world.config listing = .ok { config := named, command := .listRules }
          → ((run world listing).status = 0 ↔ Configured world named) := by
  rw [run_of_parse parsed]
  refine ⟨?_, ?_, ?_, ?_⟩
  · obtain ⟨ending, ends⟩ := exists_endsIn world named target root style
    exact ⟨ending, ends, fun _ other => other.unique ends⟩
  · intro config ruleset configures
    refine ⟨⟨?_, fun unreadable => configures.refuses unreadable style⟩,
      fun found scans => configures.renders scans style⟩
    rintro refuses ⟨found, scans⟩
    obtain ⟨report, _, shown⟩ := configures.renders scans style
    exact shown.not_refuses refuses
  · intro unconfigured world' arguments' named' target' root' style' parsed' sameSource
    have same := sameSource.configuration_eq
    obtain ⟨failure, fails, fails'⟩ := check_of_not_configured same unconfigured
    refine ⟨fun configured => unconfigured ((configured_congr same).mpr configured), ?_⟩
    rw [run_of_parse parsed']
    simp only [Invocation.run, fails, fails', failed, and_self]
  · intro listing parsed'
    rw [run_of_parse parsed', ← exists_listRules_iff]
    cases listed : listRules world named <;> simp [Invocation.run, listed, failed]

/-- The text of a configuration with one rule. -/
def sampleText : String := "include = ['']\n[[rules]]\npattern = 'a'\n"

/-- A directory with a configuration and a file that breaks its rule. -/
def sampleWorld : Surroundings where
  files := {
    root :=
      .directory none
        [
          (Utf8.ofString "lidder.toml", .file (.stream (Utf8.ofString sampleText))),
          ([0x66], .file (.stream [0x61, 0x0A]))
        ] }

/-- The same file in a directory without a configuration. -/
def bareWorld : Surroundings where
  files := { root := .directory none [([0x66], .file (.stream [0x61, 0x0A]))] }

/-- Arguments that are texts. -/
def words (texts : List String) : List Bytes :=
  texts.map Utf8.ofString

/-- With a configuration, a check ends in one way, and rules are listed. One of a root that is not
there shows nothing. Without a configuration, a check of the directory shows what a check of the
file shows.
-/
theorem check_endings_sample
    : (∃! ending,
        EndsIn sampleWorld none none [Path.dot] .compact
          (run sampleWorld (words ["check", "-f", "compact"])) ending)
      ∧ (run sampleWorld (words ["check", "--root", "b"])).Refuses
      ∧ (run sampleWorld (words ["list-rules"])).status = 0
      ∧ ¬Configured bareWorld none
      ∧ (run bareWorld (words ["check", "f"])).errors
        = (run bareWorld (words ["check"])).errors := by
  have described
      : Configuration.parse? .toml sampleText
        = some { included := [""], rules := [{ pattern := "a" }] } := by
    decide +kernel
  obtain ⟨ruleset, built⟩
      : ∃ ruleset,
          Ruleset.build { included := [""], rules := [{ pattern := "a" }] } = .ok ruleset :=
    ⟨_, rfl⟩
  have configures : Configures sampleWorld none _ ruleset :=
    ⟨rfl, Utf8.ofString "/lidder.toml", sampleText, rfl, rfl, described, built⟩
  have unconfigured : ¬Configured bareWorld none := by
    rintro ⟨_, _, _, _, _, chosen, _⟩
    cases chosen
  have compact
      : Arguments.parse sampleWorld.config (words ["check", "-f", "compact"])
        = .ok { config := none, command := .check none [Path.dot] .compact } :=
    rfl
  have elsewhere
      : Arguments.parse sampleWorld.config (words ["check", "--root", "b"])
        = .ok { config := none, command := .check none [0x62] .text } :=
    rfl
  have bare
      : Arguments.parse bareWorld.config (words ["check"])
        = .ok { config := none, command := .check none [Path.dot] .text } :=
    rfl
  obtain ⟨ending, _, _, lists⟩ := check_endings compact
  obtain ⟨_, ends, _⟩ := check_endings elsewhere
  obtain ⟨_, _, fails, _⟩ := check_endings bare
  have unreadable
      : ¬∃ found,
          (Audit.Plan.tree [0x62]).Scans ruleset.scope.accepts sampleWorld.files found := by
    rintro ⟨_, _, started, _⟩
    cases started
  obtain ⟨_, _, _, same⟩ :=
    fails unconfigured bareWorld (words ["check", "f"]) none _ _ _ rfl
      ⟨rfl, rfl, fun _ _ => rfl⟩
  exact ⟨ending, (ends _ ruleset configures).1.mpr unreadable,
    (lists (words ["list-rules"]) rfl).mpr ⟨_, ruleset, configures⟩, unconfigured, same⟩

end PatternAudit.CommandLine
