import PatternAudit.Proofs.CommandLine.Checking

/-! Which configuration counts. There is exactly one source of it, found by a strict precedence, and
nothing but what is tried before it and what it holds decides what is loaded. A source that cannot
be loaded is a failure, whatever comes after it.
-/

namespace PatternAudit.CommandLine

-----------------------------------------------------------------------------------------
-- The precedence
-----------------------------------------------------------------------------------------

/-- The path of the user's own file: in the directory that the environment gives, else in the one
of that name at home.
-/
def Surroundings.ownPath? (world : Surroundings) : Option Bytes :=
  match world.configDirectory, world.home with
  | some directory, _ => some (Path.child directory (Utf8.ofString "config.toml"))
  | none, some home =>
    some (Path.child (Path.child home (Utf8.ofString ".lidder")) (Utf8.ofString "config.toml"))
  | none, none => none

/-- If the environment gives a directory for the user's configuration, it gives it as text. -/
def Surroundings.HasText (world : Surroundings) : Prop :=
  ∀ directory, world.configDirectory = some directory → (Utf8.decode? directory).isSome = true

namespace Source

/-- A source is the one that counts: the file that is named, whether it exists or not; else the
first of the project's files that exists; else the user's own file, if it exists; else none.
-/
inductive IsChosen (world : Surroundings) : Option Bytes → Source → Prop
  | named {path} : IsChosen world (some path) (named path)
  | project {before name after}
    (names
      : ["lidder.toml", ".lidder.toml", "lidder.yaml", ".lidder.yaml"]
        = before ++ name :: after)
    (free : ∀ other ∈ before, world.files.pathExists (world.projectPath other) = false)
    (found : world.files.pathExists (world.projectPath name) = true)
    : IsChosen world none (project (world.projectPath name))
  | global {path}
    (free : ∀ name ∈ projectNames, world.files.pathExists (world.projectPath name) = false)
    (own : world.ownPath? = some path) (found : world.files.pathExists path = true)
    : IsChosen world none (global path)
  | missing
    (free : ∀ name ∈ projectNames, world.files.pathExists (world.projectPath name) = false)
    (absent : ∀ path, world.ownPath? = some path → world.files.pathExists path = false)
    : IsChosen world none missing

/-- The user's own file is where the search for it looks. -/
theorem ownPath?_eq {world : Surroundings} (hasText : world.HasText)
    : world.ownPath?
      = (globalDirectory world).map (Path.child · (Utf8.ofString globalName)) := by
  unfold Surroundings.ownPath? globalDirectory
  cases given : world.configDirectory with
  | none => cases world.home <;> rfl
  | some directory => simp [Option.filter, hasText directory given, globalName]

/-- The source that is resolved is one that counts. -/
theorem isChosen_resolve {world : Surroundings} (hasText : world.HasText)
    (named? : Option Bytes)
    : (resolve world named?).IsChosen world named? := by
  unfold resolve
  cases named? with
  | some path => exact .named
  | none =>
      cases first : (projectNames.map world.projectPath).find? world.files.pathExists with
      | some path =>
          obtain ⟨found, before, after, split, free⟩ := List.find?_eq_some_iff_append.mp first
          obtain ⟨names, rest, names_eq, rfl, restMap⟩ := List.map_eq_append_iff.mp split
          obtain ⟨name, later, rfl, rfl, rfl⟩ := List.map_eq_cons_iff.mp restMap
          refine .project names_eq ?_ found
          simpa using free
      | none =>
          have free
              : ∀ name ∈ projectNames,
                  world.files.pathExists (world.projectPath name) = false := by
            simpa using first
          rw [← ownPath?_eq hasText]
          cases own : world.ownPath? with
          | none => exact .missing free (by simp [own])
          | some path =>
              by_cases found : world.files.pathExists path = true
              · simpa only [if_pos found] using IsChosen.global free own found
              · have absent : world.files.pathExists path = false := Bool.not_eq_true _ ▸ found
                simpa only [if_neg found] using IsChosen.missing free (by simp [own, absent])

/-- The source that counts is resolved. -/
theorem IsChosen.eq_resolve {world : Surroundings} (hasText : world.HasText)
    {named? : Option Bytes} {source : Source} (chosen : source.IsChosen world named?)
    : source = resolve world named? := by
  have passed
      (free : ∀ name ∈ projectNames, world.files.pathExists (world.projectPath name) = false)
      : (projectNames.map world.projectPath).find? world.files.pathExists = none := by
    simpa using free
  cases chosen with
  | named => rfl
  | @project before name after names free found =>
      have first : (projectNames.map world.projectPath).find? world.files.pathExists
          = some (world.projectPath name) := by
        refine List.find?_eq_some_iff_append.mpr
          ⟨found, before.map world.projectPath, after.map world.projectPath, ?_, ?_⟩
        · rw [projectNames, names, List.map_append, List.map_cons]
        · simpa using free
      rw [resolve, first]
  | global free own found =>
      rw [resolve, passed free, ← ownPath?_eq hasText, own]
      simp [found]
  | missing free absent =>
      rw [resolve, passed free, ← ownPath?_eq hasText]
      cases own : world.ownPath? with
      | none => rfl
      | some path => simp [absent path own]

/-- A source that counts without being named exists, if there is one. -/
theorem IsChosen.pathExists {world : Surroundings} {source : Source}
    (chosen : source.IsChosen world none) {path : Bytes} (isPath : source.path? = some path)
    : world.files.pathExists path = true := by
  cases chosen with
  | project names free found | global free own found =>
      obtain rfl := Option.some.inj isPath
      exact found
  | missing free absent => cases isPath

/-- Exactly one source counts. -/
theorem isChosen_iff {world : Surroundings} (hasText : world.HasText) {named? : Option Bytes}
    {source : Source}
    : source.IsChosen world named? ↔ source = resolve world named? :=
  ⟨IsChosen.eq_resolve hasText, fun same => same ▸ isChosen_resolve hasText named?⟩

-----------------------------------------------------------------------------------------
-- File systems that agree on a source
-----------------------------------------------------------------------------------------

/-- The files whose existence is asked for, one after the other, until one of them exists. -/
def tried (world : Surroundings) : Option Bytes → List Bytes
  | some _ => []
  | none => projectNames.map world.projectPath ++ world.ownPath?.toList

/-- Another file system agrees with the one of a world as far as a source: on the working directory,
on the existence of the files that are tried up to that source, and on what reading it gives.
-/
structure AgreesUpTo (world : Surroundings) (named? : Option Bytes) (source : Source)
    (files : Files.FileSystem)
    : Prop where
  workingDirectory : files.workingDirectory = world.files.workingDirectory
  standing : files.isStanding = world.files.isStanding
  existence
    : ∀ before path after,
        tried world named? = before ++ path :: after
        → (∀ chosen, source.path? = some chosen → chosen ∉ before)
        → files.pathExists path = world.files.pathExists path
  content
    : ∀ path, source.path? = some path → files.readBytes path = world.files.readBytes path

namespace AgreesUpTo

variable {world : Surroundings} {named? : Option Bytes} {source : Source}
    {files : Files.FileSystem}

/-- The files of the project have the same paths. -/
theorem projectPath_eq (agrees : AgreesUpTo world named? source files)
    : ({ world with files } : Surroundings).projectPath = world.projectPath := by
  funext name
  simp only [Surroundings.projectPath, agrees.workingDirectory]

/-- The file systems agree on a file that is tried after files that do not exist. -/
theorem existence_of_free (agrees : AgreesUpTo world none source files)
    (chosen : source.IsChosen world none) {before after : List Bytes} {path : Bytes}
    (split : tried world none = before ++ path :: after)
    (free : ∀ other ∈ before, world.files.pathExists other = false)
    : files.pathExists path = world.files.pathExists path := by
  refine agrees.existence before path after split ?_
  intro place isPath earlier
  exact absurd ((chosen.pathExists isPath).symm.trans (free place earlier)) (by decide)

/-- So files that do not exist and are tried first do not exist in the other file system. -/
theorem free (agrees : AgreesUpTo world none source files) (chosen : source.IsChosen world none)
    {before after : List Bytes} (split : tried world none = before ++ after)
    (free : ∀ other ∈ before, world.files.pathExists other = false)
    : ∀ other ∈ before, files.pathExists other = false := by
  intro other member
  obtain ⟨earlier, later, rfl⟩ := List.append_of_mem member
  rw [List.append_assoc, List.cons_append] at split
  have same := agrees.existence_of_free chosen split
    fun first isEarlier => free first (List.mem_append_left _ isEarlier)
  exact same.trans (free other member)

/-- The source that counts in one file system counts in the other. -/
theorem isChosen (agrees : AgreesUpTo world named? source files)
    (chosen : source.IsChosen world named?)
    : source.IsChosen { world with files } named? := by
  have paths := agrees.projectPath_eq
  cases chosen with
  | named => exact .named
  | @project before name after names free found =>
      have isChosen : IsChosen world none (project (world.projectPath name)) :=
        .project names free found
      have split : tried world none
          = before.map world.projectPath
            ++ world.projectPath name
              :: (after.map world.projectPath ++ world.ownPath?.toList) := by
        rw [tried, projectNames, names, List.map_append, List.map_cons, List.append_assoc,
          List.cons_append]
      have nothing : ∀ path ∈ before.map world.projectPath,
          world.files.pathExists path = false :=
        List.forall_mem_map.mpr free
      rw [← paths]
      refine .project names ?_ ?_
      · rw [paths]
        exact List.forall_mem_map.mp (agrees.free isChosen split nothing)
      · rw [paths]
        exact (agrees.existence_of_free isChosen split nothing).trans found
  | @global path free own found =>
      have isChosen : IsChosen world none (global path) := .global free own found
      have split : tried world none = projectNames.map world.projectPath ++ [path] := by
        rw [tried, own, Option.toList_some]
      have nothing : ∀ path ∈ projectNames.map world.projectPath,
          world.files.pathExists path = false :=
        List.forall_mem_map.mpr free
      refine .global ?_ own ?_
      · rw [paths]
        exact List.forall_mem_map.mp (agrees.free isChosen split nothing)
      · exact (agrees.existence_of_free isChosen split nothing).trans found
  | missing free absent =>
      have isChosen : IsChosen world none missing := .missing free absent
      have nothing : ∀ path ∈ tried world none, world.files.pathExists path = false := by
        refine List.forall_mem_append.mpr ⟨List.forall_mem_map.mpr free, ?_⟩
        simpa using absent
      have nothingThere := agrees.free isChosen (List.append_nil _).symm nothing
      obtain ⟨noProject, noOwn⟩ := List.forall_mem_append.mp nothingThere
      refine .missing ?_ ?_
      · rw [paths]
        exact List.forall_mem_map.mp noProject
      · intro path own
        exact noOwn path (Option.mem_toList.mpr own)

/-- What is loaded from the source is the same. -/
theorem load_eq (agrees : AgreesUpTo world named? source files)
    : source.load files = source.load world.files := by
  unfold load
  cases chosen : source.path? with
  | none => rfl
  | some path => simp only [loadPath, Files.FileSystem.readText, agrees.content path chosen]

end AgreesUpTo

end Source

-----------------------------------------------------------------------------------------
-- Commands and their configuration
-----------------------------------------------------------------------------------------

/-- The outcome of a check with a configuration. -/
def checkedWith (config : Configuration) (world : Surroundings) (target : Option Bytes)
    (root : Bytes) (style : Style)
    : Outcome :=
  match Ruleset.build config with
  | .error error => failed world ((patternFailure error).under "Invalid configuration")
  | .ok ruleset =>
    match Audit.run ruleset world.files .ascending (Audit.plan ruleset target root) with
    | .error failure => failed world (readFailure failure)
    | .ok report =>
      { status := statusOf report, output := render style report, files := world.files }

/-- The outcome of listing the rules of a configuration. -/
def listedWith (config : Configuration) (world : Surroundings) : Outcome :=
  match Ruleset.build config with
  | .error error => failed world (patternFailure error)
  | .ok ruleset => { status := 0, output := Listing.text config ruleset, files := world.files }

/-- A check uses the configuration that is had, or fails as having it does. -/
theorem run_check_eq (world : Surroundings) (named target : Option Bytes) (root : Bytes)
    (style : Style)
    : Invocation.run { config := named, command := .check target root style } world
      = match configuration world named with
        | .error failure => failed world failure
        | .ok config => checkedWith config world target root style := by
  simp only [Invocation.run, check, checkedWith]
  cases configuration world named with
  | error failure => rfl
  | ok config =>
      simp only [bind, Except.bind]
      cases Ruleset.build config with
      | error error => rfl
      | ok ruleset =>
          simp only [Except.mapError]
          cases Audit.run ruleset world.files .ascending (Audit.plan ruleset target root) with
          | error failure => rfl
          | ok report => rfl

/-- Listing the rules does too. -/
theorem run_listRules_eq (world : Surroundings) (named : Option Bytes)
    : Invocation.run { config := named, command := .listRules } world
      = match configuration world named with
        | .error failure => failed world failure
        | .ok config => listedWith config world := by
  simp only [Invocation.run, listRules, listedWith]
  cases configuration world named with
  | error failure => rfl
  | ok config =>
      simp only [bind, Except.bind]
      cases Ruleset.build config with
      | error error => rfl
      | ok ruleset => rfl

/-- A source is the only one that counts, and the commands that need a configuration use what is
loaded from it, or fail as loading it does.
-/
structure Source.IsUsed (source : Source) (world : Surroundings) (named : Option Bytes)
    : Prop where
  only : ∀ other : Source, other.IsChosen world named ↔ other = source
  check
    : ∀ arguments target root style,
        Arguments.parse world.config arguments
            = .ok { config := named, command := .check target root style }
        → run world arguments
          = match source.load world.files with
            | .error error => failed world error.failure
            | .ok config => checkedWith config world target root style
  listRules
    : ∀ arguments,
        Arguments.parse world.config arguments = .ok { config := named, command := .listRules }
        → run world arguments
          = match source.load world.files with
            | .error error => failed world error.failure
            | .ok config => listedWith config world

/-- The source that is resolved is used. -/
theorem Source.isUsed_resolve {world : Surroundings} (standing : world.files.isStanding = true)
    (hasText : world.HasText) (named : Option Bytes)
    : (resolve world named).IsUsed world named where
  only _ := isChosen_iff hasText
  check arguments target root style parsed := by
    rw [run_of_parse parsed, run_check_eq, configuration_of_standing standing]
    cases (resolve world named).load world.files <;> rfl
  listRules arguments parsed := by
    rw [run_of_parse parsed, run_listRules_eq, configuration_of_standing standing]
    cases (resolve world named).load world.files <;> rfl

/-- A computation that may fail succeeds if each of its two parts does. -/
theorem bind_eq_ok_iff {ε α β : Type} {first : Except ε α} {next : α → Except ε β}
    {result : β}
    : (first >>= next) = .ok result ↔ ∃ value, first = .ok value ∧ next value = .ok result := by
  cases first <;> simp [bind, Except.bind]

/-- The file that is named is the one after the command, else the one before it, else the one that
the environment names.
-/
theorem config_of_parse {environment : Option Bytes} {arguments : List Bytes}
    {invocation : Invocation} (parsed : Arguments.parse environment arguments = .ok invocation)
    : ∃ before name rest after,
        Arguments.beforeCommand {} none arguments = .ok (before, name, rest)
        ∧ Arguments.afterCommand (Arguments.flagsOf name) {} none false rest = .ok after
        ∧ invocation.config
          = (after.value? .config <|> before.value? .config <|> environment) := by
  rw [Arguments.parse, bind_eq_ok_iff] at parsed
  obtain ⟨⟨before, name, rest⟩, began, parsed⟩ := parsed
  by_cases isHelp : name = "help"
  · simp only [if_pos isHelp] at parsed
    cases parsed
  · simp only [if_neg isHelp, bind_eq_ok_iff] at parsed
    obtain ⟨after, ended, _, _, config, chosen, same⟩ := parsed
    obtain rfl := Except.ok.inj same
    refine ⟨before, name, rest, after, began, ended, ?_⟩
    rw [Arguments.configOf] at chosen
    split at chosen
    · cases chosen
    · exact (Except.ok.inj chosen).symm

/-- The precedence of configurations is strict. The file that is named is the one of an option, else
of the environment. In every world with a working directory there is exactly one source that counts,
and check and list-rules use what is loaded from it: the configuration that its text describes, or
else a failure. In any other file system that agrees with the world's on the existence of the files
tried up to that source, and on what reading it gives, the same source is used and the same is
loaded from it, so that list-rules shows the same.
-/
theorem one_source_used {world : Surroundings} (standing : world.files.isStanding = true)
    (hasText : world.HasText) (named : Option Bytes)
    : (∀ arguments invocation,
        Arguments.parse world.config arguments = .ok invocation
        → ∃ before name rest after,
            Arguments.beforeCommand {} none arguments = .ok (before, name, rest)
            ∧ Arguments.afterCommand (Arguments.flagsOf name) {} none false rest = .ok after
            ∧ invocation.config
              = (after.value? .config <|> before.value? .config <|> world.config))
      ∧ ∃ source : Source,
          source.IsUsed world named
          ∧ (∀ config,
              source.load world.files = .ok config
              ↔ ∃ path text,
                  source.path? = some path
                  ∧ world.files.readText path = .ok text
                  ∧ Configuration.parse? (.ofPath path) text = some config)
          ∧ ∀ files,
              source.AgreesUpTo world named files
              → source.IsUsed { world with files } named
                ∧ source.load files = source.load world.files
                ∧ ∀ arguments,
                    Arguments.parse world.config arguments
                        = .ok { config := named, command := .listRules }
                    → run { world with files } arguments
                      = { run world arguments with files := files } := by
  have used := Source.isUsed_resolve standing hasText named
  refine ⟨fun _ _ => config_of_parse, Source.resolve world named, used,
    fun _ => Source.load_eq_ok_iff, ?_⟩
  intro files agrees
  have usedThere : (Source.resolve world named).IsUsed { world with files } named := by
    have hasTextThere : Surroundings.HasText { world with files } := hasText
    have chosen := agrees.isChosen (Source.isChosen_resolve hasText named)
    rw [chosen.eq_resolve hasTextThere]
    exact Source.isUsed_resolve (agrees.standing.trans standing) hasTextThere named
  refine ⟨usedThere, agrees.load_eq, ?_⟩
  intro arguments parsed
  rw [usedThere.listRules arguments parsed, used.listRules arguments parsed, agrees.load_eq]
  cases (Source.resolve world named).load world.files with
  | error error => rfl
  | ok config =>
      simp only [listedWith]
      cases Ruleset.build config <;> rfl

/-- A configuration with a directory, a link that leads nowhere and a file that is no text under the
names that come after its own.
-/
def crowdedFiles : Files.FileSystem where
  root :=
    .directory none
      [
        (Utf8.ofString "lidder.toml", .file (.stream (Utf8.ofString sampleText))),
        (Utf8.ofString ".lidder.toml", .emptyDirectory),
        (Utf8.ofString "lidder.yaml", .link (Utf8.ofString "nowhere")),
        (Utf8.ofString ".lidder.yaml", .file (.stream [0xFF]))
      ]

/-- A directory under the first name, before a configuration under the second. -/
def blockedWorld : Surroundings where
  files := {
    root :=
      .directory none
        [
          (Utf8.ofString "lidder.toml", .emptyDirectory),
          (Utf8.ofString ".lidder.toml", .file (.stream (Utf8.ofString sampleText)))
        ] }

/-- What comes after the source changes nothing, and does not help if the source cannot be read.
-/
theorem one_source_used_sample
    : run { sampleWorld with files := crowdedFiles } (words ["list-rules"])
        = { run sampleWorld (words ["list-rules"]) with files := crowdedFiles }
      ∧ run blockedWorld (words ["check"])
        = failed blockedWorld
            (LoadError.unreadable (Utf8.ofString "/lidder.toml") .isADirectory).failure := by
  have hasText : sampleWorld.HasText := nofun
  have hasText' : blockedWorld.HasText := nofun
  constructor
  · obtain ⟨_, source, used, _, twoRuns⟩ := @one_source_used sampleWorld rfl hasText none
    obtain rfl : Source.project (Utf8.ofString "/lidder.toml") = source :=
      (used.only _).mp (Source.isChosen_resolve hasText none)
    refine (twoRuns crowdedFiles ⟨rfl, rfl, ?_, ?_⟩).2.2 (words ["list-rules"]) rfl
    · intro before path after split first
      cases before with
      | nil =>
          obtain ⟨rfl, _⟩ := List.cons.inj split
          rfl
      | cons earlier before =>
          obtain ⟨rfl, _⟩ := List.cons.inj split
          exact absurd List.mem_cons_self (first _ rfl)
    · rintro _ ⟨⟩
      rfl
  · obtain ⟨_, source, used, _⟩ := @one_source_used blockedWorld rfl hasText' none
    obtain rfl : Source.project (Utf8.ofString "/lidder.toml") = source :=
      (used.only _).mp (Source.isChosen_resolve hasText' none)
    exact used.check (words ["check"]) none [Path.dot] .text rfl

/-- The sample directory, in an environment that names a configuration file by no bytes at all. -/
def namelessWorld : Surroundings :=
  { sampleWorld with config := some [] }

/-- The sample directory, from a working directory that is gone. -/
def goneWorld : Surroundings where
  files := { sampleWorld.files with workingDirectory := [[0x67]] }

/-- A file may be named and yet not be used. One that is named by no bytes at all does not make the
failure of reading it, but arguments that make no sense; and from a working directory that is gone,
not even the configuration that is named and there is used.
-/
theorem one_source_unused
    : ((Source.named []).load namelessWorld.files = .error (.unreadable [] .notFound)
        ∧ (failed namelessWorld (LoadError.unreadable [] .notFound).failure).status = 1
        ∧ (run namelessWorld (words ["list-rules"])).status = 2)
      ∧ (∃ config,
          (Source.named (Utf8.ofString "/lidder.toml")).load goneWorld.files = .ok config)
      ∧ run goneWorld (words ["list-rules", "--config", "/lidder.toml"])
        = failed goneWorld { top := "No such file or directory (os error 2)" } := by
  have described
      : Configuration.parse? .toml sampleText
        = some { included := [""], rules := [{ pattern := "a" }] } := by
    decide +kernel
  have loads
      : (Source.named (Utf8.ofString "/lidder.toml")).load goneWorld.files
        = .ok { included := [""], rules := [{ pattern := "a" }] } :=
    Source.load_eq_ok_iff.mpr ⟨Utf8.ofString "/lidder.toml", sampleText, rfl, rfl, described⟩
  exact ⟨⟨rfl, rfl, rfl⟩, ⟨_, loads⟩, rfl⟩

end PatternAudit.CommandLine
