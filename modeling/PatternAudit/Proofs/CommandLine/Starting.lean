import PatternAudit.Proofs.CommandLine.Checking
import PatternAudit.Proofs.Files.Writing

/-! Starting a project. After a first configuration was written, the working directory has a file
of the project, and the first of the project's names under which there is one is what is read. That
is the file just written, unless a name that comes before it was in use already.
-/

namespace PatternAudit.CommandLine

-----------------------------------------------------------------------------------------
-- Names in use
-----------------------------------------------------------------------------------------

/-- A name of the project is in use once the first configuration of a format is written: something
is under it, or it is a link to the place where that configuration comes to stand.
-/
def Surroundings.InUse (world : Surroundings) (format : Format) (name : String) : Prop :=
  world.files.pathExists (world.projectPath name) = true
  ∨ ∃ place,
      world.files.resolve .target (world.projectPath (Template.name format))
        = .ok (.absent place)
      ∧ world.files.resolve .target (world.projectPath name) = .ok (.absent place)

/-- Of names with one in use among them, one is the first in use. -/
theorem Surroundings.exists_first_inUse {world : Surroundings} {format : Format}
    {names : List String} (used : ∃ name ∈ names, world.InUse format name)
    : ∃ before name later,
        names = before ++ name :: later
        ∧ (∀ other ∈ before, ¬world.InUse format other)
        ∧ world.InUse format name := by
  classical
  have found : (names.find? fun name => world.InUse format name).isSome :=
    List.find?_isSome.mpr (by simpa using used)
  obtain ⟨name, first⟩ := Option.isSome_iff_exists.mp found
  obtain ⟨used, before, later, split, unused⟩ := List.find?_eq_some_iff_append.mp first
  exact ⟨before, name, later, split, by simpa using unused, by simpa using used⟩

/-- The names of a project that are tried before the one of a format. -/
def Source.earlierNames (format : Format) : List String :=
  projectNames.takeWhile (· != Template.name format)

/-- The names of a project, around the one of a format. -/
theorem Source.projectNames_eq (format : Format)
    : ∃ later, projectNames = earlierNames format ++ Template.name format :: later := by
  cases format
  · exact ⟨_, rfl⟩
  · exact ⟨_, rfl⟩

/-- The names that are tried before one are not that one. -/
theorem Source.projectPath_ne {format : Format} {name : String}
    (earlier : name ∈ earlierNames format) (world : Surroundings)
    : world.projectPath name ≠ world.projectPath (Template.name format) := by
  intro same
  have bytes : Utf8.ofString name = Utf8.ofString (Template.name format) :=
    Path.child_injective _ same
  cases format with
  | toml => cases earlier
  | yaml =>
      have candidates : name = "lidder.toml" ∨ name = ".lidder.toml" := by
        simpa [earlierNames, projectNames, Template.name] using earlier
      rcases candidates with rfl | rfl <;> revert bytes <;> decide

-----------------------------------------------------------------------------------------
-- The choice afterwards
-----------------------------------------------------------------------------------------

/-- What writing the first configuration comes to. Without a working directory, or with a file that
is there and is not to be replaced, nothing changes; else a file is written where the path of its
name leads.
-/
theorem Template.write_spec (world : Surroundings) (force : Bool) (format : Format)
    : ((write world force format).1 = world.files ∧ (write world force format).2.isSome)
      ∨ (force = false → world.files.pathExists (world.projectPath (name format)) = false)
        ∧ ∃ ending,
            world.files.Writes (world.projectPath (name format))
              (Utf8.ofString (content format)) (write world force format).1 ending
            ∧ (write world force format).2
              = ending.map fun fault => { top := fault.message } := by
  unfold write
  cases world.requireDirectory with
  | error failure => exact .inl ⟨rfl, rfl⟩
  | ok =>
      dsimp only
      split
      · exact .inl ⟨rfl, rfl⟩
      next free =>
        refine .inr ⟨?_, _, Files.FileSystem.writes_write _ _ _, rfl⟩
        rintro rfl
        simpa using free

/-- In a working directory without such a file, the first configuration is written. -/
theorem Template.write_of_free {world : Surroundings} {force : Bool} {format : Format}
    (standing : world.files.isStanding = true)
    (free : world.files.pathExists (world.projectPath (name format)) = false)
    : let wrote :=
        world.files.write (world.projectPath (name format)) (Utf8.ofString (content format))
      write world force format
      = (wrote.1, wrote.2.map fun fault => { top := fault.message }) := by
  simp [write, Surroundings.requireDirectory, standing, free]

/-- The first configuration is written where the path of its name leads. -/
theorem Template.writes_of_write {world : Surroundings} {force : Bool} {format : Format}
    {files : Files.FileSystem} (written : write world force format = (files, none))
    : world.files.Writes (world.projectPath (name format)) (Utf8.ofString (content format)) files
        none := by
  rcases write_spec world force format with ⟨_, failed⟩ | ⟨_, ending, writes, same⟩
  · simp [written] at failed
  · rw [written] at writes same
    obtain rfl := Option.map_eq_none_iff.mp same.symm
    exact writes

/-- A start leaves behind what writing the first configuration comes to, and succeeds exactly if
that does. Then it says what to do next.
-/
theorem run_init {world : Surroundings} {arguments : List Bytes} {named : Option Bytes}
    {force yaml : Bool}
    (parsed
      : Arguments.parse world.config arguments
        = .ok { config := named, command := .init force yaml })
    : let format : Format := if yaml then .yaml else .toml
      (run world arguments).files = (Template.write world force format).1
      ∧ ((run world arguments).status = 0
          ∧ (Template.write world force format).2 = none
          ∧ (run world arguments).output = Template.advice format
        ∨ (run world arguments).status = 1
          ∧ (Template.write world force format).2.isSome) := by
  intro format
  rw [run_of_parse parsed]
  simp only [Invocation.run]
  rcases written : Template.write world force format with ⟨files, none | failure⟩
  · simp [format]
  · simp [format, failed]

/-- A start that succeeds has written the first configuration and says what to do next. -/
theorem write_of_run {world : Surroundings} {arguments : List Bytes} {named : Option Bytes}
    {force yaml : Bool}
    (parsed
      : Arguments.parse world.config arguments
        = .ok { config := named, command := .init force yaml })
    (succeeded : (run world arguments).status = 0)
    : let format : Format := if yaml then .yaml else .toml
      Template.write world force format = ((run world arguments).files, none)
      ∧ (run world arguments).output = Template.advice format := by
  intro format
  obtain ⟨files, ⟨_, done, advises⟩ | ⟨failed, _⟩⟩ := run_init parsed
  · exact ⟨Prod.ext files.symm done, advises⟩
  · cases succeeded.symm.trans failed

section Written

variable {world : Surroundings} {force : Bool} {format : Format} {files : Files.FileSystem}

/-- The files of the project keep their paths. -/
theorem projectPath_of_write (written : Template.write world force format = (files, none))
    : ({ world with files } : Surroundings).projectPath = world.projectPath := by
  funext name
  simp only [Surroundings.projectPath, (Template.writes_of_write written).workingDirectory_eq]

/-- The names under which there is something then are those in use. -/
theorem pathExists_iff_inUse (written : Template.write world force format = (files, none))
    (name : String)
    : files.pathExists (world.projectPath name) = true ↔ world.InUse format name :=
  (Template.writes_of_write written).pathExists_iff _

/-- The name of the first configuration is in use. -/
theorem inUse_of_write (written : Template.write world force format = (files, none))
    : world.InUse format (Template.name format) := by
  rw [← pathExists_iff_inUse written]
  rcases (Template.writes_of_write written).node with
    reached | ⟨fault, reached, _⟩ | ⟨content, reached⟩
  all_goals simp [Files.FileSystem.pathExists, reached, Except.toBool]

/-- The first name in use is chosen. -/
theorem resolve_of_first (written : Template.write world force format = (files, none))
    {before later : List String} {name : String}
    (names : Source.projectNames = before ++ name :: later)
    (unused : ∀ other ∈ before, ¬world.InUse format other) (used : world.InUse format name)
    : Source.resolve { world with files } none = .project (world.projectPath name) := by
  have noneBefore : (before.map world.projectPath).find? files.pathExists = none := by
    refine List.find?_eq_none.mpr fun path member => ?_
    obtain ⟨other, earlier, rfl⟩ := List.mem_map.mp member
    rw [pathExists_iff_inUse written]
    exact unused other earlier
  have here := (pathExists_iff_inUse written name).mpr used
  simp only [Source.resolve, projectPath_of_write written, names, List.map_append,
    List.find?_append, noneBefore, Option.none_or, List.map_cons, List.find?_cons, here]

/-- The file just written is chosen exactly if no name before its own is in use. -/
theorem resolve_eq_own_iff (written : Template.write world force format = (files, none))
    : Source.resolve { world with files } none
        = .project (world.projectPath (Template.name format))
      ↔ ∀ name ∈ Source.earlierNames format, ¬world.InUse format name := by
  obtain ⟨later, names⟩ := Source.projectNames_eq format
  constructor
  · intro chosen name earlier used
    obtain ⟨before, first, between, split, unused, usedFirst⟩ :=
      Surroundings.exists_first_inUse ⟨name, earlier, used⟩
    have allNames
        : Source.projectNames
          = before ++ first :: (between ++ Template.name format :: later) := by
      simp [names, split]
    have path : world.projectPath first = world.projectPath (Template.name format) := by
      simpa [chosen] using (resolve_of_first written allNames unused usedFirst).symm
    exact Source.projectPath_ne (by simp [split]) world path
  · intro unused
    exact resolve_of_first written names unused (inUse_of_write written)

end Written

/-- The first configuration of a project. If it is written, its path leads to it, to a file that
cannot be opened for reading, as before or since it is new, or to a special file that took it, and
what is read from then on is the file under the first of the project's names that is in use. So it
is the one just written exactly if no name before its own is in use, as always for `lidder.toml`,
whose name is the first.
-/
theorem started_project {world : Surroundings} {arguments : List Bytes}
    {named : Option Bytes} {force yaml : Bool}
    (parsed
      : Arguments.parse world.config arguments
        = .ok { config := named, command := .init force yaml })
    (succeeded : (run world arguments).status = 0)
    : let format : Format := if yaml then .yaml else .toml
      let after : Surroundings := { world with files := (run world arguments).files }
      let own := world.projectPath (Template.name format)
      (run world arguments).output = Template.advice format
      ∧ (after.files.node .target own
            = .ok (.file (.stream (Utf8.ofString (Template.content format))))
          ∨ (∃ fault,
              after.files.node .target own = .ok (.file (.unopenable fault))
              ∧ (world.files.node .target own = .ok (.file (.unopenable fault))
                ∨ ∃ place,
                    world.files.resolve .target own = .ok (.absent place)
                    ∧ (world.files.writing place).hidden = some fault))
          ∨ ∃ content, after.files.node .target own = .ok (.special content))
      ∧ (∃ before name later,
          Source.projectNames = before ++ name :: later
          ∧ (∀ other ∈ before, ¬world.InUse format other)
          ∧ world.InUse format name
          ∧ Source.resolve after none = .project (world.projectPath name))
      ∧ (Source.resolve after none = .project own
        ↔ ∀ name ∈ Source.earlierNames format, ¬world.InUse format name)
      ∧ (yaml = false → Source.resolve after none = .project own) := by
  intro format after own
  obtain ⟨written, advises⟩ := write_of_run parsed succeeded
  have own_iff := resolve_eq_own_iff written
  refine ⟨advises, (Template.writes_of_write written).node, ?_, own_iff, ?_⟩
  · obtain ⟨later, names⟩ := Source.projectNames_eq format
    have someUsed : ∃ name ∈ Source.projectNames, world.InUse format name :=
      ⟨Template.name format, by simp [names], inUse_of_write written⟩
    obtain ⟨before, name, rest, split, unused, used⟩ := Surroundings.exists_first_inUse someUsed
    exact ⟨before, name, rest, split, unused, used, resolve_of_first written split unused used⟩
  · rintro rfl
    refine own_iff.mpr fun name earlier => ?_
    cases earlier

/-- In a directory without a configuration, the one that was written is read. -/
theorem started_project_sample
    : let outcome := run bareWorld (words ["init", "--yaml"])
      outcome.status = 0
      ∧ Source.resolve { bareWorld with files := outcome.files } none
        = .project (Utf8.ofString "/lidder.yaml") := by
  intro outcome
  have succeeded : outcome.status = 0 := rfl
  obtain ⟨_, _, _, own_iff, _⟩ :=
    started_project
      (rfl
        : Arguments.parse bareWorld.config (words ["init", "--yaml"])
          = .ok { config := none, command := .init false true })
      succeeded
  have free
      : ∀ name ∈ Source.projectNames,
          bareWorld.files.resolve .target (bareWorld.projectPath name)
            = .ok (.absent [Utf8.ofString name]) := by
    rw [Source.projectNames]
    simp only [List.forall_mem_cons]
    exact ⟨rfl, rfl, rfl, rfl, List.forall_mem_nil _⟩
  have unused (name : String) (earlier : name ∈ Source.earlierNames .yaml)
      : ¬bareWorld.InUse .yaml name := by
    have led := free name (List.takeWhile_subset _ earlier)
    rintro (existed | ⟨place, created, ledThere⟩)
    · obtain ⟨place, there⟩ := Files.FileSystem.pathExists_iff.mp existed
      simp [led] at there
    · rw [free _ (by decide)] at created
      rw [led] at ledThere
      have bytes : Utf8.ofString name = Utf8.ofString (Template.name .yaml) := by
        simpa using ledThere.trans created.symm
      exact Source.projectPath_ne earlier bareWorld (congrArg (Path.child _) bytes)
  exact ⟨succeeded, own_iff.mpr unused⟩

/-- Beside a `lidder.toml`, a `lidder.yaml` that was written is not read. -/
theorem started_project_overlooked
    : let outcome := run sampleWorld (words ["init", "--yaml"])
      outcome.status = 0
      ∧ outcome.output
        = "Created lidder.yaml\n\nNext steps:\n  1. Edit lidder.yaml"
          ++ " to list your lidded patterns\n  2. Run: lidder check\n"
      ∧ Source.resolve { sampleWorld with files := outcome.files } none
        = .project (Utf8.ofString "/lidder.toml") := by
  refine ⟨rfl, rfl, rfl⟩

end PatternAudit.CommandLine
