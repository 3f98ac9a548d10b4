import PatternAudit.Proofs.CommandLine.Starting
import PatternAudit.Proofs.Text.WellFormed

/-! What a start leaves alone. It creates one file or, if asked to, replaces one, and nothing else
changes; if it fails, nothing changes at all, unless writing breaks off in that file. What it wrote
is a configuration that can be used, and no further start overwrites that unasked.
-/

namespace PatternAudit.CommandLine

open Files (Node FileSystem Location Wrote)

-----------------------------------------------------------------------------------------
-- The first configuration
-----------------------------------------------------------------------------------------

namespace Template

/-- What the first configuration says, in either format. -/
def configuration : Configuration where
  included := ["\\.go$"]
  excluded := ["^vendor/", "_test\\.go$"]
  rules := [{ pattern := "panic\\(" }]

/-- The first configuration says that. Its characters are put together from those of its lines
before it is read, since characters of long texts are slow to get.
-/
theorem parse?_content (format : Format)
    : Configuration.parse? format (content format) = some configuration := by
  cases format with
  | toml =>
      unfold Configuration.parse? Configuration.parseToml? Toml.parse? content preface
      simp only [String.toList_append]
      decide +kernel
  | yaml =>
      unfold Configuration.parse? Configuration.parseYaml? Yaml.Document.parse? content preface
      simp only [String.toList_append]
      decide +kernel

/-- So it has some bytes, since no bytes say something else. -/
theorem ofString_content_ne_nil (format : Format) : Utf8.ofString (content format) ≠ [] := by
  intro empty
  have read := Utf8.decode?_encode (content format).toList
  rw [← Utf8.ofString, empty] at read
  have silent : content format = "" := String.toList_eq_nil_iff.mp (Option.some.inj read).symm
  have described := parse?_content format
  rw [silent] at described
  revert described
  cases format <;> decide

/-- All of its patterns compile. -/
theorem exists_build : ∃ ruleset, Ruleset.build configuration = .ok ruleset :=
  ⟨_, rfl⟩

end Template

/-- The path of a place is written somehow. -/
theorem pathOf_ne_nil (location : Location) : pathOf location ≠ [] := by
  cases location with
  | nil => exact List.cons_ne_nil _ _
  | cons name location => exact List.cons_ne_nil _ _

/-- The path of the first configuration announces its format. -/
theorem ofPath_projectPath (world : Surroundings) (format : Format)
    : Format.ofPath (world.projectPath (Template.name format)) = format := by
  have named : Files.IsName (Utf8.ofString (Template.name format)) := by
    cases format <;> decide
  have last : Path.extension? (world.projectPath (Template.name format))
      = Path.extensionOf (Utf8.ofString (Template.name format)) := by
    rw [Path.extension?, Surroundings.projectPath,
      Path.names_child (pathOf_ne_nil _) named.toIsSegment, List.getLast?_concat,
      Option.bind_some]
  rw [Format.ofPath, last]
  cases format <;> decide

/-- A regular file with a text gives that text. -/
theorem readText_of_node {files : FileSystem} {path : Bytes} {text : String}
    (leads : files.node .target path = .ok (.file (.stream (Utf8.ofString text))))
    : files.readText path = .ok text := by
  have bytes : files.readBytes path = .ok (Utf8.ofString text) := by
    simp only [FileSystem.readBytes, FileSystem.contentAt, leads]
  simp only [FileSystem.readText, bytes, bind, Except.bind, Utf8.ofString, Utf8.decode?_encode,
    String.ofList_toList]

-----------------------------------------------------------------------------------------
-- Starts that succeed and starts that fail
-----------------------------------------------------------------------------------------

section Write

variable {world : Surroundings} {force : Bool} {format : Format} {files : FileSystem}

/-- Once the first configuration is written, it is not written again unless it is to be replaced.
-/
theorem refused_of_written (written : Template.write world force format = (files, none))
    : (Template.write { world with files } false format).1 = files
      ∧ (Template.write { world with files } false format).2.isSome := by
  have exists' : files.pathExists (world.projectPath (Template.name format)) = true :=
    (pathExists_iff_inUse written _).mpr (inUse_of_write written)
  rcases Template.write_spec { world with files } false format with refused | ⟨free, _⟩
  · exact refused
  · rw [projectPath_of_write written, exists'] at free
    cases free rfl

/-- A file that a start has written is read as a configuration whose patterns all compile. -/
theorem loads_of_node
    (leads
      : files.node .target (world.projectPath (Template.name format))
        = .ok (.file (.stream (Utf8.ofString (Template.content format)))))
    : ∃ config ruleset,
        loadPath files (world.projectPath (Template.name format)) = .ok config
        ∧ Ruleset.build config = .ok ruleset := by
  obtain ⟨ruleset, built⟩ := Template.exists_build
  refine ⟨Template.configuration, ruleset, ?_, built⟩
  simp only [loadPath, readText_of_node leads, ofPath_projectPath, Template.parse?_content]

/-- A start has put a file with a content where its path leads, which it created there or, if asked
to, replaced.
-/
structure Put (world : Surroundings) (force : Bool) (format : Format) (place : Location)
    (content : Files.Content) (after : FileSystem)
    : Prop where
  leads
    : world.files.resolve .target (world.projectPath (Template.name format))
        = .ok (.absent place)
      ∨ force = true
        ∧ world.files.resolve .target (world.projectPath (Template.name format))
          = .ok (.existing place)
  wrote : Wrote world.files.root after.root place content
  stayed : after.workingDirectory = world.files.workingDirectory

/-- A start that succeeded has put the whole first configuration there, which can be used then, or
the file cannot be opened for reading, or it has handed the configuration to a special file, which
it does only if asked to replace.
-/
inductive Started (world : Surroundings) (force : Bool) (format : Format) : FileSystem → Prop
  | file {after : FileSystem} {config ruleset} (place : Location)
    (put : Put world force format place (.stream (Utf8.ofString (Template.content format))) after)
    (loads : loadPath after (world.projectPath (Template.name format)) = .ok config)
    (compiles : Ruleset.build config = .ok ruleset)
    : Started world force format after
  | unread {after : FileSystem} (place : Location) (fault : Files.Fault)
    (put : Put world force format place (.unopenable fault) after)
    (cause
      : world.files.root.at? place = some (.file (.unopenable fault))
        ∨ (world.files.writing place).hidden = some fault)
    : Started world force format after
  | special {content} (forced : force = true)
    (leads
      : world.files.node .target (world.projectPath (Template.name format))
        = .ok (.special content))
    : Started world force format world.files

/-- A start that failed has broken off in its file, where there is no room for all: the file holds a
beginning of the first configuration, or cannot be opened for reading.
-/
structure BrokenOff (world : Surroundings) (force : Bool) (format : Format) (place : Location)
    (content : Files.Content) (after : FileSystem)
    : Prop extends Put world force format place content after where
  full
    : ((world.files.writing place).fault? (Utf8.ofString (Template.content format))).isSome
  begins
    : (∃ bytes, content = .stream bytes ∧ bytes <+: Utf8.ofString (Template.content format))
      ∨ ∃ fault, content = .unopenable fault

/-- Where something is, a start writes only if it is to replace that. -/
theorem forced_of_existing {place : Location}
    (free
      : force = false
        → world.files.pathExists (world.projectPath (Template.name format)) = false)
    (leads
      : world.files.resolve .target (world.projectPath (Template.name format))
        = .ok (.existing place))
    : force = true := by
  cases force with
  | true => rfl
  | false => cases (free rfl).symm.trans (FileSystem.pathExists_iff.mpr ⟨place, leads⟩)

/-- What a start leaves behind: it succeeds and has started a project, or it fails, and nothing has
changed unless it broke off.
-/
theorem write_leaves (world : Surroundings) (force : Bool) (format : Format)
    : (Template.write world force format).2 = none
        ∧ Started world force format (Template.write world force format).1
      ∨ (Template.write world force format).2.isSome
        ∧ ((Template.write world force format).1 = world.files
          ∨ ∃ place content,
              BrokenOff world force format place content
                (Template.write world force format).1) := by
  rcases Template.write_spec world force format with ⟨same, failed⟩ | ⟨free, ending, writes, ends⟩
  · exact .inr ⟨failed, .inl same⟩
  · rw [ends]
    generalize (Template.write world force format).1 = files at writes
    cases writes with
    | refused fault => exact .inr ⟨rfl, .inl rfl⟩
    | special place content leads present =>
        cases ending with
        | some fault => exact .inr ⟨rfl, .inl rfl⟩
        | none =>
            have reached := FileSystem.node_eq_ok_iff.mpr ⟨place, leads, present⟩
            exact .inl ⟨rfl, .special (forced_of_existing free leads) reached⟩
    | file place old leads was wrote stayed full =>
        have put {content : Files.Content} (holds : _ = content)
            : Put world force format place content files := {
          leads := leads.imp_right fun existing => ⟨forced_of_existing free existing, existing⟩
          wrote := holds ▸ wrote
          stayed }
        have holds := Files.Writing.content_spec (world.files.writing place)
          (Utf8.ofString (Template.content format)) old
        cases ending with
        | some fault =>
            refine .inr ⟨rfl, .inr ⟨place, _, put rfl, by simp [full], ?_⟩⟩
            exact holds.imp (fun part => ⟨_, part, Files.Writing.taken_prefix _ _⟩)
              fun ⟨fault, unread, _⟩ => ⟨fault, unread⟩
        | none =>
            rw [Files.Writing.taken_of_fault?_eq_none full] at holds
            rcases holds with whole | ⟨fault, unread, cause⟩
            · obtain ⟨config, ruleset, loads, compiles⟩ :=
                loads_of_node (FileSystem.node_of_wrote leads (put whole).wrote stayed)
              exact .inl ⟨rfl, .file place (put whole) loads compiles⟩
            · refine .inl ⟨rfl, .unread place fault (put unread) ?_⟩
              rcases cause with rfl | ⟨_, hidden⟩
              · exact .inl was
              · exact .inr hidden

/-- What stood anywhere before a start that is not to replace anything stands there afterwards. -/
theorem Put.kept {target : Location} {content : Files.Content}
    (put : Put world false format target content files) {place : Location} {node : Node}
    (here : world.files.root.at? place = some node)
    : (files.root.at? place).map Node.bare = some node.bare := by
  rcases put.leads with absent | ⟨forced, _⟩
  · have apart : place ≠ target := by
      rintro rfl
      obtain ⟨_, _, _, _, _, _, nothing⟩ := FileSystem.resolve_stands absent
      cases nothing.symm.trans here
    rw [put.wrote.kept place apart, here, Option.map_some]
  · cases forced

/-- So it does after a start that succeeded. -/
theorem Started.kept (started : Started world false format files) {place : Location} {node : Node}
    (here : world.files.root.at? place = some node)
    : (files.root.at? place).map Node.bare = some node.bare := by
  cases started with
  | file target put | unread target fault put => exact put.kept here
  | special forced => cases forced

end Write

/-- A start destroys nothing. It succeeds and has started a project, or it fails and changes
nothing, unless there is no room for all of the file that it created or, if asked to, replaced: it
breaks off in that one. Unless it is to replace something, whatever stood anywhere stands there
still. After a success, a further start of the same format that is not to replace anything fails and
changes nothing.
-/
theorem init_preserves {world : Surroundings} {arguments : List Bytes} {named : Option Bytes}
    {force yaml : Bool}
    (parsed
      : Arguments.parse world.config arguments
        = .ok { config := named, command := .init force yaml })
    : let format : Format := if yaml then .yaml else .toml
      let outcome := run world arguments
      let after : Surroundings := { world with files := outcome.files }
      (outcome.status = 0 ∧ Started world force format outcome.files
          ∨ outcome.status = 1
            ∧ (outcome.files = world.files
              ∨ ∃ place content, BrokenOff world force format place content outcome.files))
      ∧ (force = false
        → ∀ place node,
            world.files.root.at? place = some node
            → (outcome.files.root.at? place).map Node.bare = some node.bare)
      ∧ (outcome.status = 0
        → ∀ arguments' named',
            Arguments.parse world.config arguments'
                = .ok { config := named', command := .init false yaml }
            → (run after arguments').status = 1
              ∧ (run after arguments').files = outcome.files) := by
  intro format outcome after
  have ends : outcome.status = 0 ∧ Started world force format outcome.files
      ∨ outcome.status = 1
        ∧ (outcome.files = world.files
          ∨ ∃ place content, BrokenOff world force format place content outcome.files) := by
    obtain ⟨same, ⟨succeeded, done, _⟩ | ⟨failed, fails⟩⟩ := run_init parsed
    · rcases write_leaves world force format with ⟨_, started⟩ | ⟨fails, _⟩
      · exact .inl ⟨succeeded, same ▸ started⟩
      · simp [format, done] at fails
    · rcases write_leaves world force format with ⟨done, _⟩ | ⟨_, left⟩
      · simp [format, done] at fails
      · exact .inr ⟨failed, same ▸ left⟩
  refine ⟨ends, ?_, ?_⟩
  · rintro rfl place node here
    rcases ends with ⟨_, started⟩ | ⟨_, same | ⟨target, content, broken⟩⟩
    · exact started.kept here
    · rw [same, here, Option.map_some]
    · exact broken.toPut.kept here
  · intro succeeded arguments' named' parsed'
    obtain ⟨written, _⟩ := write_of_run parsed succeeded
    obtain ⟨same, fails⟩ := refused_of_written written
    obtain ⟨same', ⟨_, done, _⟩ | ⟨failed, _⟩⟩ := @run_init after _ _ _ _ parsed'
    · simp [after, outcome, done] at fails
    · exact ⟨failed, same'.trans same⟩

/-- In a directory with a file, a start creates a configuration beside it, and another one fails. -/
theorem init_preserves_sample
    : let outcome := run bareWorld (words ["init", "--yaml"])
      let after : Surroundings := { bareWorld with files := outcome.files }
      outcome.status = 0
      ∧ Started bareWorld false .yaml outcome.files
      ∧ (outcome.files.root.at? [[0x66]]).map Node.bare = some (.file (.stream [0x61, 0x0A]))
      ∧ (run after (words ["init", "--yaml"])).status = 1 := by
  intro outcome after
  have parsed
      : Arguments.parse bareWorld.config (words ["init", "--yaml"])
        = .ok { config := none, command := .init false true } :=
    rfl
  have succeeded : outcome.status = 0 := rfl
  obtain ⟨ends, kept, further⟩ := init_preserves parsed
  have started : Started bareWorld false .yaml outcome.files := by
    rcases ends with ⟨_, started⟩ | ⟨refused, _⟩
    · exact started
    · cases succeeded.symm.trans refused
  exact ⟨succeeded, started, kept rfl [[0x66]] _ rfl, (further succeeded _ _ parsed).1⟩

/-- A directory in which `lidder.toml` is a link to a device. -/
def deviceWorld : Surroundings where
  files := {
    root :=
      .directory none
        [
          (Utf8.ofString "dev",
            .directory none [(Utf8.ofString "null", .special (.stream []))]),
          (Utf8.ofString "work",
            .directory none [(Utf8.ofString "lidder.toml", .link (Utf8.ofString "/dev/null"))])
        ]
    workingDirectory := [Utf8.ofString "work"] }

/-- A start that is asked to replace a link to a device succeeds, but no regular file is there then,
neither where the link leads nor anywhere else.
-/
theorem init_to_device
    : (run deviceWorld (words ["init", "--force"])).status = 0
      ∧ ¬∃ place content,
          (run deviceWorld (words ["init", "--force"])).files.root.at? place
            = some (.file content) := by
  refine ⟨rfl, ?_⟩
  rintro ⟨place, content, here⟩
  have same : (run deviceWorld (words ["init", "--force"])).files = deviceWorld.files := rfl
  rw [same] at here
  -- Going down one name at a time, there are directories, then the device and the link to it.
  have next {place : Location} {entries : List (Bytes × Node)}
      (below : (Node.directory none entries).at? place = some (.file content))
      : ∃ name node rest,
          (name, node) ∈ entries ∧ node.at? rest = some (.file content) := by
    cases place with
    | nil => cases below
    | cons name rest =>
        obtain ⟨node, looked, further⟩ := Option.bind_eq_some_iff.mp below
        obtain ⟨before, after, rfl, _⟩ := List.lookup_eq_some_iff.mp looked
        exact ⟨name, node, rest, by simp, further⟩
  have leaf {node : Node} {rest : Location} (isLeaf : node.isLeaf)
      (found : node.at? rest = some (.file content))
      : node = .file content := by
    cases rest with
    | nil => exact Option.some.inj found
    | cons name rest => simp [Node.at?_of_isLeaf isLeaf] at found
  obtain ⟨_, _, _, isDirectory, below⟩ := next here
  rcases List.mem_cons.mp isDirectory with isDev | isWork
  · cases isDev
    obtain ⟨_, _, _, isDevice, below⟩ := next below
    cases List.mem_singleton.mp isDevice
    cases leaf rfl below
  · cases List.mem_singleton.mp isWork
    obtain ⟨_, _, _, isLink, below⟩ := next below
    cases List.mem_singleton.mp isLink
    cases leaf rfl below

/-- The directory with one file, on a disk that is full. -/
def fullWorld : Surroundings where
  files := { bareWorld.files with writing := fun _ => { room := some (0, .noSpace) } }

/-- On that disk a new file stays empty. -/
theorem write_fullWorld {bytes : Bytes} (nonempty : bytes ≠ [])
    : (fullWorld.files.write (fullWorld.projectPath "lidder.toml") bytes).1.root.at?
          [Utf8.ofString "lidder.toml"]
        = some (.file (.stream []))
      ∧ (fullWorld.files.write (fullWorld.projectPath "lidder.toml") bytes).2 = some .noSpace := by
  obtain ⟨first, rest, rfl⟩ := List.exists_cons_of_ne_nil nonempty
  exact ⟨rfl, rfl⟩

/-- A start on a full disk fails, but its file is there then. -/
theorem init_on_full_disk
    : (run fullWorld (words ["init"])).status = 1
      ∧ fullWorld.files.root.at? [Utf8.ofString "lidder.toml"] = none
      ∧ (run fullWorld (words ["init"])).files.root.at? [Utf8.ofString "lidder.toml"]
        = some (.file (.stream [])) := by
  have parsed
      : Arguments.parse fullWorld.config (words ["init"])
        = .ok { config := none, command := .init false false } :=
    rfl
  obtain ⟨empty, full⟩ := write_fullWorld (Template.ofString_content_ne_nil .toml)
  -- Stated for any world first, so that nothing evaluates the first configuration.
  have wrote : Template.write fullWorld false .toml = _ := Template.write_of_free rfl rfl
  obtain ⟨files, ⟨_, done, _⟩ | ⟨failed, _⟩⟩ := run_init parsed
  · rw [if_neg Bool.false_ne_true, wrote, Template.name, full] at done
    cases done
  · rw [if_neg Bool.false_ne_true, wrote] at files
    exact ⟨failed, rfl, files ▸ empty⟩

/-- The directory with one file, for a user whose new files cannot be opened for reading. -/
def hiddenWorld : Surroundings where
  files := { bareWorld.files with writing := fun _ => { hidden := some .permissionDenied } }

/-- A start can succeed with no regular file there then, it can fail and leave a file behind that
was not there, and it can succeed with a file that cannot be loaded.
-/
theorem init_falls_short
    : ((run deviceWorld (words ["init", "--force"])).status = 0
        ∧ ¬∃ place content,
            (run deviceWorld (words ["init", "--force"])).files.root.at? place
              = some (.file content))
      ∧ ((run fullWorld (words ["init"])).status = 1
        ∧ fullWorld.files.root.at? [Utf8.ofString "lidder.toml"] = none
        ∧ (run fullWorld (words ["init"])).files.root.at? [Utf8.ofString "lidder.toml"]
          = some (.file (.stream [])))
      ∧ (run hiddenWorld (words ["init"])).status = 0
      ∧ loadPath (run hiddenWorld (words ["init"])).files (Utf8.ofString "/lidder.toml")
        = .error (.unreadable (Utf8.ofString "/lidder.toml") .permissionDenied) :=
  ⟨init_to_device, init_on_full_disk, rfl, rfl⟩

end PatternAudit.CommandLine
