import PatternAudit.Proofs.Audit.SingleFile
import PatternAudit.Proofs.Path.Under
import PatternAudit.Proofs.Walk.Distinguishing
import PatternAudit.Proofs.Walk.FirstFailure

/-! Keys of what a walk meets below a directory. The path of a file there is the root as written
with the names that lead to it put behind one by one, so its key is the texts of those names under
the key of the root. Whatever is expected elsewhere is missing.
-/

namespace PatternAudit

open Files (Node Content FileSystem Location IsListing IsName)

namespace Walk

-----------------------------------------------------------------------------------------
-- Paths of places
-----------------------------------------------------------------------------------------

/-- What stands below entries stands below one of them. -/
theorem belowEach_eq (path : Bytes) (entries : List (Bytes × Node))
    : belowEach path entries
      = entries.flatMap fun entry => below (Path.child path entry.1) entry.2 := by
  induction entries with
  | nil => rfl
  | cons entry entries ih => rw [belowEach, ih, List.flatMap_cons]

/-- The regular files of a directory are those of its entries. -/
theorem files_directory (path : Bytes) (hindrance : Option Files.Hindrance)
    (entries : List (Bytes × Node))
    : files path (.directory hindrance entries)
      = entries.flatMap fun entry => files (Path.child path entry.1) entry.2 := by
  rw [files, below, List.filterMap_cons_none rfl, belowEach_eq, List.filterMap_flatMap]
  rfl

/-- What stands below a node are its places, by induction on the tree. A walk may come to them in
another order.
-/
theorem below_perm_places (order : Order) (path : Bytes) (node : Node)
    : (below path node).Perm ((places order path node).map (located path)) := by
  induction node using Node.induction generalizing path with
  | leaf node leaf =>
      rw [places_of_isLeaf order path leaf]
      cases node with
      | directory hindrance entries => cases leaf
      | file | special | link => exact .refl _
  | directory hindrance entries ih =>
      have each : ∀ entry ∈ entries,
          (below (Path.child path entry.1) entry.2).Perm
            ((placesIn order path entry).map (located path)) := by
        intro entry isEntry
        rw [placesIn, List.map_map]
        exact ih entry isEntry _
      refine .trans ?_ ((places_directory_perm order path hindrance entries).map _).symm
      rw [below, belowEach_eq, List.map_cons, List.map_flatMap]
      exact (List.Perm.flatMap_left _ each).cons _

/-- A regular file below a node has the path of a place where it stands. -/
theorem mem_files_iff {path : Bytes} {node : Node} (possible : node.Everywhere IsListing)
    {file : Bytes × Content}
    : file ∈ files path node
      ↔ ∃ location,
          node.at? location = some (.file file.2) ∧ file.1 = location.foldl Path.child path := by
  have complete := (isVisitingOrder_places .listed path node possible).complete
  simp only [files, List.mem_filterMap, (below_perm_places .listed path node).mem_iff]
  constructor
  · rintro ⟨_, isPlace, isFile⟩
    obtain ⟨⟨location, found⟩, here, rfl⟩ := List.mem_map.mp isPlace
    cases found with
    | file content =>
        obtain rfl := Option.some.inj isFile
        exact ⟨location, (complete _ _).mp here, rfl⟩
    | special | link | directory => cases isFile
  · rintro ⟨location, here, path'⟩
    refine ⟨_, List.mem_map_of_mem ((complete _ _).mpr here), ?_⟩
    rw [located, ← path']
    rfl

/-- A regular file that is met in a directory is met in one of its entries. -/
theorem exists_entry_of_mem_visits {order : Order} {root path place : Bytes}
    {hindrance : Option Files.Hindrance} {entries : List (Bytes × Node)} {content : Content}
    (member : .file place content ∈ visits order root path (.directory hindrance entries))
    : ∃ entry ∈ entries,
        .file place content ∈ visits order root (Path.child path entry.1) entry.2 := by
  rw [visits_directory] at member
  have inEntries {some : List (Bytes × List Visit)}
      (among : ∀ group ∈ some, group ∈ visitsOfEach order root path entries)
      (member : .file place content ∈ (some.map (·.2)).flatten)
      : ∃ entry ∈ entries,
          .file place content ∈ visits order root (Path.child path entry.1) entry.2 := by
    obtain ⟨_, isGroup, inGroup⟩ := List.mem_flatten.mp member
    obtain ⟨group, isSome, rfl⟩ := List.mem_map.mp isGroup
    have isPart := among group isSome
    rw [visitsOfEach_eq] at isPart
    obtain ⟨entry, isEntry, rfl⟩ := List.mem_map.mp isPart
    exact ⟨entry, isEntry, inGroup⟩
  cases state : hindranceUnder path hindrance with
  | none =>
      rw [state] at member
      exact inEntries (fun _ => (order.arrange_perm _).mem_iff.mp) member
  | some hindered =>
      rw [state] at member
      cases hindered with
      | refused fault => cases List.mem_singleton.mp member
      | broken listed fault =>
          rcases List.mem_cons.mp ((Order.breakOff_perm order _ _).mem_iff.mp member) with
            failed | listed
          · cases failed
          · refine inEntries (fun group isGiven => ?_) listed
            exact List.mem_of_mem_take ((order.arrange_perm _).mem_iff.mp isGiven)

/-- A walk meets regular files below its start, by induction on the tree. -/
theorem visitOf_of_mem_visits {order : Order} {root path place : Bytes} {node : Node}
    {content : Content} (member : .file place content ∈ visits order root path node)
    : ∃ file ∈ files path node, visitOf file = .file place content := by
  induction node using Node.induction generalizing path with
  | leaf node leaf =>
      cases node with
      | file content =>
          refine ⟨(path, content), List.mem_singleton_self _, ?_⟩
          exact (List.mem_singleton.mp member).symm
      | special | link => cases member
      | directory => cases leaf
  | directory hindrance entries ih =>
      obtain ⟨entry, isEntry, below⟩ := exists_entry_of_mem_visits member
      obtain ⟨file, isFile, visited⟩ := ih entry isEntry below
      refine ⟨file, ?_, visited⟩
      rw [files_directory]
      exact List.mem_flatMap.mpr ⟨entry, isEntry, isFile⟩

-----------------------------------------------------------------------------------------
-- Keys of entries
-----------------------------------------------------------------------------------------

/-- A key that an entry below a root can have: the texts of the names that lead to it, of which
there is at least one, under the key of the root.
-/
def IsEntryKey (root : Bytes) (key : String) : Prop :=
  ∃ location,
    location ≠ []
    ∧ (∀ name ∈ location, IsName name)
    ∧ key = Path.under (Path.key root) (location.map Path.display)

section Places

variable {root : Bytes} {hindrance : Option Files.Hindrance} {entries : List (Bytes × Node)}

/-- The key under which a walk meets a place below a root lies under the key of the root. -/
theorem key_of_at? (nonempty : root ≠ []) {node found : Node}
    (possible : node.Everywhere IsListing) {location : Location} (below : location ≠ [])
    (here : node.at? location = some found)
    : Path.key (location.foldl Path.child root)
      = Path.under (Path.key root) (location.map Path.display) := by
  have named : ∀ name ∈ location, Path.IsSegment Path.slash Path.dot name :=
    fun name member => (possible.isName_of_at? here name member).toIsSegment
  exact Path.key_foldl_child nonempty named below

/-- None of the regular files below a directory stands at the place of the directory itself. -/
theorem exists_place_of_mem_files
    (possible : (Node.directory hindrance entries).Everywhere IsListing) {file : Bytes × Content}
    (member : file ∈ files root (.directory hindrance entries))
    : ∃ location,
        location ≠ []
        ∧ (Node.directory hindrance entries).at? location = some (.file file.2)
        ∧ file.1 = location.foldl Path.child root := by
  obtain ⟨location, here, path⟩ := (mem_files_iff possible).mp member
  refine ⟨location, ?_, here, path⟩
  rintro rfl
  cases here

/-- So the regular files below a directory have keys that entries can have. -/
theorem isEntryKey_of_mem_files (nonempty : root ≠ [])
    (possible : (Node.directory hindrance entries).Everywhere IsListing) {file : Bytes × Content}
    (member : file ∈ files root (.directory hindrance entries))
    : IsEntryKey root (Path.key file.1) := by
  obtain ⟨location, below, here, path⟩ := exists_place_of_mem_files possible member
  refine ⟨location, below, possible.isName_of_at? here, ?_⟩
  rw [path, key_of_at? nonempty possible below here]

/-- The key of an entry is its own key, has the key of the root before it unless that is the
directory itself, and leads to no parent that the root does not lead to.
-/
theorem IsEntryKey.normal (nonempty : root ≠ []) {key : String} (isKey : IsEntryKey root key)
    : Path.textKey key = key
      ∧ (Path.key root ≠ "." → ∃ rest, key = Path.key root ++ rest)
      ∧ ∃ parts,
          Path.segments '/' '.' key.toList = (Path.names root).map Utf8.decodeLossy ++ parts
          ∧ ['.', '.'] ∉ parts := by
  obtain ⟨location, below, named, rfl⟩ := isKey
  have areSegments : ∀ name ∈ location, Path.IsSegment Path.slash Path.dot name :=
    fun name member => (named name member).toIsSegment
  have isKey := Path.key_foldl_child nonempty areSegments below
  refine ⟨?_, ?_, location.map Utf8.decodeLossy, ?_, ?_⟩
  · rw [← isKey, Path.textKey_key]
  · intro notHere
    unfold Path.under
    rw [if_neg notHere]
    split_ifs with isRoot
    · exact ⟨_, by rw [isRoot]⟩
    · exact ⟨_, String.append_assoc⟩
  · rw [← isKey, Path.key, Path.segments_keyOf _ fun _ => Path.isSegment_of_mem_names,
      Path.names_foldl_child nonempty areSegments, List.map_append]
  · intro parent
    obtain ⟨name, member, dots⟩ := List.mem_map.mp parent
    exact (named name member).notParent (Path.decodeLossy_eq_parent_iff.mp dots)

end Places

-----------------------------------------------------------------------------------------
-- Any walk from a root
-----------------------------------------------------------------------------------------

section MetFrom

variable {fileSystem : FileSystem} {root : Bytes} {node : Node} {met : List Visit}

/-- The regular files that a walk from a root meets are files below its start. -/
theorem visitOf_of_mem_met (started : start fileSystem root = .ok node)
    (walk : MetFrom fileSystem root met) {path : Bytes} {content : Content}
    (member : .file path content ∈ met)
    : ∃ file ∈ files root node, visitOf file = .file path content := by
  exact visitOf_of_mem_visits ((walk.perm_visits started).mem_iff.mp member)

/-- Exploring that succeeds has met every regular file below its start. -/
theorem visitOf_mem_met (started : start fileSystem root = .ok node)
    (walk : MetFrom fileSystem root met) {ruleset : Ruleset} {seen : Observations}
    (succeeds : (seen.matchVisits ruleset met).2 = none) {file : Bytes × Content}
    (member : file ∈ files root node)
    : visitOf file ∈ met := by
  have same := walk.perm_visits started
  have passes := Observations.matchVisits_succeeds_iff.mp succeeds
  simp only [same.mem_iff] at passes
  have readable := (succeeds_iff_readable ruleset.scope root root node).mp passes
  rw [same.mem_iff, visits_eq_of_readable root readable]
  exact List.mem_map_of_mem member

end MetFrom

end Walk

/-- Exploring adds no key but those of regular files that it meets, also up to a failure. -/
theorem Observations.met_of_holds {ruleset : Ruleset} {seen : Observations}
    {met : List Walk.Visit} {rule : Nat} {key : String}
    (held : (seen.matchVisits ruleset met).1.Holds rule key)
    : seen.Holds rule key
      ∨ ∃ path content, .file path content ∈ met ∧ Path.key path = key := by
  rcases ((matchVisits_spec ruleset seen met).1.holds rule key).mp held with before | gained
  · exact .inl before
  · rcases gained.2 with recorded | ⟨line, tested, _⟩
    · exact absurd recorded Walk.recorded_not_mem_events
    · obtain ⟨visit, reached, member⟩ := List.mem_flatMap.mp tested
      have isMet : visit ∈ met := List.mem_of_mem_take reached
      cases visit with
      | failed failure => cases member
      | file path content =>
          refine .inr ⟨path, content, isMet, ?_⟩
          simp only [Walk.Visit.events] at member
          split at member
          · exact (tested_mem_ofFile.mp member).2
          · cases member

/-- Of an entry, a run over a tree reports every expected file as missing whose key no entry below
the root can have.
-/
theorem Audit.mem_missing_of_not_isEntryKey {files : FileSystem} (wellFormed : files.WellFormed)
    {root : Bytes} {hindrance : Option Files.Hindrance} {entries : List (Bytes × Node)}
    (started : Walk.start files root = .ok (.directory hindrance entries)) {engine : Engine}
    {config : Configuration} {ruleset : Ruleset}
    (built : Ruleset.buildWith engine config = .ok ruleset) {order : Walk.Order}
    {report : Report} (ran : runTree ruleset files order root = .ok report) {position : Nat}
    {entry : RuleEntry} (isEntry : config.rules[position]? = some entry)
    : ∃ outcome : RuleReport,
        report.rules[position]? = some outcome
        ∧ ∀ file ∈ entry.expected,
            ¬Walk.IsEntryKey root (Path.textKey file) → Path.textKey file ∈ outcome.missing := by
  obtain ⟨nonempty, possible⟩ := Walk.possible_of_start wellFormed started
  obtain ⟨node, started', _, _, _, outcomes⟩ := runTree_shows ran
  obtain rfl := Except.ok.inj (started.symm.trans started')
  obtain ⟨rule, isRule, _, _, expected⟩ := Ruleset.rule_of_buildWith built isEntry
  obtain ⟨outcome, here, _, compares⟩ := outcomes.outcome isRule
  refine ⟨outcome, here, fun file isExpected elsewhere => (compares.missing _).mpr ⟨?_, ?_⟩⟩
  · exact (expected _).mpr (List.mem_map_of_mem isExpected)
  · rintro ⟨found, accepted, sameKey, _⟩
    have isFile := (List.mem_filter.mp accepted).1
    exact elsewhere (sameKey ▸ Walk.isEntryKey_of_mem_files nonempty possible isFile)

-----------------------------------------------------------------------------------------
-- Keys below a root
-----------------------------------------------------------------------------------------

/-- Below any root that leads to a directory, the key under which a walk meets an entry is the
texts of the names that lead there under the key of the root. Every walk meets files there only,
and all of them if it succeeds; exploring adds such keys only, also up to a failure. They are their
own keys, with the key of the root before them and without parents that the root does not have,
and whatever is expected under another key is missing from every report.
-/
theorem Audit.keys_below_root {files : FileSystem} (wellFormed : files.WellFormed)
    {root : Bytes} {hindrance : Option Files.Hindrance} {entries : List (Bytes × Node)}
    (leads : files.node .target root = .ok (.directory hindrance entries))
    : (∀ (location : Location) (found : Node),
        location ≠ []
        → (Node.directory hindrance entries).at? location = some found
        → Path.key (location.foldl Path.child root)
            = Path.under (Path.key root) (location.map Path.display))
      ∧ (∀ met path content,
          Walk.MetFrom files root met
          → .file path content ∈ met
          → ∃ (location : Location) (content' : Content),
              location ≠ []
              ∧ (Node.directory hindrance entries).at? location = some (.file content')
              ∧ path = location.foldl Path.child root)
      ∧ (∀ met (ruleset : Ruleset) (seen : Observations),
          Walk.MetFrom files root met
          → (seen.matchVisits ruleset met).2 = none
          → ∀ (location : Location) (content : Content),
              (Node.directory hindrance entries).at? location = some (.file content)
              → ∃ content', .file (location.foldl Path.child root) content' ∈ met)
      ∧ (∀ met (ruleset : Ruleset) (seen : Observations) rule key,
          Walk.MetFrom files root met
          → (seen.matchVisits ruleset met).1.Holds rule key
          → seen.Holds rule key ∨ Walk.IsEntryKey root key)
      ∧ (∀ (ruleset : Ruleset) (order : Walk.Order) (seen : Observations) rule key,
          (seen.explore ruleset files order root).1.Holds rule key
          → seen.Holds rule key ∨ Walk.IsEntryKey root key)
      ∧ (∀ key,
          Walk.IsEntryKey root key
          → Path.textKey key = key
            ∧ (Path.key root ≠ "." → ∃ rest, key = Path.key root ++ rest)
            ∧ ∃ parts,
                Path.segments '/' '.' key.toList
                  = (Path.names root).map Utf8.decodeLossy ++ parts
                ∧ ['.', '.'] ∉ parts)
      ∧ ∀ (engine : Engine) (config : Configuration) (ruleset : Ruleset) (order : Walk.Order)
          (report : Report),
          Ruleset.buildWith engine config = .ok ruleset
          → runTree ruleset files order root = .ok report
          → ∀ (position : Nat) (entry : RuleEntry),
              config.rules[position]? = some entry
              → ∃ outcome : RuleReport,
                  report.rules[position]? = some outcome
                  ∧ ∀ file ∈ entry.expected,
                      ¬Walk.IsEntryKey root (Path.textKey file)
                      → Path.textKey file ∈ outcome.missing := by
  have started := Walk.start_of_directory leads
  obtain ⟨nonempty, possible⟩ := Walk.possible_of_start wellFormed started
  have adds met (ruleset : Ruleset) (seen : Observations) (rule : Nat) (key : String)
      (walk : Walk.MetFrom files root met) (held : (seen.matchVisits ruleset met).1.Holds rule key)
      : seen.Holds rule key ∨ Walk.IsEntryKey root key := by
    refine (Observations.met_of_holds held).imp_right ?_
    rintro ⟨path, content, member, rfl⟩
    obtain ⟨file, isFile, visited⟩ := Walk.visitOf_of_mem_met started walk member
    obtain rfl : file.1 = path := (Walk.Visit.file.inj visited).1
    exact Walk.isEntryKey_of_mem_files nonempty possible isFile
  refine ⟨?_, ?_, ?_, adds, ?_, fun _ isKey => isKey.normal nonempty, ?_⟩
  · intro location found below here
    exact Walk.key_of_at? nonempty possible below here
  · intro met path content walk member
    obtain ⟨file, isFile, visited⟩ := Walk.visitOf_of_mem_met started walk member
    obtain ⟨location, below, here, isPath⟩ := Walk.exists_place_of_mem_files possible isFile
    refine ⟨location, file.2, below, here, ?_⟩
    rw [← isPath]
    exact (Walk.Visit.file.inj visited).1.symm
  · intro met ruleset seen walk succeeds location content here
    have isFile : (location.foldl Path.child root, content) ∈ Walk.files root _ :=
      (Walk.mem_files_iff possible).mpr ⟨location, here, rfl⟩
    exact ⟨_, Walk.visitOf_mem_met started walk succeeds isFile⟩
  · intro ruleset order seen rule key
    exact adds _ ruleset seen rule key (Walk.metFrom_visitsFrom files order root)
  · intro engine config ruleset order report built ran position entry isEntry
    exact mem_missing_of_not_isEntryKey wellFormed started built ran isEntry

/-- From the root of the tree, `f` is met under `/f`, so where `b` is expected it is missing. -/
theorem Audit.keys_below_root_sample
    : ∃ ruleset report,
        Ruleset.buildWith .standard sampleConfiguration = .ok ruleset
        ∧ runTree ruleset sampleFiles .listed [Path.slash] = .ok report
        ∧ Path.key (Path.child [Path.slash] [0x66]) = "/f"
        ∧ ∃ outcome : RuleReport,
            report.rules[0]? = some outcome ∧ "b" ∈ outcome.missing := by
  have leads : sampleFiles.node .target [Path.slash] = .ok sampleFiles.root := rfl
  obtain ⟨keyed, _, _, _, _, normal, missing⟩ := keys_below_root wellFormed_sampleFiles leads
  have elsewhere : ¬Walk.IsEntryKey [Path.slash] "b" := by
    intro isKey
    obtain ⟨rest, begins⟩ := (normal _ isKey).2.1 (by decide)
    have root : Path.key [Path.slash] = "/" := by decide
    have first := congrArg (fun text : String => text.toList.head?) begins
    simp [root] at first
  obtain ⟨ruleset, built⟩
      : ∃ ruleset, Ruleset.buildWith .standard sampleConfiguration = .ok ruleset :=
    ⟨_, rfl⟩
  have readable : Walk.Readable ruleset.scope.accepts [Path.slash] sampleFiles.root := by
    refine List.forall_mem_cons.mpr ⟨⟨rfl, rfl⟩, ?_⟩
    refine List.forall_mem_cons.mpr ⟨fun _ => ⟨rfl, rfl⟩, ?_⟩
    exact List.forall_mem_cons.mpr ⟨fun _ => ⟨rfl, rfl⟩, List.forall_mem_nil _⟩
  obtain ⟨report, ran⟩ := exists_runTree (Walk.start_of_directory leads) readable .listed
  obtain ⟨outcome, here, isMissing⟩ :=
    missing .standard sampleConfiguration ruleset .listed report built ran 0 _ rfl
  have isKey : Path.key (Path.child [Path.slash] [0x66]) = Path.under "/" ["f"] :=
    keyed [[0x66]] _ (List.cons_ne_nil _ _) rfl
  refine ⟨ruleset, report, built, ran, isKey.trans (by decide), outcome, here, ?_⟩
  exact isMissing "./b" (List.mem_singleton_self _) elsewhere

end PatternAudit
