import PatternAudit.Proofs.Files.Listings
import PatternAudit.Proofs.Walk.Below

/-! Keys of the files that a walk meets. Where the names in every listing decode to different
texts, no two of the files have the same key.
-/

namespace PatternAudit.Walk

open Files (Node Content FileSystem IsListing DecodesApart)

-----------------------------------------------------------------------------------------
-- Paths of visits
-----------------------------------------------------------------------------------------

/-- The path of a file that is visited. -/
def Visit.path? : Visit → Option Bytes
  | .file path _ => some path
  | .failed _ => none

/-- The paths of the files that are visited. -/
def paths (met : List Visit) : List Bytes :=
  met.filterMap Visit.path?

/-- The paths of two parts of a walk are those of the walk. -/
theorem paths_append (first second : List Visit)
    : paths (first ++ second) = paths first ++ paths second :=
  List.filterMap_append

/-- The files that are visited in a directory, in listed order, are visited in its entries. -/
theorem paths_visits_directory_sublist (root path : Bytes) (hindrance : Option Files.Hindrance)
    (entries : List (Bytes × Node))
    : (paths (visits .listed root path (.directory hindrance entries))).Sublist
        (paths ((visitsOfEach .listed root path entries).map (·.2)).flatten) := by
  rw [visits_directory]
  cases hindranceUnder path hindrance with
  | none => exact .refl _
  | some hindered =>
      cases hindered with
      | refused fault => exact List.nil_sublist _
      | broken listed fault =>
          have parts : visitsOfEach .listed root path entries
              = (visitsOfEach .listed root path entries).take listed
                ++ (visitsOfEach .listed root path entries).drop listed :=
            (List.take_append_drop _ _).symm
          rw [parts, List.map_append, List.flatten_append, paths_append, ← parts]
          simp [Order.breakOff, Order.arrange, paths, Visit.path?]

/-- The names of a path as texts. -/
def texts (path : Bytes) : List (List Char) :=
  (Path.names path).map Utf8.decodeLossy

/-- The path of an entry has one text more than its directory. -/
theorem texts_child {directory name : Bytes} (nonempty : directory ≠ [])
    (named : Files.IsName name)
    : texts (Path.child directory name) = texts directory ++ [Utf8.decodeLossy name] := by
  rw [texts, Path.names_child nonempty named.toIsSegment, List.map_append]
  rfl

/-- Listings whose names are possible and decode to different texts. -/
structure IsTold (entries : List (Bytes × Node)) : Prop extends IsListing entries where
  apart : DecodesApart entries

-----------------------------------------------------------------------------------------
-- Paths below a path
-----------------------------------------------------------------------------------------

mutual

/-- The paths that are visited continue the path of the walk, by recursion on the tree. -/
theorem texts_prefix_of_mem_paths (root : Bytes) {path : Bytes} (nonempty : path ≠ [])
    : {node : Node}
      → node.Everywhere IsListing
      → ∀ place ∈ paths (visits .listed root path node), texts path <+: texts place
  | .file content, _ => by simp [visits, paths, Visit.path?]
  | .special _, _ => by simp [visits, paths]
  | .link _, _ => by simp [visits, paths]
  | .directory hindrance entries, everywhere => by
      intro place member
      obtain ⟨entry, _, continues⟩ :=
        texts_prefix_of_mem_pathsEach root nonempty (everywhere.entries everywhere.listing) place
          ((paths_visits_directory_sublist root path hindrance entries).subset member)
      exact (List.prefix_append _ _).trans continues
termination_by structural node => node

/-- The paths that are visited below entries continue the path of the walk by one of their names.
-/
theorem texts_prefix_of_mem_pathsEach (root : Bytes) {path : Bytes} (nonempty : path ≠ [])
    : {entries : List (Bytes × Node)}
      → (∀ entry ∈ entries, Files.IsName entry.1 ∧ entry.2.Everywhere IsListing)
      → ∀ place ∈ paths ((visitsOfEach .listed root path entries).map (·.2)).flatten,
          ∃ entry ∈ entries, texts path ++ [Utf8.decodeLossy entry.1] <+: texts place
  | [], _ => by simp [visitsOfEach, paths]
  | (name, node) :: entries, possible => by
      obtain ⟨⟨named, everywhere⟩, rest⟩ := List.forall_mem_cons.mp possible
      intro place member
      rw [visitsOfEach, List.map_cons, List.flatten_cons, paths_append, List.mem_append]
        at member
      rcases member with here | later
      · refine ⟨(name, node), List.mem_cons_self, ?_⟩
        rw [← texts_child nonempty named]
        exact texts_prefix_of_mem_paths root (Path.child_ne_nil nonempty name) everywhere place here
      · obtain ⟨entry, isEntry, continues⟩ :=
          texts_prefix_of_mem_pathsEach root nonempty rest place later
        exact ⟨entry, List.mem_cons_of_mem _ isEntry, continues⟩
termination_by structural entries => entries

end

-----------------------------------------------------------------------------------------
-- Different keys
-----------------------------------------------------------------------------------------

mutual

/-- No two visited paths have the same texts, by recursion on the tree. -/
theorem nodup_texts_paths (root : Bytes) {path : Bytes} (nonempty : path ≠ [])
    : {node : Node}
      → node.Everywhere IsTold
      → ((paths (visits .listed root path node)).map texts).Nodup
  | .file _, _ => by simp [visits, paths, Visit.path?]
  | .special _, _ => by simp [visits, paths]
  | .link _, _ => by simp [visits, paths]
  | .directory hindrance entries, everywhere => by
      have told := everywhere.listing
      have apart := nodup_texts_pathsEach root nonempty (everywhere.entries told.toIsListing)
        told.apart
      exact ((paths_visits_directory_sublist root path hindrance entries).map texts).nodup apart
termination_by structural node => node

/-- The same below some entries of a directory: paths below different entries differ in the text
of the entry's name.
-/
theorem nodup_texts_pathsEach (root : Bytes) {path : Bytes} (nonempty : path ≠ [])
    : {entries : List (Bytes × Node)}
      → (∀ entry ∈ entries, Files.IsName entry.1 ∧ entry.2.Everywhere IsTold)
      → DecodesApart entries
      → ((paths ((visitsOfEach .listed root path entries).map (·.2)).flatten).map texts).Nodup
  | [], _, _ => by simp [visitsOfEach, paths]
  | (name, node) :: entries, told, apart => by
      obtain ⟨⟨named, everywhere⟩, rest⟩ := List.forall_mem_cons.mp told
      rw [DecodesApart, List.map_cons, List.nodup_cons] at apart
      rw [visitsOfEach, List.map_cons, List.flatten_cons, paths_append, List.map_append,
        List.nodup_append]
      refine ⟨?_, ?_, ?_⟩
      · exact nodup_texts_paths root (Path.child_ne_nil nonempty name) everywhere
      · exact nodup_texts_pathsEach root nonempty rest apart.2
      -- Equal texts would continue the path of the directory by the texts of two names.
      · intro left isLeft right isRight same
        obtain ⟨place, here, rfl⟩ := List.mem_map.mp isLeft
        obtain ⟨place', later, rfl⟩ := List.mem_map.mp isRight
        have continues :=
          texts_prefix_of_mem_paths root (Path.child_ne_nil nonempty name)
            (everywhere.mono fun _ told => told.toIsListing) place here
        obtain ⟨entry, isEntry, continues'⟩ :=
          texts_prefix_of_mem_pathsEach root nonempty
            (fun entry isEntry =>
              (rest entry isEntry).imp_right (·.mono fun _ told => told.toIsListing))
            place' later
        rw [texts_child nonempty named, same] at continues
        have sameText : Utf8.decodeLossy name = Utf8.decodeLossy entry.1 := by
          have equal := List.prefix_of_prefix_length_le continues continues' (by simp)
          have aligned := equal.eq_of_length (by simp)
          exact List.singleton_inj.mp (List.append_cancel_left aligned)
        exact apart.1 (sameText ▸ List.mem_map_of_mem isEntry)
termination_by structural entries => entries

end

/-- Where walks start in a file system that a system could hold, the root is written somehow and
all listings are possible.
-/
theorem possible_of_start {files : FileSystem} (wellFormed : files.WellFormed) {root : Bytes}
    {node : Node} (started : start files root = .ok node)
    : root ≠ [] ∧ node.Everywhere IsListing := by
  have reached : ∃ purpose, files.node purpose root = .ok node := by
    rcases node_of_start started with entered | followed
    · exact ⟨_, entered⟩
    · exact ⟨_, followed⟩
  obtain ⟨purpose, reached⟩ := reached
  obtain ⟨location, resolved, here⟩ := FileSystem.node_eq_ok_iff.mp reached
  obtain ⟨allowed, _⟩ := FileSystem.resolve_eq_ok_iff.mp resolved
  have everywhere : files.root.Everywhere IsListing := wellFormed
  exact ⟨(FileSystem.checkPath_eq_ok_iff.mp allowed).2.1, everywhere.at? here⟩

/-- Any walk from a root meets files with different keys, each of them once. Witness: keys are
told apart by the texts of the paths' names.
-/
theorem nodup_keys_of_metFrom {files : FileSystem} (wellFormed : files.WellFormed)
    {root : Bytes} {node : Node} (started : start files root = .ok node)
    (apart : node.Everywhere DecodesApart) {met : List Visit} (walk : MetFrom files root met)
    : ((paths met).map Path.key).Nodup := by
  obtain ⟨nonempty, possible⟩ := possible_of_start wellFormed started
  have told : node.Everywhere IsTold := fun location hindrance entries found =>
    ⟨possible location hindrance entries found, apart location hindrance entries found⟩
  have same := walk.perm_visits started
  have byText : ((paths met).map texts).Nodup :=
    ((same.filterMap _).map _).nodup_iff.mpr (nodup_texts_paths root nonempty told)
  refine List.pairwise_map.mpr ((List.pairwise_map.mp byText).imp fun different sameKey => ?_)
  exact different (Path.key_eq_key_iff.mp sameKey).2

/-- The files in scope of a readable tree have different keys, because a walk visits each of them.
-/
theorem nodup_keys_accepted {files : FileSystem} (wellFormed : files.WellFormed) {root : Bytes}
    {node : Node} (started : start files root = .ok node)
    (apart : node.Everywhere DecodesApart) {accepts : String → Bool}
    (readable : Readable accepts root node)
    : ((accepted accepts root node).map fun file => Path.key file.1).Nodup := by
  have walk : MetFrom files root (visits .listed root root node) :=
    .walked started (met_visits .listed root root node)
  have distinct := nodup_keys_of_metFrom wellFormed started apart walk
  have visited : (paths (visits .listed root root node)).map Path.key
      = (Walk.files root node).map fun file => Path.key file.1 := by
    rw [visits_eq_of_readable root readable, paths, List.filterMap_map]
    exact (congrArg _ (congrFun List.filterMap_eq_map (Walk.files root node))).trans List.map_map
  rw [visited] at distinct
  exact (List.filter_sublist.map _).nodup distinct

end PatternAudit.Walk
