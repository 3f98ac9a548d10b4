import PatternAudit.Proofs.Files.Descent
import PatternAudit.Proofs.Path.Segments

/-! Where paths lead in a file system that a system could hold. A path that leads to a directory
leads, with the name of an entry added, to that entry.
-/

namespace PatternAudit.Files

-----------------------------------------------------------------------------------------
-- Resolving names
-----------------------------------------------------------------------------------------

section Resolving

variable {root : Node}

/-- A resolution that arrived can be taken further where no link is in the way, by induction on
the links that may still be followed.
-/
theorem resolveFrom_append {links : Nat} {place location : Location} {names more : List Bytes}
    {destination : Destination}
    (resolved : resolveFrom root .target links place names = .ok (.existing location))
    (arrives : descend root .target location more = .arrived destination)
    : resolveFrom root .target links place (names ++ more) = .ok destination := by
  induction links generalizing place names with
  | zero =>
      rw [resolveFrom] at resolved ⊢
      cases descended : descend root .target place names with
      | arrived reached =>
          obtain rfl : reached = .existing location := by simpa [descended] using resolved
          rw [descend_append_of_arrived more descended, arrives]
      | link | failed => simp [descended] at resolved
  | succ links ih =>
      rw [resolveFrom] at resolved ⊢
      cases descended : descend root .target place names with
      | arrived reached =>
          obtain rfl : reached = .existing location := by simpa [descended] using resolved
          rw [descend_append_of_arrived more descended, arrives]
      | link directory target rest =>
          rw [descended] at resolved
          rw [descend_append_of_link more descended]
          dsimp only
          rw [← List.append_assoc]
          exact ih resolved
      | failed fault => simp [descended] at resolved

/-- An entry that is no link is found through links too. -/
theorem resolveFrom_entry {links : Nat} {place location : Location} {names : List Bytes}
    (resolved : resolveFrom root .entry links place names = .ok (.existing location))
    (notLink : ∀ target, root.at? location ≠ some (.link target))
    : resolveFrom root .target links place names = .ok (.existing location) := by
  induction links generalizing place names with
  | zero =>
      rw [resolveFrom] at resolved ⊢
      rcases descend_entry root place names with same | ⟨stop, target, stops, isLink⟩
      · rwa [← same]
      · obtain rfl : stop = location := by simpa [stops] using resolved
        exact absurd isLink (notLink target)
  | succ links ih =>
      rw [resolveFrom] at resolved ⊢
      rcases descend_entry root place names with same | ⟨stop, target, stops, isLink⟩
      · rw [← same]
        cases descended : descend root .entry place names with
        | arrived reached =>
            rw [descended] at resolved
            exact resolved
        | failed fault => simp [descended] at resolved
        | link directory target rest =>
            rw [descended] at resolved
            exact ih resolved
      · obtain rfl : stop = location := by simpa [stops] using resolved
        exact absurd isLink (notLink target)

/-- What is found through links is found as an entry too, unless a link stands there itself. -/
theorem resolveFrom_entry_of_target {links : Nat} {place location : Location}
    {names : List Bytes}
    (resolved : resolveFrom root .target links place names = .ok (.existing location))
    : resolveFrom root .entry links place names = .ok (.existing location)
      ∨ ∃ stop target,
          resolveFrom root .entry links place names = .ok (.existing stop)
          ∧ root.at? stop = some (.link target) := by
  induction links generalizing place names with
  | zero =>
      rw [resolveFrom] at resolved ⊢
      rcases descend_entry root place names with same | ⟨stop, target, stops, isLink⟩
      · rw [same]
        exact .inl resolved
      · exact .inr ⟨stop, target, by simp [stops], isLink⟩
  | succ links ih =>
      rw [resolveFrom] at resolved ⊢
      rcases descend_entry root place names with same | ⟨stop, target, stops, isLink⟩
      · rw [same]
        cases descended : descend root .target place names with
        | arrived reached =>
            rw [descended] at resolved
            exact .inl resolved
        | failed fault => simp [descended] at resolved
        | link directory target rest =>
            rw [descended] at resolved
            exact ih resolved
      · exact .inr ⟨stop, target, by simp [stops], isLink⟩

/-- What is found with the wish for a directory is found without it. -/
theorem resolveFrom_trailing {links : Nat} {place location : Location} {names : List Bytes}
    (resolved : resolveFrom root .target links place (names ++ [[]]) = .ok (.existing location))
    : resolveFrom root .target links place names = .ok (.existing location) := by
  induction links generalizing place names with
  | zero =>
      rw [resolveFrom] at resolved ⊢
      rcases descend_trailing root place names with
        ⟨stop, wished, plain⟩ | ⟨directory, target, rest, wished, plain⟩ | ⟨fault, wished⟩
      · simpa [wished, plain] using resolved
      · simp [wished] at resolved
      · simp [wished] at resolved
  | succ links ih =>
      rw [resolveFrom] at resolved ⊢
      rcases descend_trailing root place names with
        ⟨stop, wished, plain⟩ | ⟨directory, target, rest, wished, plain⟩ | ⟨fault, wished⟩
      · simpa [wished, plain] using resolved
      · simp only [wished] at resolved
        simp only [plain]
        rw [← List.append_assoc] at resolved
        exact ih resolved
      · simp [wished] at resolved

end Resolving

-----------------------------------------------------------------------------------------
-- Names in directories
-----------------------------------------------------------------------------------------

/-- A name that an entry of a directory can have. -/
structure IsName (name : Bytes) : Prop extends Path.IsSegment Path.slash Path.dot name where
  notParent : name ≠ [Path.dot, Path.dot]
  notNul : 0 ∉ name
  short : name.length ≤ nameLimit

instance (name : Bytes) : Decidable (IsName name) :=
  decidable_of_iff
    (((name ≠ [] ∧ name ≠ [Path.dot] ∧ Path.slash ∉ name) ∧ name ≠ [Path.dot, Path.dot])
      ∧ 0 ∉ name ∧ name.length ≤ nameLimit)
    ⟨fun ⟨⟨⟨nonempty, notDot, whole⟩, notParent⟩, notNul, short⟩ =>
      ⟨⟨nonempty, notDot, whole⟩, notParent, notNul, short⟩,
    fun ⟨⟨nonempty, notDot, whole⟩, notParent, notNul, short⟩ =>
      ⟨⟨⟨nonempty, notDot, whole⟩, notParent⟩, notNul, short⟩⟩

/-- A listing that a directory can have: every entry has a name of its own. -/
structure IsListing (entries : List (Bytes × Node)) : Prop where
  distinct : (entries.map (·.1)).Nodup
  named : ∀ entry ∈ entries, IsName entry.1

instance (entries : List (Bytes × Node)) : Decidable (IsListing entries) :=
  decidable_of_iff ((entries.map (·.1)).Nodup ∧ ∀ entry ∈ entries, IsName entry.1)
    ⟨fun ⟨distinct, named⟩ => ⟨distinct, named⟩, fun ⟨distinct, named⟩ => ⟨distinct, named⟩⟩

/-- A file system that a system could hold: the listings of all directories are possible. -/
def FileSystem.WellFormed (files : FileSystem) : Prop :=
  ∀ location hindrance entries,
    files.root.at? location = some (.directory hindrance entries) → IsListing entries

/-- Distinct names are looked up to their own entries. -/
theorem IsListing.lookup {entries : List (Bytes × Node)} (listing : IsListing entries)
    {name : Bytes} {node : Node} (member : (name, node) ∈ entries)
    : entries.lookup name = some node := by
  obtain ⟨before, after, rfl⟩ := List.append_of_mem member
  refine List.lookup_eq_some_iff.mpr ⟨before, after, rfl, fun entry earlier => ?_⟩
  have distinct := listing.distinct
  rw [List.map_append, List.map_cons, List.nodup_append] at distinct
  have other := distinct.2.2 entry.1 (List.mem_map_of_mem earlier) name List.mem_cons_self
  simpa using other.symm

/-- The name of an entry that is no link leads to it. -/
theorem descend_name {root : Node} {place : Location} {hindrance : Option Hindrance}
    {entries : List (Bytes × Node)} {name : Bytes} {node : Node}
    (directory : root.at? place = some (.directory hindrance entries)) (named : IsName name)
    (looked : entries.lookup name = some node) (notLink : ∀ target, node ≠ .link target)
    : descend root .target place [name] = .arrived (.existing (place ++ [name])) := by
  have moved : move root place name = .step (place ++ [name]) := by
    have short : ¬nameLimit < name.length := Nat.not_lt.mpr named.short
    unfold move
    rw [directory]
    cases node with
    | link target => exact absurd rfl (notLink target)
    | file | special | directory =>
        simp [named.nonempty, named.notDot, named.notParent, short, looked]
  rw [descend_cons (by decide), moved]
  rfl

/-- The names written in a path, without the wish for a directory that a slash at the end makes.
-/
def writtenNames (path : Bytes) : List Bytes :=
  (Path.pieces Path.slash path).filter (!·.isEmpty)

/-- Without a slash at its end, a path has its written names only. -/
theorem namesOf_of_untrailing {path : Bytes} (untrailing : path.getLast? ≠ some Path.slash)
    : namesOf path = writtenNames path := by
  simp [namesOf, writtenNames, untrailing]

/-- With a slash at its end, a path has an empty name after its written names. -/
theorem namesOf_of_trailing {path : Bytes} (trailing : path.getLast? = some Path.slash)
    : namesOf path = writtenNames path ++ [[]] := by
  simp [namesOf, writtenNames, trailing]

/-- A path has a name to follow, by induction on its bytes. -/
theorem namesOf_ne_nil {path : Bytes} (nonempty : path ≠ []) : namesOf path ≠ [] := by
  by_cases trailing : path.getLast? = some Path.slash
  · rw [namesOf_of_trailing trailing]
    simp
  · rw [namesOf_of_untrailing trailing]
    induction path with
    | nil => exact absurd rfl nonempty
    | cons byte path ih =>
        rw [writtenNames, Path.pieces]
        by_cases cut : byte = Path.slash
        · have more : path ≠ [] := by
            rintro rfl
            exact trailing (by simp [cut])
          have untrailing : path.getLast? ≠ some Path.slash := by
            rwa [List.getLast?_cons_of_ne_nil more] at trailing
          rw [if_pos cut, List.filter_cons_of_neg (by simp)]
          exact ih more untrailing
        · cases Path.pieces Path.slash path <;> simp [cut]

/-- The names on both sides of a slash are those of the two sides. -/
theorem writtenNames_append_slash (before after : Bytes)
    : writtenNames (before ++ Path.slash :: after)
      = writtenNames before ++ writtenNames after := by
  rw [writtenNames, Path.pieces_append_separator, List.filter_append, writtenNames,
    writtenNames]

/-- The path of an entry has one written name more than its directory. -/
theorem namesOf_child {directory name : Bytes} (nonempty : directory ≠ []) (named : IsName name)
    : namesOf (Path.child directory name) = writtenNames directory ++ [name] := by
  obtain ⟨before, written, path⟩ := Path.child_eq nonempty name
  have untrailing : (before ++ Path.slash :: name).getLast? ≠ some Path.slash := by
    rcases List.eq_nil_or_concat name with rfl | ⟨front, last, rfl⟩
    · exact absurd rfl named.nonempty
    · have notSlash : last ≠ Path.slash := by
        rintro rfl
        exact named.whole (by simp)
      rw [List.concat_eq_append, ← List.cons_append, ← List.append_assoc, List.getLast?_concat]
      exact fun same => notSlash (Option.some.inj same)
  have same : writtenNames before = writtenNames directory := by
    rcases written with rfl | rfl
    · rfl
    · rw [writtenNames_append_slash]
      exact (List.append_nil _).symm
  have alone : writtenNames name = [name] := by
    simp [writtenNames, Path.pieces_of_not_mem named.whole, named.nonempty]
  rw [path, namesOf_of_untrailing untrailing, writtenNames_append_slash, same, alone]

-----------------------------------------------------------------------------------------
-- Paths that lead somewhere
-----------------------------------------------------------------------------------------

/-- A path leads, through links, to a node. -/
structure FileSystem.Leads (files : FileSystem) (path : Bytes) (location : Location)
    (node : Node)
    : Prop where
  resolved : files.resolve .target path = .ok (.existing location)
  found : files.root.at? location = some node

namespace FileSystem

/-- A path resolves if it can be handed to the system and its names resolve. -/
theorem resolve_eq_ok_iff {files : FileSystem} {purpose : Purpose} {path : Bytes}
    {destination : Destination}
    : files.resolve purpose path = .ok destination
      ↔ checkPath path = .ok ()
        ∧ resolveFrom files.root purpose linkLimit
            (if Path.isAbsolute path then [] else files.workingDirectory) (namesOf path)
          = .ok destination := by
  rw [resolve]
  cases checkPath path <;> simp [bind, Except.bind]

/-- The node of a path is the one at the place that it resolves to. -/
theorem node_eq_ok_iff {files : FileSystem} {purpose : Purpose} {path : Bytes} {node : Node}
    : files.node purpose path = .ok node
      ↔ ∃ location,
          files.resolve purpose path = .ok (.existing location)
          ∧ files.root.at? location = some node := by
  rw [FileSystem.node]
  cases files.resolve purpose path with
  | error fault => simp [bind, Except.bind]
  | ok destination =>
      cases destination with
      | absent location => simp [bind, Except.bind]
      | existing location =>
          cases found : files.root.at? location <;> simp [bind, Except.bind, found]

/-- A path that resolves also resolves without the wish for a directory. -/
theorem resolveFrom_writtenNames {files : FileSystem} {path : Bytes} {location : Location}
    (resolved : files.resolve .target path = .ok (.existing location))
    : resolveFrom files.root .target linkLimit
        (if Path.isAbsolute path then [] else files.workingDirectory) (writtenNames path)
      = .ok (.existing location) := by
  obtain ⟨_, follows⟩ := resolve_eq_ok_iff.mp resolved
  by_cases trailing : path.getLast? = some Path.slash
  · rw [namesOf_of_trailing trailing] at follows
    exact resolveFrom_trailing follows
  · rwa [namesOf_of_untrailing trailing] at follows

/-- A path can be handed to the system exactly if it has some bytes, none of them NUL, and not
too many.
-/
theorem checkPath_eq_ok_iff {path : Bytes}
    : checkPath path = .ok () ↔ 0 ∉ path ∧ path ≠ [] ∧ path.length ≤ pathLimit := by
  unfold checkPath
  split_ifs <;> simp_all

/-- A node that is found through links is found as an entry too, unless its entry is a link. -/
theorem node_entry_of_target {files : FileSystem} {path : Bytes} {node : Node}
    (reached : files.node .target path = .ok node)
    : files.node .entry path = .ok node
      ∨ ∃ target, files.node .entry path = .ok (.link target) := by
  obtain ⟨location, resolved, found⟩ := node_eq_ok_iff.mp reached
  obtain ⟨allowed, follows⟩ := resolve_eq_ok_iff.mp resolved
  rcases resolveFrom_entry_of_target follows with entered | ⟨stop, target, entered, isLink⟩
  · exact .inl (node_eq_ok_iff.mpr ⟨location, resolve_eq_ok_iff.mpr ⟨allowed, entered⟩, found⟩)
  · refine .inr ⟨target, node_eq_ok_iff.mpr ⟨stop, ?_, isLink⟩⟩
    exact resolve_eq_ok_iff.mpr ⟨allowed, entered⟩

namespace Leads

variable {files : FileSystem} {path : Bytes} {location : Location}

/-- What a path leads to is its node. -/
theorem node {node : Node} (leads : files.Leads path location node)
    : files.node .target path = .ok node :=
  node_eq_ok_iff.mpr ⟨location, leads.resolved, leads.found⟩

/-- A path that leads to a directory leads, with a name added, to the entry of that name. -/
theorem child {hindrance : Option Hindrance} {entries : List (Bytes × Node)} {name : Bytes}
    {node : Node} (leads : files.Leads path location (.directory hindrance entries))
    (listing : IsListing entries) (member : (name, node) ∈ entries)
    (notLink : ∀ target, node ≠ .link target)
    (short : (Path.child path name).length ≤ pathLimit)
    : files.Leads (Path.child path name) (location ++ [name]) node where
  resolved := by
    have named : IsName name := listing.named _ member
    obtain ⟨allowed, _⟩ := resolve_eq_ok_iff.mp leads.resolved
    obtain ⟨notNul, nonempty, _⟩ := checkPath_eq_ok_iff.mp allowed
    refine resolve_eq_ok_iff.mpr ⟨checkPath_eq_ok_iff.mpr ⟨?_, ?_, short⟩, ?_⟩
    · obtain ⟨before, written, path⟩ := Path.child_eq nonempty name
      have clean : 0 ∉ before := by
        rcases written with rfl | rfl
        · exact notNul
        · exact fun found => notNul (List.mem_append_left _ found)
      simp [path, clean, named.notNul, Path.slash]
    · obtain ⟨before, _, path⟩ := Path.child_eq nonempty name
      simp [path]
    · rw [Path.isAbsolute_child nonempty, namesOf_child nonempty named]
      exact resolveFrom_append (resolveFrom_writtenNames leads.resolved)
        (descend_name leads.found named (listing.lookup member) notLink)
  found := by
    rw [Node.at?_append, leads.found]
    simp [Node.at?, listing.lookup member]

/-- An entry that is no link is where its path leads. -/
theorem of_entry {node : Node}
    (resolved : files.resolve .entry path = .ok (.existing location))
    (found : files.root.at? location = some node) (notLink : ∀ target, node ≠ .link target)
    : files.Leads path location node where
  resolved := by
    obtain ⟨allowed, follows⟩ := resolve_eq_ok_iff.mp resolved
    refine resolve_eq_ok_iff.mpr ⟨allowed, resolveFrom_entry follows fun target isLink => ?_⟩
    exact notLink target (Option.some.inj (found.symm.trans isLink))
  found := found

end Leads

end FileSystem

end PatternAudit.Files
