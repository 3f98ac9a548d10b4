import Mathlib.Data.List.Basic
import PatternAudit.Files.Change
import PatternAudit.Proofs.Files.Listings

/-! Writing a file. One place gets what is written, or as much of it as there is room for, and every
other place keeps what it has. So every path leads where it led before; only the paths that led to
that place while nothing was there have something to lead to now.
-/

namespace PatternAudit.Files

-----------------------------------------------------------------------------------------
-- Putting a file at a place
-----------------------------------------------------------------------------------------

/-- A node without what is below it. -/
def Node.bare : Node → Node
  | directory hindrance _ => directory hindrance []
  | node => node

/-- A new node is found under its name, and the other names keep theirs. -/
theorem lookup_setEntry (name other : Bytes) (new : Node) (entries : List (Bytes × Node))
    : (setEntry name (some new) entries).lookup other
      = if other = name then some new else entries.lookup other := by
  induction entries with
  | nil => grind [setEntry]
  | cons entry entries ih =>
      obtain ⟨first, node⟩ := entry
      grind [setEntry]

/-- What a name in a directory stands for. -/
theorem Node.at?_child {root : Node} {place : Location} {hindrance : Option Hindrance}
    {entries : List (Bytes × Node)} (here : root.at? place = some (.directory hindrance entries))
    (name : Bytes)
    : root.at? (place ++ [name]) = entries.lookup name := by
  rw [at?_append, here]
  cases looked : entries.lookup name <;> simp [at?, looked]

/-- What is put into a directory is there, by induction on the way to it. -/
theorem Node.at?_set_self {root : Node} {directory : Location} {hindrance : Option Hindrance}
    {entries : List (Bytes × Node)}
    (here : root.at? directory = some (.directory hindrance entries)) (name : Bytes) (new : Node)
    : (root.set (some new) (directory ++ [name])).at? (directory ++ [name]) = some new := by
  induction directory generalizing root with
  | nil =>
      obtain rfl : root = .directory hindrance entries := by simpa [at?] using here
      simp [set, at?, lookup_setEntry]
  | cons first directory ih =>
      cases root with
      | directory refused listed =>
          cases looked : listed.lookup first with
          | none => simp [at?, looked] at here
          | some child =>
              have below : child.at? directory = some (.directory hindrance entries) := by
                simpa [at?, looked] using here
              simp [set, at?, looked, lookup_setEntry, ih below]
      | file | special | link => cases here

/-- Other places keep what they have if nothing is below the place, before and after; by induction
on the way to it.
-/
theorem Node.at?_set_other {root new : Node} {directory other : Location}
    {hindrance : Option Hindrance} {entries : List (Bytes × Node)}
    (here : root.at? directory = some (.directory hindrance entries)) {name : Bytes}
    (leaf : new.isLeaf)
    (free : ∀ node, root.at? (directory ++ [name]) = some node → node.isLeaf)
    (apart : other ≠ directory ++ [name])
    : ((root.set (some new) (directory ++ [name])).at? other).map bare
      = (root.at? other).map bare := by
  induction directory generalizing root other with
  | nil =>
      obtain rfl : root = .directory hindrance entries := by simpa [at?] using here
      cases other with
      | nil => simp [set, at?, bare]
      | cons next other =>
          by_cases same : next = name
          · subst same
            cases other with
            | nil => exact absurd rfl apart
            | cons further other =>
                have before : (entries.lookup next).bind (·.at? (further :: other)) = none := by
                  cases looked : entries.lookup next with
                  | none => rfl
                  | some old =>
                      exact at?_of_isLeaf (free old (by simp [at?, looked])) further other
                simp [set, at?, lookup_setEntry, at?_of_isLeaf leaf, before]
          · simp [set, at?, lookup_setEntry, same]
  | cons first directory ih =>
      cases root with
      | directory refused listed =>
          cases looked : listed.lookup first with
          | none => simp [at?, looked] at here
          | some child =>
              have below : child.at? directory = some (.directory hindrance entries) := by
                simpa [at?, looked] using here
              have freeBelow (node : Node)
                  (found : child.at? (directory ++ [name]) = some node)
                  : node.isLeaf :=
                free node (by simpa [at?, looked] using found)
              cases other with
              | nil => simp [set, at?, looked, bare]
              | cons next other =>
                  by_cases same : next = first
                  · subst same
                    have apartBelow : other ≠ directory ++ [name] := by
                      rintro rfl
                      exact apart rfl
                    simpa [set, at?, looked, lookup_setEntry] using ih below freeBelow apartBelow
                  · simp [set, at?, looked, lookup_setEntry, same]
      | file | special | link => cases here

/-- One tree is another with a file written at a place, where no file was or another one. -/
structure Wrote (before after : Node) (place : Location) (content : Content) : Prop where
  free : before.at? place = none ∨ ∃ old, before.at? place = some (.file old)
  written : after.at? place = some (.file content)
  kept
    : ∀ other, other ≠ place →
        (after.at? other).map Node.bare = (before.at? other).map Node.bare

/-- A file that is put into a directory is written there. -/
theorem Node.wrote_set {root : Node} {directory : Location} {name : Bytes}
    {hindrance : Option Hindrance} {entries : List (Bytes × Node)}
    (here : root.at? directory = some (.directory hindrance entries))
    (free
      : root.at? (directory ++ [name]) = none
        ∨ ∃ old, root.at? (directory ++ [name]) = some (.file old))
    (content : Content)
    : Wrote root (root.set (some (.file content)) (directory ++ [name])) (directory ++ [name])
        content where
  free := free
  written := at?_set_self here name _
  kept := by
    refine fun other apart => at?_set_other here rfl (fun node found => ?_) apart
    rcases free with absent | ⟨old, present⟩
    · simp [absent] at found
    · obtain rfl : .file old = node := by simpa [present] using found
      rfl

/-- A file that replaces another one is written at its place. -/
theorem Node.wrote_set_file {root : Node} {place : Location} {old : Content}
    (present : root.at? place = some (.file old)) (content : Content)
    : Wrote root (root.set (some (.file content)) place) place content := by
  rcases List.eq_nil_or_concat' place with rfl | ⟨directory, name, rfl⟩
  · obtain rfl : root = .file old := by simpa [at?] using present
    refine ⟨.inr ⟨old, rfl⟩, rfl, fun other apart => ?_⟩
    cases other with
    | nil => exact absurd rfl apart
    | cons name other => rfl
  · have above := present
    rw [at?_append, Option.bind_eq_some_iff] at above
    obtain ⟨parent, here, below⟩ := above
    cases parent with
    | directory hindrance entries => exact wrote_set here (.inr ⟨old, present⟩) content
    | file | special | link => cases below

-----------------------------------------------------------------------------------------
-- Following names afterwards
-----------------------------------------------------------------------------------------

/-- What a move depends on: the nodes at two places, and not what is below them. -/
theorem move_eq (root : Node) (place : Location) (name : Bytes)
    : move root place name
      = match (root.at? place).map Node.bare with
        | some (.directory ..) =>
          if name.isEmpty || name == [Path.dot] then .step place
          else if name == [Path.dot, Path.dot] then .step place.dropLast
          else if nameLimit < name.length then .failed .nameTooLong
          else
            match (root.at? (place ++ [name])).map Node.bare with
            | none => .absent
            | some (.link target) => .link target
            | some _ => .step (place ++ [name])
        | _ => .failed .notADirectory := by
  unfold move
  cases here : root.at? place with
  | none => rfl
  | some node =>
      cases node with
      | directory hindrance entries =>
          simp only [Node.at?_child here, Option.map_some, Node.bare]
          cases looked : entries.lookup name with
          | none => simp
          | some child => cases child <;> simp [Node.bare]
      | file | special | link => rfl

/-- Only a move to the place itself changes: the place is there now. -/
theorem Wrote.moves {before after : Node} {place : Location} {content : Content}
    (wrote : Wrote before after place content) (start : Location) (name : Bytes)
    : move after start name = move before start name
      ∨ move before start name = .absent
        ∧ start ++ [name] = place
        ∧ move after start name = .step place := by
  by_cases atPlace : start = place
  · subst atPlace
    rw [move_eq, move_eq, wrote.written]
    rcases wrote.free with absent | ⟨old, present⟩
    · simp [absent, Node.bare]
    · simp [present, Node.bare]
  · by_cases nextIs : start ++ [name] = place
    · subst nextIs
      rw [move_eq, move_eq, wrote.kept start atPlace, wrote.written]
      split
      · split_ifs
        · exact .inl rfl
        · exact .inl rfl
        · exact .inl rfl
        · rcases wrote.free with absent | ⟨old, present⟩
          · simp [absent, Node.bare]
          · simp [present, Node.bare]
      · exact .inl rfl
    · rw [move_eq, move_eq, wrote.kept start atPlace, wrote.kept _ nextIs]
      exact .inl rfl

/-- Following names ends as before, or at the place, which was absent; names beyond it find a file
where they found nothing. By induction on the names.
-/
theorem Wrote.descends {before after : Node} {place : Location} {content : Content}
    (wrote : Wrote before after place content) (start : Location) (names : List Bytes)
    : descend after .target start names = descend before .target start names
      ∨ descend before .target start names = .arrived (.absent place)
        ∧ descend after .target start names = .arrived (.existing place)
      ∨ descend before .target start names = .failed .notFound
        ∧ descend after .target start names = .failed .notADirectory := by
  induction names generalizing start with
  | nil => exact .inl rfl
  | cons name names ih =>
      rw [descend_cons (by decide), descend_cons (by decide)]
      rcases wrote.moves start name with same | ⟨absent, nextIs, present⟩
      · rw [same]
        cases move before start name with
        | step next => exact ih next
        | link target => exact .inl rfl
        | absent => exact .inl rfl
        | failed fault => exact .inl rfl
      · rw [absent, present]
        cases names with
        | nil => exact .inr (.inl ⟨by simp [nextIs], rfl⟩)
        | cons further names =>
            refine .inr (.inr ⟨rfl, ?_⟩)
            -- A file has no names in it.
            have stuck : move after place further = .failed .notADirectory := by
              rw [move, wrote.written]
            simp [descend_cons, stuck]

/-- The same through links, by induction on how many may be followed. -/
theorem Wrote.resolvesFrom {before after : Node} {place : Location} {content : Content}
    (wrote : Wrote before after place content) (links : Nat) (start : Location)
    (names : List Bytes)
    : resolveFrom after .target links start names = resolveFrom before .target links start names
      ∨ resolveFrom before .target links start names = .ok (.absent place)
        ∧ resolveFrom after .target links start names = .ok (.existing place)
      ∨ resolveFrom before .target links start names = .error .notFound
        ∧ resolveFrom after .target links start names = .error .notADirectory := by
  induction links generalizing start names with
  | zero =>
      unfold resolveFrom
      rcases wrote.descends start names with same | ⟨was, is⟩ | ⟨was, is⟩
      · exact .inl (by rw [same])
      · exact .inr (.inl (by simp [was, is]))
      · exact .inr (.inr (by simp [was, is]))
  | succ links ih =>
      unfold resolveFrom
      rcases wrote.descends start names with same | ⟨was, is⟩ | ⟨was, is⟩
      · rw [same]
        cases descend before .target start names with
        | arrived destination => exact .inl rfl
        | link directory target rest => exact ih _ _
        | failed fault => exact .inl rfl
      · exact .inr (.inl (by simp [was, is]))
      · exact .inr (.inr (by simp [was, is]))

namespace FileSystem

/-- Every path leads where it led, except that the place is there now. -/
theorem resolve_of_wrote {files after : FileSystem} {place : Location} {content : Content}
    (wrote : Wrote files.root after.root place content)
    (stayed : after.workingDirectory = files.workingDirectory) (path : Bytes)
    : after.resolve .target path = files.resolve .target path
      ∨ files.resolve .target path = .ok (.absent place)
        ∧ after.resolve .target path = .ok (.existing place)
      ∨ files.resolve .target path = .error .notFound
        ∧ after.resolve .target path = .error .notADirectory := by
  simp only [resolve, stayed]
  cases checkPath path with
  | error fault => exact .inl rfl
  | ok allowed => exact wrote.resolvesFrom _ _ _

end FileSystem

-----------------------------------------------------------------------------------------
-- Where paths arrive
-----------------------------------------------------------------------------------------

/-- What a destination says of a tree: a node is there, or a directory has no entry for it. -/
def Destination.Stands (root : Node) : Destination → Prop
  | existing place => ∃ node, root.at? place = some node
  | absent place =>
    ∃ directory name hindrance entries,
      place = directory ++ [name]
      ∧ root.at? directory = some (.directory hindrance entries)
      ∧ root.at? place = none

/-- Above a node there is one too. -/
theorem Node.at?_dropLast {root node : Node} {place : Location}
    (here : root.at? place = some node)
    : ∃ above, root.at? place.dropLast = some above := by
  rcases List.eq_nil_or_concat' place with rfl | ⟨above, name, rfl⟩
  · exact ⟨node, here⟩
  · rw [at?_append, Option.bind_eq_some_iff] at here
    obtain ⟨parent, found, _⟩ := here
    exact ⟨parent, by rwa [List.dropLast_concat]⟩

/-- A move starts in a directory, and what it goes to is there. -/
theorem move_stands (root : Node) (place : Location) (name : Bytes)
    : match move root place name with
      | .step next => (Destination.existing next).Stands root
      | .link _ => (Destination.existing place).Stands root
      | .absent => (Destination.absent (place ++ [name])).Stands root
      | .failed _ => True := by
  unfold move
  cases here : root.at? place with
  | none => trivial
  | some node =>
      cases node with
      | directory hindrance entries =>
          dsimp only
          split_ifs
          · exact ⟨_, here⟩
          · exact Node.at?_dropLast here
          · trivial
          · have child := Node.at?_child here name
            cases looked : entries.lookup name with
            | none => exact ⟨place, name, hindrance, entries, rfl, here, child.trans looked⟩
            | some found =>
                cases found with
                | link target => exact ⟨_, here⟩
                | file | special | directory => exact ⟨_, child.trans looked⟩
      | file | special | link => trivial

/-- Following names leads to what is there, by induction on the names. -/
theorem descend_stands {root : Node} {start : Location} {names : List Bytes}
    (stands : names = [] → (Destination.existing start).Stands root)
    : match descend root .target start names with
      | .arrived destination => destination.Stands root
      | .link directory _ _ => (Destination.existing directory).Stands root
      | .failed _ => True := by
  induction names generalizing start with
  | nil => exact stands rfl
  | cons name names ih =>
      rw [descend_cons (by decide)]
      have moves := move_stands root start name
      cases moved : move root start name with
      | step next =>
          rw [moved] at moves
          exact ih fun _ => moves
      | link target =>
          rw [moved] at moves
          simpa using moves
      | absent =>
          rw [moved] at moves
          cases names with
          | nil => exact moves
          | cons further names => trivial
      | failed fault => trivial

/-- The same through links, by induction on how many may be followed. -/
theorem resolveFrom_stands {root : Node} {links : Nat} {start : Location} {names : List Bytes}
    {destination : Destination}
    (stands : names = [] → (Destination.existing start).Stands root)
    (resolved : resolveFrom root .target links start names = .ok destination)
    : destination.Stands root := by
  induction links generalizing start names with
  | zero =>
      rw [resolveFrom] at resolved
      have follows := descend_stands stands
      cases descended : descend root .target start names with
      | arrived reached =>
          rw [descended] at follows resolved
          obtain rfl := Except.ok.inj resolved
          exact follows
      | link directory target rest => simp [descended] at resolved
      | failed fault => simp [descended] at resolved
  | succ links ih =>
      rw [resolveFrom] at resolved
      have follows := descend_stands stands
      cases descended : descend root .target start names with
      | arrived reached =>
          rw [descended] at follows resolved
          obtain rfl := Except.ok.inj resolved
          exact follows
      | link directory target rest =>
          rw [descended] at follows resolved
          refine ih (fun _ => ?_) resolved
          split_ifs
          · exact ⟨root, rfl⟩
          · exact follows
      | failed fault => simp [descended] at resolved

namespace FileSystem

/-- A path leads to what is there. -/
theorem resolve_stands {files : FileSystem} {path : Bytes} {destination : Destination}
    (resolved : files.resolve .target path = .ok destination)
    : destination.Stands files.root := by
  obtain ⟨allowed, follows⟩ := resolve_eq_ok_iff.mp resolved
  obtain ⟨_, nonempty, _⟩ := checkPath_eq_ok_iff.mp allowed
  exact resolveFrom_stands (fun none => absurd none (namesOf_ne_nil nonempty)) follows

/-- A path exists if it leads to a place where something is. -/
theorem pathExists_iff {files : FileSystem} {path : Bytes}
    : files.pathExists path = true
      ↔ ∃ place, files.resolve .target path = .ok (.existing place) := by
  have found : files.pathExists path = true ↔ ∃ node, files.node .target path = .ok node := by
    rw [pathExists]
    cases files.node .target path <;> simp [Except.toBool]
  rw [found]
  constructor
  · rintro ⟨node, reached⟩
    obtain ⟨place, resolved, _⟩ := node_eq_ok_iff.mp reached
    exact ⟨place, resolved⟩
  · rintro ⟨place, resolved⟩
    obtain ⟨node, here⟩ := resolve_stands resolved
    exact ⟨node, node_eq_ok_iff.mpr ⟨place, resolved, here⟩⟩

end FileSystem

-----------------------------------------------------------------------------------------
-- What a file takes
-----------------------------------------------------------------------------------------

namespace Writing

/-- What a file takes is a beginning of what is written. -/
theorem taken_prefix (writing : Writing) (bytes : Bytes) : writing.taken bytes <+: bytes := by
  unfold taken
  split
  · exact List.take_prefix _ _
  · exact List.prefix_rfl

/-- Where writing does not fail, a file takes everything. -/
theorem taken_of_fault?_eq_none {writing : Writing} {bytes : Bytes}
    (whole : writing.fault? bytes = none)
    : writing.taken bytes = bytes := by
  unfold fault? at whole
  unfold taken
  split at whole
  · split at whole
    next fits => exact List.take_of_length_le (List.drop_eq_nil_iff.mp (List.isEmpty_iff.mp fits))
    · cases whole
  · rfl

/-- A written file holds what it took, or it cannot be opened for reading. -/
theorem content_spec (writing : Writing) (bytes : Bytes) (old : Option Content)
    : writing.content bytes old = .stream (writing.taken bytes)
      ∨ ∃ fault,
          writing.content bytes old = .unopenable fault
          ∧ (old = some (.unopenable fault) ∨ old = none ∧ writing.hidden = some fault) := by
  unfold content
  split
  next fault => exact .inr ⟨fault, rfl, .inl rfl⟩
  · exact .inl rfl
  · split
    next fault hidden => exact .inr ⟨fault, rfl, .inr ⟨rfl, hidden⟩⟩
    · exact .inl rfl

end Writing

-----------------------------------------------------------------------------------------
-- Writing
-----------------------------------------------------------------------------------------

/-- To create a file, names lead where they lead to read one, or fail; by induction on the names.
-/
theorem descend_creation (root : Node) (start : Location) (names : List Bytes)
    : descend root .creation start names = descend root .target start names
      ∨ ∃ fault, descend root .creation start names = .failed fault := by
  induction names generalizing start with
  | nil => exact .inl rfl
  | cons name names ih =>
      unfold descend
      cases root.at? start with
      | none => exact .inl rfl
      | some node =>
          cases node with
          | directory hindrance entries =>
              simp only [true_and, reduceCtorEq, false_and, if_false, and_false]
              by_cases idle : (name.isEmpty || name == [Path.dot]) = true
              · simpa only [if_pos idle] using ih start
              · by_cases parent : (name == [Path.dot, Path.dot]) = true
                · simpa only [if_neg idle, if_pos parent] using ih start.dropLast
                · by_cases wish : names = [[]]
                  · exact .inr
                      ⟨.isADirectory, by simp only [if_neg idle, if_neg parent, if_pos wish]⟩
                  · by_cases long : nameLimit < name.length
                    · exact .inl
                        (by simp only [if_neg idle, if_neg parent, if_neg wish, if_pos long])
                    · simp only [if_neg idle, if_neg parent, if_neg wish, if_neg long]
                      cases entries.lookup name with
                      | none => exact .inl rfl
                      | some child =>
                          cases child with
                          | link target => exact .inl rfl
                          | file | special | directory => exact ih _
          | file | special | link => exact .inl rfl

/-- The same through links, by induction on how many may be followed. -/
theorem resolveFrom_creation {root : Node} {links : Nat} {start : Location}
    {names : List Bytes} {destination : Destination}
    (resolved : resolveFrom root .creation links start names = .ok destination)
    : resolveFrom root .target links start names = .ok destination := by
  induction links generalizing start names with
  | zero =>
      rw [resolveFrom] at resolved ⊢
      rcases descend_creation root start names with same | ⟨fault, fails⟩
      · rwa [same] at resolved
      · simp [fails] at resolved
  | succ links ih =>
      rw [resolveFrom] at resolved ⊢
      rcases descend_creation root start names with same | ⟨fault, fails⟩
      · rw [same] at resolved
        cases descended : descend root .target start names with
        | link directory target rest =>
            rw [descended] at resolved
            exact ih resolved
        | arrived | failed => rwa [descended] at resolved
      · simp [fails] at resolved

namespace FileSystem

variable {files after : FileSystem} {path bytes : Bytes}

/-- A path at which a file can be created leads where it leads to read one. -/
theorem resolve_creation {destination : Destination}
    (resolved : files.resolve .creation path = .ok destination)
    : files.resolve .target path = .ok destination := by
  obtain ⟨allowed, follows⟩ := resolve_eq_ok_iff.mp resolved
  exact resolve_eq_ok_iff.mpr ⟨allowed, resolveFrom_creation follows⟩

/-- A path that led to the place where a file is written leads to that file then. -/
theorem node_of_wrote {place : Location} {content : Content}
    (leads
      : files.resolve .target path = .ok (.absent place)
        ∨ files.resolve .target path = .ok (.existing place))
    (wrote : Wrote files.root after.root place content)
    (stayed : after.workingDirectory = files.workingDirectory)
    : after.node .target path = .ok (.file content) := by
  refine node_eq_ok_iff.mpr ⟨place, ?_, wrote.written⟩
  rcases resolve_of_wrote wrote stayed path with same | ⟨_, is⟩ | ⟨was, _⟩
  · rcases leads with absent | existing
    · -- Had nothing changed, nothing would be at the place.
      obtain ⟨_, _, _, _, _, _, nothing⟩ := resolve_stands (same.trans absent)
      simp [wrote.written] at nothing
    · exact same.trans existing
  · exact is
  · rcases leads with leads | leads <;> simp [was] at leads

/-- What writing ends in. Nothing can be opened for it, and nothing changes; or a file where the
path leads holds a beginning of what is written; or a special file takes that and stays as it is.
-/
inductive Writes (files : FileSystem) (path bytes : Bytes)
    : FileSystem → Option Fault → Prop
  | refused (fault : Fault) : Writes files path bytes files (some fault)
  | file {after : FileSystem} {ending : Option Fault} (place : Location) (old : Option Content)
    (leads
      : files.resolve .target path = .ok (.absent place)
        ∨ files.resolve .target path = .ok (.existing place))
    (was : files.root.at? place = old.map .file)
    (wrote : Wrote files.root after.root place ((files.writing place).content bytes old))
    (stayed : after.workingDirectory = files.workingDirectory)
    (ends : (files.writing place).fault? bytes = ending)
    : Writes files path bytes after ending
  | special {ending : Option Fault} (place : Location) (content : Content)
    (leads : files.resolve .target path = .ok (.existing place))
    (present : files.root.at? place = some (.special content))
    (ends : (files.writing place).fault? bytes = ending)
    : Writes files path bytes files ending

/-- A path leads to one place, whether something is there or not. -/
theorem leads_location (destination : Destination) {path : Bytes}
    (leads : files.resolve .target path = .ok destination)
    : files.resolve .target path = .ok (.absent destination.location)
      ∨ files.resolve .target path = .ok (.existing destination.location) := by
  cases destination with
  | absent place => exact .inl leads
  | existing place => exact .inr leads

/-- A file can be put where a path leads if no node is there or a file. -/
theorem wrote_set_location {destination : Destination} (stands : destination.Stands files.root)
    {old : Option Content} (was : files.root.at? destination.location = old.map .file)
    (content : Content)
    : Wrote files.root (files.root.set (some (.file content)) destination.location)
        destination.location content := by
  cases destination with
  | absent place =>
      obtain ⟨directory, name, hindrance, entries, rfl, here, absent⟩ := stands
      exact Node.wrote_set here (.inl absent) content
  | existing place =>
      obtain ⟨node, here⟩ := stands
      cases old with
      | none => cases here.symm.trans was
      | some old => exact Node.wrote_set_file was content

/-- Writing does one of these. -/
theorem writes_write (files : FileSystem) (path bytes : Bytes)
    : files.Writes path bytes (files.write path bytes).1 (files.write path bytes).2 := by
  rw [write]
  cases resolved : files.resolve .creation path with
  | error fault => exact .refused fault
  | ok destination =>
      have leads := resolve_creation resolved
      have stands := resolve_stands leads
      dsimp only
      split
      next _ _ fault _ => exact .refused fault
      next _ absent =>
        have was : files.root.at? destination.location = (none : Option Content).map .file := absent
        exact .file _ none (leads_location destination leads) was (wrote_set_location stands was _)
          rfl rfl
      next old _ present =>
        have was : files.root.at? destination.location = (some old).map .file := present
        exact .file _ (some old) (leads_location destination leads) was
          (wrote_set_location stands was _) rfl rfl
      next content _ present =>
        refine .special destination.location content ?_ present rfl
        rcases leads_location destination leads with absent | existing
        · obtain ⟨_, _, _, _, _, _, nothing⟩ := resolve_stands absent
          simp [present] at nothing
        · exact existing
      next => exact .refused .isADirectory

namespace Writes

variable {ending : Option Fault}

/-- The working directory stays where it is. -/
theorem workingDirectory_eq (writes : files.Writes path bytes after ending)
    : after.workingDirectory = files.workingDirectory := by
  cases writes with
  | file place old leads was wrote stayed => exact stayed
  | refused | special => rfl

/-- If everything was written, the path then leads to a file with that, to a special file, or to a
file that cannot be opened for reading, as before or since it is new.
-/
theorem node (writes : files.Writes path bytes after none)
    : after.node .target path = .ok (.file (.stream bytes))
      ∨ (∃ fault,
          after.node .target path = .ok (.file (.unopenable fault))
          ∧ (files.node .target path = .ok (.file (.unopenable fault))
            ∨ ∃ place,
                files.resolve .target path = .ok (.absent place)
                ∧ (files.writing place).hidden = some fault))
      ∨ ∃ content, after.node .target path = .ok (.special content) := by
  cases writes with
  | file place old leads was wrote stayed ends =>
      have reached := node_of_wrote leads wrote stayed
      rcases Writing.content_spec (files.writing place) bytes old with
        whole | ⟨fault, unread, rfl | ⟨rfl, hidden⟩⟩
      · rw [whole, Writing.taken_of_fault?_eq_none ends] at reached
        exact .inl reached
      · rw [unread] at reached
        refine .inr (.inl ⟨fault, reached, .inl ?_⟩)
        rcases leads with absent | existing
        · obtain ⟨_, _, _, _, _, _, nothing⟩ := resolve_stands absent
          cases nothing.symm.trans was
        · exact node_eq_ok_iff.mpr ⟨place, existing, was⟩
      · rw [unread] at reached
        refine .inr (.inl ⟨fault, reached, .inr ⟨place, ?_, hidden⟩⟩)
        rcases leads with absent | existing
        · exact absent
        · obtain ⟨node, here⟩ := resolve_stands existing
          cases here.symm.trans was
  | special place content leads present =>
      exact .inr (.inr ⟨content, node_eq_ok_iff.mpr ⟨place, leads, present⟩⟩)

/-- The paths that exist then are those that existed and those that led to the place where
something was created.
-/
theorem pathExists_iff (writes : files.Writes path bytes after none) (other : Bytes)
    : after.pathExists other = true
      ↔ files.pathExists other = true
        ∨ ∃ place,
            files.resolve .target path = .ok (.absent place)
            ∧ files.resolve .target other = .ok (.absent place) := by
  rw [FileSystem.pathExists_iff, FileSystem.pathExists_iff]
  cases writes with
  | special place content leads present => simp [leads]
  | file place old leads was wrote stayed =>
      rcases resolve_of_wrote wrote stayed other with same | ⟨led, is⟩ | ⟨failed, is⟩
      · rw [same]
        refine ⟨.inl, ?_⟩
        rintro (existed | ⟨absent, created, led⟩)
        · exact existed
        · -- The place was created, so the other path would not still lead to nothing.
          rcases leads with leads | leads
          · obtain rfl : place = absent := by simpa [leads] using created
            obtain ⟨_, _, _, _, _, _, nothing⟩ := resolve_stands (same.trans led)
            simp [wrote.written] at nothing
          · simp [leads] at created
      · have leadsThere : files.resolve .target path = .ok (.absent place) := by
          rcases leads with leads | leads
          · exact leads
          · -- Nothing is at the place, so the path cannot lead to something there.
            obtain ⟨_, _, _, _, _, _, nothing⟩ := resolve_stands led
            obtain ⟨node, here⟩ := resolve_stands leads
            simp [nothing] at here
        exact ⟨fun _ => .inr ⟨place, leadsThere, led⟩, fun _ => ⟨place, is⟩⟩
      · simp [failed, is]

end Writes

end FileSystem

end PatternAudit.Files
