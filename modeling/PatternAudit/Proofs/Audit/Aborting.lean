import PatternAudit.Proofs.Audit.Running
import PatternAudit.Proofs.Walk.Distinguishing
import PatternAudit.Proofs.Walk.FirstFailure

/-! What a failed walk leaves behind. Exploring fails at the first entry in visiting order that
cannot be read, with everything before it scanned, the failing file as far as it could be read, and
nothing after it. A run then ends in that failure.
-/

namespace PatternAudit

open Files (Node Location FileSystem)

namespace Observations

open Walk (Order BreaksOff CanRead IsVisitingOrder failureAt? inScope linesRead located places
  visit?)

-----------------------------------------------------------------------------------------
-- Stopping
-----------------------------------------------------------------------------------------

/-- Exploring from a root stopped at an entry, after others. It failed there because that entry
cannot be read, and the others can. The failure has the path of the entry, or that of the root if
the entry is a directory whose listing broke off. What has been seen, beside what was seen before,
is where the rules occur in the files in scope among the others, which are counted, and in the
lines that could be read from the failing file.
-/
structure StoppedAt (ruleset : Ruleset) (root : Bytes) (earlier : List (Location × Node))
    (entry : Location × Node) (failure : ReadFailure) (seen after : Observations)
    : Prop where
  ownPath : ¬BreaksOff (located root entry) → failure.path = entry.1.foldl Path.child root
  rootPath : BreaksOff (located root entry) → failure.path = root
  fault : Walk.fault? (located root entry) = some failure.fault
  unreadable : ¬CanRead ruleset.scope.accepts (located root entry)
  readable : ∀ other ∈ earlier, CanRead ruleset.scope.accepts (located root other)
  size : after.actual.length = seen.actual.length
  holds
    : ∀ rule key,
        after.Holds rule key
        ↔ seen.Holds rule key
          ∨ (rule < seen.actual.length
            ∧ ((∃ file ∈ inScope ruleset.scope.accepts (earlier.map (located root)),
                  Path.key file.1 = key
                  ∧ ∃ line ∈ file.2.lines, Rule.MatchesAt ruleset.rules rule line)
              ∨ (Path.key (entry.1.foldl Path.child root) = key
                ∧ ∃ line ∈ linesRead (located root entry),
                    Rule.MatchesAt ruleset.rules rule line)))
  filesChecked
    : after.filesChecked
      = seen.filesChecked
        + (inScope ruleset.scope.accepts (earlier.map (located root))).length

/-- Testing lines under a key notes that key for the rules that occur in one of them. -/
theorem noted_ofLines {rules : List Rule} {key : String} {lines : List Bytes} {rule : Nat}
    {name : String}
    : Noted rules (Event.ofLines key lines) rule name
      ↔ key = name ∧ ∃ line ∈ lines, Rule.MatchesAt rules rule line := by
  simp only [Noted, Event.ofLines, List.mem_map, Event.tested.injEq, reduceCtorEq, and_false,
    exists_false, false_or]
  constructor
  · rintro ⟨line, ⟨line', member, same, rfl⟩, matched⟩
    exact ⟨same, line', member, matched⟩
  · rintro ⟨same, line, member, matched⟩
    exact ⟨line, ⟨line, member, same, rfl⟩, matched⟩

/-- Testing lines completes no file. -/
theorem count_completed_ofLines (key : String) (lines : List Bytes)
    : (Event.ofLines key lines).count .completed = 0 := by
  simp [Event.ofLines, List.count_eq_zero]

/-- Exploring from a root does what the places below its start ask for, in visiting order, up to
the first failure.
-/
theorem explore_places (ruleset : Ruleset) {files : FileSystem} {root : Bytes} {node : Node}
    (started : Walk.start files root = .ok node) (order : Order) (seen : Observations)
    : Gains ruleset.rules
        (Walk.events ruleset.scope
          (((places order root node).map (located root)).filterMap (visit? root)))
        seen (seen.explore ruleset files order root).1
      ∧ (seen.explore ruleset files order root).2
        = (places order root node).findSome? fun entry =>
          failureAt? ruleset.scope root (located root entry) := by
  have asFar := Walk.goesAsFar_visits ruleset.scope order root root node []
  rw [List.append_nil, List.append_nil] at asFar
  obtain ⟨gains, ending⟩ := matchVisits_spec ruleset seen (Walk.visits order root root node)
  rw [explore, Walk.visitsFrom_of_start started]
  refine ⟨?_, ?_⟩
  · rwa [Walk.events, asFar] at gains
  · rw [ending, ← Walk.findSome?_upToFailure, asFar, Walk.findSome?_upToFailure,
      ← List.head?_filterMap, List.filterMap_filterMap, List.head?_filterMap, List.findSome?_map]
    rfl

/-- Exploring that fails below its start stopped at one of the places there. -/
theorem exists_stoppedAt {ruleset : Ruleset} {files : FileSystem} {root : Bytes} {node : Node}
    (started : Walk.start files root = .ok node) {order : Order} {seen after : Observations}
    {failure : ReadFailure}
    (aborted : seen.explore ruleset files order root = (after, some failure))
    : ∃ earlier entry later,
        places order root node = earlier ++ entry :: later
        ∧ StoppedAt ruleset root earlier entry failure seen after := by
  obtain ⟨gains, ending⟩ := explore_places ruleset started order seen
  rw [aborted] at gains ending
  obtain ⟨earlier, entry, later, split, fails, passes⟩ :=
    List.findSome?_eq_some_iff.mp ending.symm
  have readable : ∀ other ∈ earlier, CanRead ruleset.scope.accepts (located root other) :=
    fun other isEarlier => Walk.failureAt?_eq_none_iff.mp (passes other isEarlier)
  have readable' : ∀ other ∈ earlier.map (located root),
      CanRead ruleset.scope.accepts other :=
    List.forall_mem_map.mpr readable
  obtain ⟨ownPath, rootPath, fault, _⟩ := Walk.visit_of_failureAt? fails
  have whole : ∀ file ∈ inScope ruleset.scope.accepts (earlier.map (located root)),
      file.2.fault? = none := by
    intro file member
    obtain ⟨isFile, accepted⟩ := List.mem_filter.mp member
    exact (Walk.canRead_of_mem_filterMap readable' isFile accepted).2
  rw [split, List.map_append, List.map_cons, Walk.events_of_firstFailure readable' fails,
    ← Event.ofFiles] at gains
  refine ⟨earlier, entry, later, split, {
    ownPath, rootPath, fault, readable, size := gains.size
    unreadable := ?_, holds := ?_, filesChecked := ?_
  }⟩
  · intro canRead
    rw [Walk.failureAt?_eq_none_iff.mpr canRead] at fails
    cases fails
  · intro rule key
    rw [gains.holds, noted_append, noted_ofFiles, noted_ofLines, located]
  · rw [gains.filesChecked, List.count_append, count_completed_ofFiles whole,
      count_completed_ofLines, Nat.add_zero]

end Observations

-----------------------------------------------------------------------------------------
-- Runs that fail
-----------------------------------------------------------------------------------------

namespace Audit

open Observations (StoppedAt)
open Walk (Order IsVisitingOrder)

/-- A run ends in a failure that exploring ends in, whatever was seen before it. -/
theorem run_eq_error_of_explore {ruleset : Ruleset} {files : FileSystem} {order : Order}
    {root : Bytes} {seen after : Observations} {failure : ReadFailure}
    (aborted : seen.explore ruleset files order root = (after, some failure))
    : run ruleset files order (.tree root) = .error failure := by
  have ending := (Observations.matchVisits_spec ruleset seen
    (Walk.visitsFrom files order root)).2
  rw [← Observations.explore, aborted] at ending
  exact run_eq_error_iff.mpr ending.symm

/-- What a failed walk leaves behind. If exploring fails, then either its root cannot be found, and
nothing was seen, or it stopped at the first entry in visiting order that cannot be read: a
directory that cannot be listed whole, or a regular file in scope that cannot be read to its end.
The failure has the path of that entry, but where a listing breaks off it has that of the root. The
files in scope before that entry have been scanned, and of a failing file the lines that could be
read; no more was seen, and no more files are counted. A run over the tree ends in the same
failure, without a report.
-/
theorem explore_aborted {ruleset : Ruleset} {files : FileSystem} (wellFormed : files.WellFormed)
    {order : Order} {root : Bytes} {seen after : Observations} {failure : ReadFailure}
    (aborted : seen.explore ruleset files order root = (after, some failure))
    : runTree ruleset files order root = .error failure
      ∧ run ruleset files order (.tree root) = .error failure
      ∧ ((∃ fault,
            Walk.start files root = .error fault
            ∧ failure = { path := root, fault }
            ∧ after = seen)
        ∨ ∃ node earlier entry later,
            Walk.start files root = .ok node
            ∧ (∀ entries,
                IsVisitingOrder order root node entries ↔ entries = earlier ++ entry :: later)
            ∧ StoppedAt ruleset root earlier entry failure seen after) := by
  have failed := run_eq_error_of_explore aborted
  refine ⟨failed, failed, ?_⟩
  cases started : Walk.start files root with
  | error fault =>
      rw [Observations.explore, Walk.visitsFrom_eq, started] at aborted
      obtain ⟨rfl, same⟩ := Prod.mk.inj aborted
      exact .inl ⟨fault, rfl, (Option.some.inj same).symm, rfl⟩
  | ok node =>
      obtain ⟨earlier, entry, later, split, stopped⟩ :=
        Observations.exists_stoppedAt started aborted
      have visiting := Walk.isVisitingOrder_places order root node
        (Walk.possible_of_start wellFormed started).2
      refine .inr ⟨node, earlier, entry, later, rfl, fun entries => ?_, stopped⟩
      rw [← split]
      exact ⟨fun other => other.unique visiting, fun same => same ▸ visiting⟩

/-- The entries of a directory, not in the order of their names: `d`; `c`, of which only the first
line and a part of the second can be read; `a`, a directory with the file `x`; and `b`, which cannot
be opened.
-/
def brokenEntries : List (Bytes × Node) :=
  [
    ([0x64], .file (.stream [0x61, 0x0A])),
    ([0x63], .file (.stream [0x61, 0x0A, 0x61, 0x62] (some .permissionDenied))),
    ([0x61], .directory none [([0x78], .file (.stream [0x61, 0x0A]))]),
    ([0x62], .file (.unopenable .permissionDenied))
  ]

/-- A file system of these entries. -/
def brokenFiles : FileSystem where
  root := .directory none brokenEntries

/-- A rule for every file but `b`. -/
def brokenRuleset : Ruleset where
  scope := { included := [fun _ => true], excluded := [(· == "b")] }
  rules := [{ source := "a", occursIn := (·.contains 0x61), expected := ∅ }]

/-- In ascending order, a walk of these entries meets `a/x`, `b`, `c` and `d`. -/
theorem visits_brokenEntries
    : Walk.visits .ascending [Path.dot] [Path.dot] (.directory none brokenEntries)
      = [
        .file [0x2E, 0x2F, 0x61, 0x2F, 0x78] (.stream [0x61, 0x0A]),
        .file [0x2E, 0x2F, 0x62] (.unopenable .permissionDenied),
        .file [0x2E, 0x2F, 0x63] (.stream [0x61, 0x0A, 0x61, 0x62] (some .permissionDenied)),
        .file [0x2E, 0x2F, 0x64] (.stream [0x61, 0x0A])
      ] := by
  have whole : Walk.hindranceUnder [Path.dot] none = none := rfl
  have arranged : Order.ascending.arrange brokenEntries
      = [brokenEntries[2], brokenEntries[3], brokenEntries[1], brokenEntries[0]] := by
    simp +decide [Order.arrange, brokenEntries, List.mergeSort]
  rw [Walk.visits_of_listed whole, arranged]
  simp [brokenEntries, Walk.visits, Walk.visitsOfEach, Order.arrange]
  rfl

/-- Exploring this directory in ascending order scans `a/x`, passes over `b`, fails in `c` with its
first line scanned, and does not come to `d`.
-/
theorem explore_aborted_sample
    : let seen := Observations.emptyFor brokenRuleset
      let after : Observations := { actual := [.ofList ["a/x", "c"]], filesChecked := 1 }
      let failure : ReadFailure :=
        { path := [0x2E, 0x2F, 0x63], fault := .permissionDenied }
      brokenFiles.WellFormed
      ∧ seen.explore brokenRuleset brokenFiles .ascending [Path.dot] = (after, some failure)
      ∧ runTree brokenRuleset brokenFiles .ascending [Path.dot] = .error failure
      ∧ ∃ earlier entry later,
          (∀ entries,
            IsVisitingOrder .ascending [Path.dot] brokenFiles.root entries
            ↔ entries = earlier ++ entry :: later)
          ∧ StoppedAt brokenRuleset [Path.dot] earlier entry failure seen after := by
  intro seen after failure
  have wellFormed : brokenFiles.WellFormed := by
    refine Files.everywhere_of_entries (by decide) ?_
    simp only [brokenEntries, List.forall_mem_cons]
    refine ⟨Files.everywhere_of_leaf rfl, Files.everywhere_of_leaf rfl, ?_,
      Files.everywhere_of_leaf rfl, List.forall_mem_nil _⟩
    exact Files.everywhere_of_files (by decide) (List.forall_mem_singleton.mpr ⟨_, rfl⟩)
  have aborted : seen.explore brokenRuleset brokenFiles .ascending [Path.dot]
      = (after, some failure) := by
    have started : Walk.start brokenFiles [Path.dot] = .ok (.directory none brokenEntries) := rfl
    rw [Observations.explore, Walk.visitsFrom_of_start started, visits_brokenEntries]
    rfl
  obtain ⟨ran, _, rootless | ⟨node, earlier, entry, later, started, visiting, stopped⟩⟩ :=
    explore_aborted wellFormed aborted
  · obtain ⟨fault, failed, _⟩ := rootless
    cases failed
  · obtain rfl : brokenFiles.root = node := Except.ok.inj started
    exact ⟨wellFormed, aborted, ran, earlier, entry, later, visiting, stopped⟩

/-- A file system of one directory `d`, whose listing gives the file `f` and then breaks off. -/
def interruptedFiles : FileSystem where
  root := .directory none [
    ([0x64], .directory (some (.broken 1 .inputOutput)) [([0x66], .file (.stream [0x61, 0x0A]))])
  ]

/-- Of these files, all but `d` can be read. -/
theorem canRead_interruptedFiles {place : Location} {node : Node}
    (found : interruptedFiles.root.at? place = some node)
    : Walk.CanRead brokenRuleset.scope.accepts (Walk.located [Path.dot] (place, node))
      ↔ place ≠ [[0x64]] := by
  have only {name other : Bytes} {node found : Node}
      (looked : [(name, node)].lookup other = some found)
      : other = name ∧ node = found := by
    obtain ⟨_ | _, _, split, _⟩ := List.lookup_eq_some_iff.mp looked <;> simp_all
  rcases place with _ | ⟨name, _ | ⟨inner, place⟩⟩
  · obtain rfl := Option.some.inj found
    exact iff_of_true ⟨rfl, rfl⟩ (by simp)
  · obtain ⟨_, looked, here⟩ := Option.bind_eq_some_iff.mp found
    obtain ⟨rfl, rfl⟩ := only looked
    obtain rfl := Option.some.inj here
    exact iff_of_false (fun canRead => nomatch canRead.2) (· rfl)
  · obtain ⟨_, looked, below⟩ := Option.bind_eq_some_iff.mp found
    obtain ⟨rfl, rfl⟩ := only looked
    obtain ⟨_, looked, here⟩ := Option.bind_eq_some_iff.mp below
    obtain ⟨rfl, rfl⟩ := only looked
    cases place with
    | nil =>
        obtain rfl := Option.some.inj here
        exact iff_of_true (fun _ => ⟨rfl, rfl⟩) (by simp)
    | cons => cases here

/-- A file system of the file `a`, which ends in a carriage return, and of `b`, which cannot be
opened.
-/
def returnFiles : FileSystem where
  root := .directory none [
    ([0x61], .file (.stream [0x61, 0x0D])), ([0x62], .file (.unopenable .permissionDenied))
  ]

/-- A rule for carriage returns. -/
def returnRuleset : Ruleset where
  scope := { included := [fun _ => true], excluded := [] }
  rules := [{ source := "\\r", occursIn := (·.contains Lines.carriageReturn), expected := ∅ }]

/-- Exploring can fail with the path of an entry that can be read, and can miss a match in what it
scanned before. In the first files it fails because of `d`, which alone cannot be read, but with the
path of the root. In the others it comes to `b` after `a`, of which the last line has no terminator
and holds a carriage return, without noting `a`.
-/
theorem explore_aborted_astray
    : (let after : Observations := { actual := [.ofList ["d/f"]], filesChecked := 1 }
        let failure : ReadFailure := { path := [Path.dot], fault := .inputOutput }
        (Observations.emptyFor brokenRuleset).explore brokenRuleset interruptedFiles .listed
            [Path.dot]
          = (after, some failure)
        ∧ ∀ place node,
            interruptedFiles.root.at? place = some node
            → (Walk.CanRead brokenRuleset.scope.accepts (Walk.located [Path.dot] (place, node))
              ↔ place ≠ [[0x64]]))
      ∧ (let after : Observations := { actual := [∅], filesChecked := 1 }
          let failure : ReadFailure := { path := [0x2E, 0x2F, 0x62], fault := .permissionDenied }
          (Observations.emptyFor returnRuleset).explore returnRuleset returnFiles .listed [Path.dot]
            = (after, some failure)
          ∧ Lines.pieces [0x61, 0x0D] = [[0x61, 0x0D]]
          ∧ ∀ rule ∈ returnRuleset.rules, rule.occursIn [0x61, 0x0D] = true) :=
  ⟨⟨rfl, fun _ _ => canRead_interruptedFiles⟩, rfl, rfl, by decide⟩

end Audit

end PatternAudit
