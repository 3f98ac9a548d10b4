import Mathlib.Data.List.Nodup
import PatternAudit.Proofs.Audit.TreeRun
import PatternAudit.Proofs.Walk.Distinguishing

/-! Keys as identities of files. Where the names in every listing decode to different texts, what
exploring holds for a rule is as much as there are files in which the rule occurs, and files that
are sanctioned do not answer for others.
-/

namespace PatternAudit

open Files (Node Content FileSystem DecodesApart)

/-- The rule occurs in a line of a file. -/
def Rule.occursInFile (rule : Rule) (file : Bytes × Content) : Bool :=
  file.2.lines.any rule.occursIn

namespace Observations

-----------------------------------------------------------------------------------------
-- What exploring holds
-----------------------------------------------------------------------------------------

/-- Exploring from nothing seen gives every rule the keys of the scanned files that it occurs in.
-/
theorem exists_keys_of_explore {ruleset : Ruleset} {files : FileSystem} {root : Bytes}
    {node : Node} (started : Walk.start files root = .ok node) {order : Walk.Order}
    {seen : Observations}
    (explored : (emptyFor ruleset).explore ruleset files order root = (seen, none))
    {position : Nat} {rule : Rule} (isRule : ruleset.rules[position]? = some rule)
    : ∃ keys,
        seen.actual[position]? = some keys
        ∧ ∀ key,
            key ∈ keys
            ↔ key ∈ ((Walk.accepted ruleset.scope.accepts root node).filter
                rule.occursInFile).map fun file => Path.key file.1 := by
  obtain ⟨_, gains⟩ := explore_of_start ruleset started order (emptyFor ruleset)
  rw [explored] at gains
  have hasSet : position < seen.actual.length := by
    rw [(gains rfl).size, emptyFor, empty, List.length_replicate]
    exact (List.getElem?_eq_some_iff.mp isRule).1
  have found := List.getElem?_eq_getElem hasSet
  refine ⟨_, found, fun key => ?_⟩
  rw [← holds_iff_mem found, holds_iff_of_gains_ofFiles (gains rfl), List.mem_map]
  simp only [List.mem_filter, Rule.occursInFile, List.any_eq_true, Rule.MatchesAt, isRule,
    Option.some.injEq, exists_eq_left']
  exact exists_congr fun file => by tauto

/-- Keys identify files. If every listing at or below the start of a walk has names that decode to
different texts, then any walk, whatever its order and wherever it fails, meets files with
different keys, each of them once. After exploring from nothing seen, the set of every rule has as
many keys as there are scanned files that the rule occurs in. If only some of the scanned files
are sanctioned for it, every other in which it occurs is extra.
-/
theorem keys_identify_files {ruleset : Ruleset} {files : FileSystem} {root : Bytes} {node : Node}
    (wellFormed : files.WellFormed) (started : Walk.start files root = .ok node)
    (apart : node.Everywhere DecodesApart)
    : (∀ met, Walk.MetFrom files root met → ((Walk.paths met).map Path.key).Nodup)
      ∧ ∀ (order : Walk.Order) (seen : Observations),
          (emptyFor ruleset).explore ruleset files order root = (seen, none)
          → let scanned := Walk.accepted ruleset.scope.accepts root node
            ∀ (position : Nat) (rule : Rule),
              ruleset.rules[position]? = some rule
              → ∃ keys : KeySet,
                  seen.actual[position]? = some keys
                  ∧ keys.toList.length = (scanned.filter rule.occursInFile).length
                  ∧ ∀ sanctioned ⊆ scanned,
                      (∀ key ∈ rule.expected, ∃ file ∈ sanctioned, Path.key file.1 = key)
                      → ∀ file ∈ scanned.filter rule.occursInFile,
                          file ∉ sanctioned
                          → Path.key file.1 ∈ (rule.mismatches keys).extra := by
  refine ⟨fun met walk => Walk.nodup_keys_of_metFrom wellFormed started apart walk, ?_⟩
  intro order seen explored scanned position rule isRule
  have readable : Walk.Readable ruleset.scope.accepts root node := by
    refine (explore_of_start ruleset started order (emptyFor ruleset)).1.mp ?_
    rw [explored]
  have distinct := Walk.nodup_keys_accepted wellFormed started apart readable
  obtain ⟨keys, found, members⟩ := exists_keys_of_explore started explored isRule
  refine ⟨keys, found, ?_, ?_⟩
  · rw [KeySet.length_toList_of_nodup ((List.filter_sublist.map _).nodup distinct) members,
      List.length_map]
  · intro sanctioned included expected file member unsanctioned
    have occurs : Path.key file.1 ∈ keys := (members _).mpr (List.mem_map_of_mem member)
    refine KeySet.mem_sdiff.mpr ⟨occurs, fun isExpected => ?_⟩
    obtain ⟨other, isSanctioned, sameKey⟩ := expected _ isExpected
    have same : other = file :=
      List.inj_on_of_nodup_map distinct (included isSanctioned)
        (List.mem_of_mem_filter member) sameKey
    exact unsanctioned (same ▸ isSanctioned)

/-- Two files with the same line. -/
def twoEntries (first second : Bytes) : List (Bytes × Node) :=
  [(first, .file (.stream [0x61, 0x0A])), (second, .file (.stream [0x61, 0x0A]))]

/-- A directory with two files. -/
def twoFiles (first second : Bytes) : FileSystem where
  root := .directory none (twoEntries first second)

/-- A rule that occurs in both files and is sanctioned under one key. -/
def sanctionedUnder (key : String) : Rule where
  source := "a"
  occursIn := (·.contains 0x61)
  expected := .ofList [key]

/-- Every file is in scope of one rule. -/
def onlyRule (rule : Rule) : Ruleset where
  scope := { included := [fun _ => true], excluded := [] }
  rules := [rule]

/-- Two files in one directory can have two possible names. -/
theorem isListing_twoEntries {first second : Bytes} (named : Files.IsName first)
    (named' : Files.IsName second) (different : first ≠ second)
    : Files.IsListing (twoEntries first second) where
  distinct := by simpa [twoEntries] using different
  named := List.forall_mem_cons.mpr ⟨named, List.forall_mem_singleton.mpr named'⟩

/-- A directory with two files has no listing but its own. -/
theorem everywhere_twoFiles {holds : List (Bytes × Node) → Prop} {first second : Bytes}
    (here : holds (twoEntries first second))
    : (twoFiles first second).root.Everywhere holds :=
  Files.everywhere_of_files here
    (List.forall_mem_cons.mpr ⟨⟨_, rfl⟩, List.forall_mem_singleton.mpr ⟨_, rfl⟩⟩)

/-- The files `é` and `è` have a key each, and the one that is not sanctioned is extra. -/
theorem keys_identify_files_sample
    : ∃ seen keys,
        (emptyFor (onlyRule (sanctionedUnder "é"))).explore (onlyRule (sanctionedUnder "é"))
            (twoFiles [0xC3, 0xA9] [0xC3, 0xA8]) .listed [Path.dot]
          = (seen, none)
        ∧ seen.actual[0]? = some keys
        ∧ keys.toList.length = 2
        ∧ "è" ∈ ((sanctionedUnder "é").mismatches keys).extra := by
  have possible : Files.IsListing (twoEntries [0xC3, 0xA9] [0xC3, 0xA8]) := by
    refine isListing_twoEntries ?_ ?_ (by decide) <;>
      exact ⟨⟨by decide, by decide, by decide⟩, by decide, by decide, by decide⟩
  have apart : DecodesApart (twoEntries [0xC3, 0xA9] [0xC3, 0xA8]) :=
    Files.decodesApart_of_utf8 possible
      (List.forall_mem_cons.mpr ⟨rfl, List.forall_mem_singleton.mpr rfl⟩)
  have started : Walk.start (twoFiles [0xC3, 0xA9] [0xC3, 0xA8]) [Path.dot]
      = .ok (twoFiles [0xC3, 0xA9] [0xC3, 0xA8]).root :=
    rfl
  obtain ⟨_, counts⟩ :=
    @keys_identify_files (onlyRule (sanctionedUnder "é")) _ _ _ (everywhere_twoFiles possible)
      started (everywhere_twoFiles apart)
  obtain ⟨keys, found, size, extra⟩ := counts .listed _ rfl 0 _ rfl
  refine ⟨_, keys, rfl, found, size, ?_⟩
  refine extra [([0x2E, 0x2F, 0xC3, 0xA9], .stream [0x61, 0x0A])] ?_ ?_
    ([0x2E, 0x2F, 0xC3, 0xA8], .stream [0x61, 0x0A]) ?_ (by decide)
  · exact List.cons_subset_cons _ (List.nil_subset _)
  · intro key sanctioned
    obtain rfl := List.mem_singleton.mp (KeySet.mem_ofList.mp sanctioned)
    exact ⟨_, List.mem_singleton_self _, rfl⟩
  · exact List.mem_cons_of_mem _ (List.mem_singleton_self _)

/-- A name that is no UTF-8 can have the key of another file. Of the two files here, in both of
which the rule occurs, one stands for both: there is one key, and with it sanctioned nothing is
extra.
-/
theorem keys_collide
    : ∃ seen keys,
        (twoFiles [0xEF, 0xBF, 0xBD] [0xFF]).WellFormed
        ∧ (Walk.paths
              (Walk.visitsFrom (twoFiles [0xEF, 0xBF, 0xBD] [0xFF]) .listed [Path.dot])).map
            Path.key
          = ["\uFFFD", "\uFFFD"]
        ∧ (emptyFor (onlyRule (sanctionedUnder "\uFFFD"))).explore
              (onlyRule (sanctionedUnder "\uFFFD")) (twoFiles [0xEF, 0xBF, 0xBD] [0xFF]) .listed
              [Path.dot]
          = (seen, none)
        ∧ seen.filesChecked = 2
        ∧ seen.actual[0]? = some keys
        ∧ keys.toList.length = 1
        ∧ ((sanctionedUnder "\uFFFD").mismatches keys).extra = ∅ := by
  refine ⟨_, _, everywhere_twoFiles ?_, rfl, rfl, rfl, rfl, rfl, rfl⟩
  refine isListing_twoEntries ?_ ?_ (by decide) <;>
    exact ⟨⟨by decide, by decide, by decide⟩, by decide, by decide, by decide⟩

end Observations

end PatternAudit
