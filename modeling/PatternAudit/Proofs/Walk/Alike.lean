import Mathlib.Data.List.Forall2
import PatternAudit.Proofs.Files.Listings
import PatternAudit.Proofs.Walk.Scanning
import PatternAudit.Proofs.Walk.Siblings

/-! Trees that a walk cannot tell apart. They have the same entries of the same kinds, the same of
these can be read, and the regular files in scope read alike; what links, special files and files
out of scope hold is left open. Scanning then cannot tell sorted walks apart.
-/

namespace PatternAudit

open Files (Node Content Hindrance IsListing)

-----------------------------------------------------------------------------------------
-- Contents that read alike
-----------------------------------------------------------------------------------------

namespace Files.Content

/-- The bytes that reading delivers before it ends or fails. -/
def bytes : Content → Bytes
  | unopenable _ => []
  | stream bytes _ => bytes

/-- Contents that read alike deliver the same bytes, and either both can be read to the end or
neither can. Why reading fails may differ.
-/
structure ReadsAlike (left right : Content) : Prop where
  bytes : left.bytes = right.bytes
  whole : left.fault? = none ↔ right.fault? = none

/-- The lines that are read are those of the delivered bytes. -/
theorem lines_eq (content : Content)
    : content.lines
      = (Lines.delivered content.fault?.isSome content.bytes).map Lines.strip := by
  cases content with
  | unopenable fault => rfl
  | stream bytes fault => rfl

namespace ReadsAlike

variable {left right : Content}

/-- Reading fails in both or in neither. -/
theorem failing (alike : left.ReadsAlike right)
    : left.fault?.isSome = right.fault?.isSome := by
  rw [Bool.eq_iff_iff, Option.isSome_iff_ne_none, Option.isSome_iff_ne_none]
  exact not_congr alike.whole

/-- Contents that read alike give the same lines. -/
theorem lines (alike : left.ReadsAlike right) : left.lines = right.lines := by
  rw [lines_eq, lines_eq, alike.failing, alike.bytes]

/-- Under one path, contents that read alike still do: a path can only be too long for both. -/
theorem contentUnder (alike : left.ReadsAlike right) (path : Bytes)
    : (Walk.contentUnder path left).ReadsAlike (Walk.contentUnder path right) := by
  unfold Walk.contentUnder
  split
  · exact ⟨rfl, .rfl⟩
  · exact alike

end ReadsAlike

end Files.Content

-----------------------------------------------------------------------------------------
-- Visits that scanning cannot tell apart
-----------------------------------------------------------------------------------------

namespace Walk

/-- Walks that scanning cannot tell apart. They meet the same regular files, which read alike if
they are in scope, up to failures of the same path if they come to failures; what would be met after
these is left open.
-/
inductive ScansAlike (accepts : String → Bool) : List Visit → List Visit → Prop
  | nil : ScansAlike accepts [] []
  | failed {path fault fault' left right}
    : ScansAlike accepts (.failed { path, fault } :: left)
        (.failed { path, fault := fault' } :: right)
  | file {path content content' left right}
    (same : accepts (Path.key path) = true → content.ReadsAlike content')
    (rest : ScansAlike accepts left right)
    : ScansAlike accepts (.file path content :: left) (.file path content' :: right)

section Files

variable {scope : Scope} {path : Bytes} {content content' : Content}

/-- Scanning does the same at files that read alike if they are in scope. -/
theorem events_file_congr
    (same : scope.accepts (Path.key path) = true → content.ReadsAlike content')
    : (Visit.file path content).events scope = (Visit.file path content').events scope := by
  simp only [Visit.events]
  split
  · next inScope =>
      have reads := same inScope
      rw [Observations.Event.ofFile, Observations.Event.ofFile, reads.lines, reads.failing]
  · rfl

/-- Files that read alike if they are in scope both fail, at the same path, or neither does. -/
theorem failure?_file_congr
    (same : scope.accepts (Path.key path) = true → content.ReadsAlike content')
    : ((Visit.file path content).failure? scope).map (·.path)
      = ((Visit.file path content').failure? scope).map (·.path) := by
  by_cases inScope : scope.accepts (Path.key path) = true
  · have failing := (same inScope).failing
    simp only [Visit.failure?, if_pos inScope, Option.map_map]
    cases fault : content.fault? with
    | none =>
        have whole : content'.fault? = none := by simpa [fault] using failing.symm
        rw [whole]
    | some first =>
        obtain ⟨second, fault'⟩ : ∃ second, content'.fault? = some second := by
          simpa [fault, Option.isSome_iff_exists] using failing.symm
        rw [fault']
        rfl
  · simp only [Visit.failure?, if_neg inScope]

end Files

section Scanning

variable {scope : Scope} {left right : List Visit}

/-- Walks that scanning cannot tell apart fail at the same path, or neither does. -/
theorem ScansAlike.failure (alike : ScansAlike scope.accepts left right)
    : (left.findSome? (Visit.failure? scope)).map (·.path)
      = (right.findSome? (Visit.failure? scope)).map (·.path) := by
  induction alike with
  | nil => rfl
  | failed => rfl
  | @file path content content' left right first _ ih =>
      have same := failure?_file_congr first
      rw [List.findSome?_cons, List.findSome?_cons]
      cases failed : (Visit.file path content).failure? scope with
      | none =>
          have passes : (Visit.file path content').failure? scope = none := by
            simpa [failed] using same.symm
          rw [passes]
          exact ih
      | some failure =>
          obtain ⟨failure', failed'⟩
              : ∃ failure', (Visit.file path content').failure? scope = some failure' := by
            rw [failed] at same
            exact (Option.map_eq_some_iff.mp same.symm).imp fun _ => And.left
          rw [failed, failed'] at same
          rw [failed']
          exact same

/-- Exploring does the same along walks that scanning cannot tell apart. -/
theorem ScansAlike.events (alike : ScansAlike scope.accepts left right)
    : events scope left = events scope right := by
  induction alike with
  | nil => rfl
  | failed => rw [events_cons, events_cons]; rfl
  | @file path content content' left right first _ ih =>
      have failing : ((Visit.file path content).failure? scope).isSome
          = ((Visit.file path content').failure? scope).isSome := by
        rw [← Option.isSome_map (f := (·.path)), failure?_file_congr first, Option.isSome_map]
      rw [events_cons, events_cons, events_file_congr first, failing, ih]

/-- Walks made of two parts cannot be told apart if their parts cannot. -/
theorem ScansAlike.append {accepts : String → Bool} {left right left' right' : List Visit}
    (first : ScansAlike accepts left right) (second : ScansAlike accepts left' right')
    : ScansAlike accepts (left ++ left') (right ++ right') := by
  induction first with
  | nil => exact second
  | failed => exact .failed
  | file same _ ih => exact .file same ih

/-- Walks cannot be told apart if their parts cannot, one by one. -/
theorem ScansAlike.flatten {accepts : String → Bool} {left right : List (List Visit)}
    (parts : List.Forall₂ (ScansAlike accepts) left right)
    : ScansAlike accepts left.flatten right.flatten := by
  induction parts with
  | nil => exact .nil
  | cons first _ ih => exact first.append ih

end Scanning

end Walk

/-- Exploring along walks that scanning cannot tell apart ends with the same observations, and fails
at the same path or succeeds both times.
-/
theorem Observations.matchVisits_alike {ruleset : Ruleset} {left right : List Walk.Visit}
    (alike : Walk.ScansAlike ruleset.scope.accepts left right)
    (seen : Observations)
    : (seen.matchVisits ruleset left).1 = (seen.matchVisits ruleset right).1
      ∧ (seen.matchVisits ruleset left).2.map (·.path)
        = (seen.matchVisits ruleset right).2.map (·.path) := by
  obtain ⟨gains, ending⟩ := matchVisits_spec ruleset seen left
  obtain ⟨gains', ending'⟩ := matchVisits_spec ruleset seen right
  rw [← alike.events] at gains'
  refine ⟨gains.unique gains', ?_⟩
  rw [ending, ending', alike.failure]

-----------------------------------------------------------------------------------------
-- Sorted siblings
-----------------------------------------------------------------------------------------

namespace Walk

/-- In a sorted order, this name comes before that one or is the same. -/
def Order.Precedes : Order → Bytes → Bytes → Prop
  | ascending, name, other => name ≤ other
  | descending, name, other => other ≤ name
  | listed, _, _ => True

/-- Sorted siblings stand in the order of their names. -/
theorem Order.pairwise_arrange {α : Type} (order : Order) (siblings : List (Bytes × α))
    : ((order.arrange siblings).map (·.1)).Pairwise order.Precedes := by
  rw [List.pairwise_map]
  cases order with
  | ascending =>
      refine (List.pairwise_mergeSort (fun a b c => ?_) (fun a b => ?_) siblings).imp ?_
      · simpa using List.le_trans
      · simpa using List.le_total _ _
      · simp [Precedes]
  | descending =>
      refine (List.pairwise_mergeSort (fun a b c => ?_) (fun a b => ?_) siblings).imp ?_
      · simpa using fun first second => List.le_trans second first
      · simpa using List.le_total _ _
      · simp [Precedes]
  | listed => exact List.pairwise_of_forall fun _ _ => trivial

/-- Of two names in a sorted order, each before the other, neither is. -/
theorem Order.Precedes.antisymm {order : Order} (sorted : order ≠ .listed) {name other : Bytes}
    (first : order.Precedes name other) (second : order.Precedes other name)
    : name = other := by
  cases order with
  | ascending => exact List.le_antisymm first second
  | descending => exact List.le_antisymm second first
  | listed => exact absurd rfl sorted

/-- Two listings of the same names are sorted into the same order of names. -/
theorem Order.map_fst_arrange {α : Type} {order : Order} (sorted : order ≠ .listed)
    {left right : List (Bytes × α)} (same : (left.map (·.1)).Perm (right.map (·.1)))
    : (order.arrange left).map (·.1) = (order.arrange right).map (·.1) := by
  have permuted : ((order.arrange left).map (·.1)).Perm ((order.arrange right).map (·.1)) :=
    (((order.arrange_perm left).map _).trans same).trans ((order.arrange_perm right).map _).symm
  exact permuted.eq_of_pairwise (fun _ _ _ _ => Precedes.antisymm sorted)
    (order.pairwise_arrange left) (order.pairwise_arrange right)

/-- Where lists name the same in the same order, what their items of the same name have is related
item by item.
-/
theorem forall₂_of_map_fst {α : Type} {related : α → α → Prop} {left right : List (Bytes × α)}
    (names : left.map (·.1) = right.map (·.1))
    (each
      : ∀ item ∈ left, ∀ item' ∈ right, item.1 = item'.1 → related item.2 item'.2)
    : List.Forall₂ related (left.map (·.2)) (right.map (·.2)) := by
  induction left generalizing right with
  | nil =>
      obtain rfl : right = [] := by simpa using names.symm
      exact .nil
  | cons item left ih =>
      cases right with
      | nil => cases names
      | cons item' right =>
          obtain ⟨name, names⟩ := List.cons.inj names
          refine .cons (each _ List.mem_cons_self _ List.mem_cons_self name) (ih names ?_)
          intro further isFurther further' isFurther'
          exact each _ (List.mem_cons_of_mem _ isFurther) _ (List.mem_cons_of_mem _ isFurther')

/-- Sorting keeps related what siblings of the same name have. -/
theorem Order.forall₂_arrange {α : Type} {order : Order} (sorted : order ≠ .listed)
    {related : α → α → Prop} {left right : List (Bytes × α)}
    (same : (left.map (·.1)).Perm (right.map (·.1)))
    (each
      : ∀ item ∈ left, ∀ item' ∈ right, item.1 = item'.1 → related item.2 item'.2)
    : List.Forall₂ related ((order.arrange left).map (·.2)) ((order.arrange right).map (·.2)) := by
  refine forall₂_of_map_fst (Order.map_fst_arrange sorted same) fun item isItem item' isItem' => ?_
  exact each item ((order.arrange_perm left).mem_iff.mp isItem) item'
    ((order.arrange_perm right).mem_iff.mp isItem')

-----------------------------------------------------------------------------------------
-- Trees that a walk cannot tell apart
-----------------------------------------------------------------------------------------

/-- A node that a walk passes over. -/
def IsPassedOver : Node → Prop
  | .special _ | .link _ => True
  | .file _ | .directory .. => False

/-- Of two directories, both are listed whole, both cannot be opened, or both have a listing that
breaks off.
-/
inductive ListedAlike : Option Hindrance → Option Hindrance → Prop
  | whole : ListedAlike none none
  | refused {fault fault'} : ListedAlike (some (.refused fault)) (some (.refused fault'))
  | broken {listed listed' fault fault'}
    : ListedAlike (some (.broken listed fault)) (some (.broken listed' fault'))

/-- What stands at one path in two trees looks alike: nothing, two directories that are listed
alike, two regular files that read alike if they are in scope, or two nodes that a walk passes
over.
-/
inductive LooksAlike (accepts : String → Bool) (path : Bytes) : Option Node → Option Node → Prop
  | absent : LooksAlike accepts path none none
  | directory {hindrance hindrance' entries entries'} (listed : ListedAlike hindrance hindrance')
    : LooksAlike accepts path (some (.directory hindrance entries))
        (some (.directory hindrance' entries'))
  | file {content content'}
    (same : accepts (Path.key path) = true → content.ReadsAlike content')
    : LooksAlike accepts path (some (.file content)) (some (.file content'))
  | passedOver {node node'} (first : IsPassedOver node) (second : IsPassedOver node')
    : LooksAlike accepts path (some node) (some node')

/-- Two trees look alike at every place below a path. -/
def AlikeBelow (accepts : String → Bool) (path : Bytes) (node node' : Node) : Prop :=
  ∀ location,
    LooksAlike accepts (location.foldl Path.child path) (node.at? location) (node'.at? location)

namespace AlikeBelow

variable {accepts : String → Bool} {path : Bytes}

/-- Trees that look alike do so at their roots. -/
theorem here {node node' : Node} (alike : AlikeBelow accepts path node node')
    : LooksAlike accepts path (some node) (some node') := by
  have root := alike []
  rwa [Node.at?, Node.at?] at root

/-- Entries of the same name look alike if their directories do. -/
theorem entry {hindrance hindrance' : Option Hindrance} {entries entries' : List (Bytes × Node)}
    (alike
      : AlikeBelow accepts path (.directory hindrance entries) (.directory hindrance' entries'))
    {name : Bytes} {node node' : Node} (looked : entries.lookup name = some node)
    (looked' : entries'.lookup name = some node')
    : AlikeBelow accepts (Path.child path name) node node' := by
  intro location
  have further := alike (name :: location)
  simpa [Node.at?, looked, looked'] using further

/-- Directories that look alike have entries of the same names. -/
theorem names_perm {hindrance hindrance' : Option Hindrance}
    {entries entries' : List (Bytes × Node)}
    (alike
      : AlikeBelow accepts path (.directory hindrance entries) (.directory hindrance' entries'))
    (listing : IsListing entries) (listing' : IsListing entries')
    : (entries.map (·.1)).Perm (entries'.map (·.1)) := by
  refine (List.perm_ext_iff_of_nodup listing.distinct listing'.distinct).mpr fun name => ?_
  have here := alike [name]
  rw [Files.mem_names_iff, Files.mem_names_iff]
  simp only [Node.at?, Option.bind_fun_some, List.foldl_cons, List.foldl_nil] at here
  cases looked : entries.lookup name with
  | none =>
      cases looked' : entries'.lookup name with
      | none => exact .rfl
      | some node' =>
          rw [looked, looked'] at here
          cases here
  | some node =>
      cases looked' : entries'.lookup name with
      | none =>
          rw [looked, looked'] at here
          cases here
      | some node' => exact iff_of_true ⟨node, rfl⟩ ⟨node', rfl⟩

/-- Leaves look alike below a path if they do so at it. -/
theorem of_leaf {node node' : Node} (here : LooksAlike accepts path (some node) (some node'))
    (leaf : node.isLeaf) (leaf' : node'.isLeaf)
    : AlikeBelow accepts path node node' := by
  intro location
  cases location with
  | nil =>
      rw [Node.at?, Node.at?]
      exact here
  | cons name location =>
      rw [Node.at?_of_isLeaf leaf, Node.at?_of_isLeaf leaf']
      exact .absent

/-- Directories look alike if their entries of each name do. -/
theorem of_entries {hindrance hindrance' : Option Hindrance}
    {entries entries' : List (Bytes × Node)} (listed : ListedAlike hindrance hindrance')
    (each
      : ∀ name,
          Option.Rel (AlikeBelow accepts (Path.child path name))
            (entries.lookup name) (entries'.lookup name))
    : AlikeBelow accepts path (.directory hindrance entries) (.directory hindrance' entries') := by
  intro location
  cases location with
  | nil =>
      rw [Node.at?, Node.at?]
      exact .directory listed
  | cons name location =>
      rw [Node.at?, Node.at?]
      have here := each name
      revert here
      generalize entries.lookup name = looked, entries'.lookup name = looked'
      rintro (below | -)
      · exact below location
      · exact .absent

end AlikeBelow

/-- Nothing is met from a node that is passed over. -/
theorem visits_of_isPassedOver {order : Order} {root path : Bytes} {node : Node}
    (passedOver : IsPassedOver node)
    : visits order root path node = [] := by
  cases node with
  | special | link => rfl
  | file | directory => exact passedOver.elim

/-- Under one path, directories are listed alike if they are by themselves: a path can only be too
long for both.
-/
theorem ListedAlike.under {hindrance hindrance' : Option Hindrance}
    (listed : ListedAlike hindrance hindrance') (path : Bytes)
    : ListedAlike (hindranceUnder path hindrance) (hindranceUnder path hindrance') := by
  unfold hindranceUnder
  split
  · exact .refused
  · exact listed

/-- Where a listing breaks off, a sorted walk comes to the failure first. -/
theorem Order.breakOff_of_sorted {order : Order} (sorted : order ≠ .listed) (failure : Visit)
    (met : List Visit)
    : order.breakOff failure met = failure :: met := by
  cases order with
  | ascending | descending => rfl
  | listed => exact absurd rfl sorted

/-- The walk of a directory's entries keeps their names. -/
theorem map_fst_visitsOfEach (order : Order) (root path : Bytes) (entries : List (Bytes × Node))
    : (visitsOfEach order root path entries).map (·.1) = entries.map (·.1) := by
  rw [visitsOfEach_eq, List.map_map]
  rfl

/-- What is met from an entry is what is met from its node. -/
theorem mem_visitsOfEach {order : Order} {root path : Bytes} {entries : List (Bytes × Node)}
    {group : Bytes × List Visit}
    : group ∈ visitsOfEach order root path entries
      ↔ ∃ entry ∈ entries,
          (entry.1, visits order root (Path.child path entry.1) entry.2) = group := by
  rw [visitsOfEach_eq, List.mem_map]

mutual

/-- Scanning cannot tell apart sorted walks of trees that look alike, by recursion on the tree. -/
theorem visits_alike {accepts : String → Bool} {order : Order} (sorted : order ≠ .listed)
    (root : Bytes) {path : Bytes}
    : {node : Node}
      → node.Everywhere IsListing
      → ∀ node',
          node'.Everywhere IsListing
          → AlikeBelow accepts path node node'
          → ScansAlike accepts (visits order root path node) (visits order root path node')
  | .file content, _, node', _, alike => by
      cases alike.here with
      | file same => exact .file (fun inScope => (same inScope).contentUnder path) .nil
      | passedOver first _ => exact first.elim
  | .special content, _, node', _, alike => by
      cases alike.here with
      | passedOver _ second =>
          rw [visits_of_isPassedOver second]
          exact .nil
  | .link target, _, node', _, alike => by
      cases alike.here with
      | passedOver _ second =>
          rw [visits_of_isPassedOver second]
          exact .nil
  | .directory hindrance entries, everywhere, node', everywhere', alike => by
      cases alike.here with
      | passedOver first _ => exact first.elim
      | @directory _ hindrance' _ entries' listed =>
          rw [visits_directory, visits_directory]
          have under := listed.under path
          generalize hindranceUnder path hindrance = state,
            hindranceUnder path hindrance' = state' at under ⊢
          cases under with
          | refused => exact .failed
          | broken =>
              simp only [Order.breakOff_of_sorted sorted]
              exact .failed
          | whole =>
              refine .flatten (Order.forall₂_arrange sorted ?_ ?_)
              · rw [map_fst_visitsOfEach, map_fst_visitsOfEach]
                exact alike.names_perm everywhere.listing everywhere'.listing
              · intro item isItem item' isItem' sameName
                obtain ⟨⟨name, entry⟩, isEntry, rfl⟩ := mem_visitsOfEach.mp isItem
                obtain ⟨⟨name', entry'⟩, isEntry', rfl⟩ := mem_visitsOfEach.mp isItem'
                obtain rfl : name = name' := sameName
                have below := everywhere.entries everywhere.listing
                have below' := everywhere'.entries everywhere'.listing
                exact visits_alikeEach sorted root (fun entry member => (below entry member).2) _
                  isEntry entry' (below' _ isEntry').2
                  (alike.entry (everywhere.listing.lookup isEntry)
                    (everywhere'.listing.lookup isEntry'))
termination_by structural node => node

/-- The same for some entries of a directory, each with what looks like it. -/
theorem visits_alikeEach {accepts : String → Bool} {order : Order} (sorted : order ≠ .listed)
    (root : Bytes) {path : Bytes}
    : {entries : List (Bytes × Node)}
      → (∀ entry ∈ entries, entry.2.Everywhere IsListing)
      → ∀ entry ∈ entries, ∀ node',
          node'.Everywhere IsListing
          → AlikeBelow accepts (Path.child path entry.1) entry.2 node'
          → ScansAlike accepts
              (visits order root (Path.child path entry.1) entry.2)
              (visits order root (Path.child path entry.1) node')
  | [], _ => by simp
  | (name, node) :: entries, everywhere => by
      obtain ⟨first, rest⟩ := List.forall_mem_cons.mp everywhere
      exact List.forall_mem_cons.mpr
        ⟨visits_alike sorted root first, visits_alikeEach sorted root rest⟩
termination_by structural entries => entries

end

end Walk

end PatternAudit
