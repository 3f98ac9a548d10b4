import PatternAudit.Proofs.Files.Listings
import PatternAudit.Proofs.Walk.Alike

/-! The order in which a walk comes to the places of a tree: to a directory before what it holds,
and to everything in an entry before anything in the entries after it. A listing that breaks off
and is not sorted does so after what it gave. Every tree has one list of its places in this order.
-/

namespace PatternAudit.Walk

open Files (Node Location Hindrance IsListing)

-----------------------------------------------------------------------------------------
-- What comes before what
-----------------------------------------------------------------------------------------

/-- Of the names in a listing, an order puts one before another: by their bytes, or as they are
listed.
-/
def Order.Puts (names : List Bytes) : Order → Bytes → Bytes → Prop
  | ascending, name, other => name < other
  | descending, name, other => other < name
  | listed, name, other => names.idxOf name < names.idxOf other

/-- No two names are each put before the other. -/
theorem Order.Puts.asymm {names : List Bytes} {order : Order} {name other : Bytes}
    (puts : order.Puts names name other)
    : ¬order.Puts names other name := by
  cases order with
  | ascending | descending => exact List.lt_asymm puts
  | listed => exact Nat.lt_asymm puts

/-- How many entries of a directory come before the directory itself. There are some only where its
listing breaks off and is not sorted.
-/
def Order.ahead (order : Order) (path : Bytes) (hindrance : Option Hindrance) : Nat :=
  match order, hindranceUnder path hindrance with
  | listed, some (.broken count _) => count
  | _, _ => 0

/-- In a tree under a path, one place comes before another on a walk. -/
inductive Before (order : Order) : Bytes → Node → Location → Location → Prop
  /-- A directory comes before what it holds. -/
  | contents {path hindrance entries name place}
    (later : order.ahead path hindrance ≤ (entries.map (·.1)).idxOf name)
    : Before order path (.directory hindrance entries) [] (name :: place)
  /-- What a listing gave comes before the listing breaks off. -/
  | given {path hindrance entries name place}
    (earlier : (entries.map (·.1)).idxOf name < order.ahead path hindrance)
    : Before order path (.directory hindrance entries) (name :: place) []
  /-- All of one entry comes before all of an entry that the order puts later. -/
  | siblings {path hindrance entries name other place further}
    (puts : order.Puts (entries.map (·.1)) name other)
    : Before order path (.directory hindrance entries) (name :: place) (other :: further)
  /-- In one entry, what comes before there. -/
  | inside {path hindrance entries name node place further}
    (looked : entries.lookup name = some node)
    (before : Before order (Path.child path name) node place further)
    : Before order path (.directory hindrance entries) (name :: place) (name :: further)

/-- No two places each come before the other, by induction on the derivation. -/
theorem Before.asymm {order : Order} {path : Bytes} {node : Node} {place further : Location}
    (before : Before order path node place further)
    : ¬Before order path node further place := by
  induction before with
  | contents later =>
      rintro (_ | again)
      exact Nat.not_lt.mpr later again
  | given earlier =>
      rintro (again | _)
      exact Nat.not_lt.mpr again earlier
  | siblings puts =>
      rintro (_ | _ | again | _)
      · exact puts.asymm again
      · exact puts.asymm puts
  | inside looked _ ih =>
      rintro (_ | _ | again | ⟨again, after⟩)
      · exact again.asymm again
      · obtain rfl := Option.some.inj (looked.symm.trans again)
        exact ih after

/-- The places of a tree under a path, each with the node that stands there, in visiting order. -/
structure IsVisitingOrder (order : Order) (path : Bytes) (node : Node)
    (entries : List (Location × Node))
    : Prop where
  complete : ∀ place found, (place, found) ∈ entries ↔ node.at? place = some found
  ordered : entries.Pairwise fun entry later => Before order path node entry.1 later.1

/-- No place comes twice, since none comes before itself. -/
theorem IsVisitingOrder.nodup {order : Order} {path : Bytes} {node : Node}
    {entries : List (Location × Node)} (visiting : IsVisitingOrder order path node entries)
    : entries.Nodup :=
  visiting.ordered.imp fun before same => (same ▸ before).asymm (same ▸ before)

/-- A tree has only one visiting order. -/
theorem IsVisitingOrder.unique {order : Order} {path : Bytes} {node : Node}
    {left right : List (Location × Node)} (first : IsVisitingOrder order path node left)
    (second : IsVisitingOrder order path node right)
    : left = right := by
  have same : left.Perm right := by
    refine (List.perm_ext_iff_of_nodup first.nodup second.nodup).mpr fun entry => ?_
    exact (first.complete _ _).trans (second.complete _ _).symm
  exact same.eq_of_pairwise (fun _ _ _ _ before after => absurd after before.asymm)
    first.ordered second.ordered

-----------------------------------------------------------------------------------------
-- Arranged siblings
-----------------------------------------------------------------------------------------

/-- Siblings are arranged by their names, whatever they have beside them. -/
theorem Order.arrange_map {α β : Type} (order : Order) (having : Bytes × α → β)
    (siblings : List (Bytes × α))
    : order.arrange (siblings.map fun sibling => (sibling.1, having sibling))
      = (order.arrange siblings).map fun sibling => (sibling.1, having sibling) := by
  cases order with
  | ascending | descending =>
      rw [arrange, arrange, List.map_mergeSort]
      exact fun _ _ _ _ => rfl
  | listed => rfl

/-- Arranged siblings of distinct names stand as the order puts them. -/
theorem Order.pairwise_puts {α : Type} (order : Order) {siblings : List (Bytes × α)}
    (distinct : (siblings.map (·.1)).Nodup)
    : ((order.arrange siblings).map (·.1)).Pairwise (order.Puts (siblings.map (·.1))) := by
  have arranged := order.pairwise_arrange siblings
  have different := ((order.arrange_perm siblings).map (·.1)).nodup_iff.mpr distinct
  cases order with
  | ascending =>
      refine (arranged.and different).imp fun ⟨precedes, other⟩ => ?_
      exact (List.le_iff_lt_or_eq.mp precedes).resolve_right other
  | descending =>
      refine (arranged.and different).imp fun ⟨precedes, other⟩ => ?_
      exact (List.le_iff_lt_or_eq.mp precedes).resolve_right other.symm
  | listed =>
      refine List.pairwise_iff_getElem.mpr fun first second isFirst isSecond less => ?_
      rw [arrange] at isFirst isSecond
      simpa only [Puts, arrange, distinct.idxOf_getElem] using less

/-- Of arranged siblings, those that come before their directory are the first that it lists, and
the others come later there.
-/
theorem Order.ahead_arrange {α : Type} (order : Order) (path : Bytes)
    (hindrance : Option Hindrance) {siblings : List (Bytes × α)}
    (distinct : (siblings.map (·.1)).Nodup)
    : (∀ sibling ∈ (order.arrange siblings).take (order.ahead path hindrance),
        (siblings.map (·.1)).idxOf sibling.1 < order.ahead path hindrance)
      ∧ ∀ sibling ∈ (order.arrange siblings).drop (order.ahead path hindrance),
          order.ahead path hindrance ≤ (siblings.map (·.1)).idxOf sibling.1 := by
  generalize state : order.ahead path hindrance = count
  cases order with
  | ascending | descending =>
      obtain rfl : 0 = count := state
      simp
  | listed =>
      constructor
      · intro sibling isGiven
        have named : sibling.1 ∈ (siblings.map (·.1)).take count := by
          rw [← List.map_take]
          exact List.mem_map_of_mem isGiven
        exact (List.mem_take_iff_idxOf_lt (List.mem_of_mem_take named)).mp named
      · intro sibling isLater
        have named : sibling.1 ∈ (siblings.map (·.1)).drop count := by
          rw [← List.map_drop]
          exact List.mem_map_of_mem isLater
        refine Nat.not_lt.mp fun less => ?_
        have given := (List.mem_take_iff_idxOf_lt (List.mem_of_mem_drop named)).mpr less
        exact List.disjoint_take_drop distinct (Nat.le_refl count) given named

-----------------------------------------------------------------------------------------
-- The places in visiting order
-----------------------------------------------------------------------------------------

/-- An entry as it is seen from the directory that has it under a name. -/
def within (name : Bytes) (entry : Location × Node) : Location × Node :=
  (name :: entry.1, entry.2)

mutual

/-- The places at or below a node under a path, each with what stands there, one after the other.
-/
def places (order : Order) (path : Bytes) : Node → List (Location × Node)
  | .file content => [([], .file content)]
  | .special content => [([], .special content)]
  | .link target => [([], .link target)]
  | .directory hindrance entries =>
    let groups := order.arrange (placesOfEach order path entries)
    (groups.take (order.ahead path hindrance)).flatMap (·.2)
      ++ ([], .directory hindrance entries)
        :: (groups.drop (order.ahead path hindrance)).flatMap (·.2)
termination_by structural node => node

/-- The places in each entry of a directory, with the entry's name. -/
def placesOfEach (order : Order) (path : Bytes)
    : List (Bytes × Node) → List (Bytes × List (Location × Node))
  | [] => []
  | (name, node) :: entries =>
    (name, (places order (Path.child path name) node).map (within name))
      :: placesOfEach order path entries
termination_by structural entries => entries

end

/-- A leaf has one place. -/
theorem places_of_isLeaf (order : Order) (path : Bytes) {node : Node} (leaf : node.isLeaf)
    : places order path node = [([], node)] := by
  cases node with
  | directory hindrance entries => cases leaf
  | file | special | link => rfl

/-- The places in an entry of a directory under a path. -/
def placesIn (order : Order) (path : Bytes) (entry : Bytes × Node) : List (Location × Node) :=
  (places order (Path.child path entry.1) entry.2).map (within entry.1)

/-- The places of each entry, entry by entry. -/
theorem placesOfEach_eq (order : Order) (path : Bytes) (entries : List (Bytes × Node))
    : placesOfEach order path entries
      = entries.map fun entry => (entry.1, placesIn order path entry) := by
  induction entries with
  | nil => rfl
  | cons entry entries ih =>
      rw [placesOfEach, ih, List.map_cons]
      rfl

/-- The places of a directory are its own and those in its entries, in their order. -/
theorem places_directory (order : Order) (path : Bytes) (hindrance : Option Hindrance)
    (entries : List (Bytes × Node))
    : places order path (.directory hindrance entries)
      = ((order.arrange entries).take (order.ahead path hindrance)).flatMap (placesIn order path)
        ++ ([], .directory hindrance entries)
          :: ((order.arrange entries).drop (order.ahead path hindrance)).flatMap
            (placesIn order path) := by
  rw [places, placesOfEach_eq, Order.arrange_map, ← List.map_take, ← List.map_drop,
    List.flatMap_map, List.flatMap_map]

/-- The places of a directory are, in some order, its own and those in its entries. -/
theorem places_directory_perm (order : Order) (path : Bytes) (hindrance : Option Hindrance)
    (entries : List (Bytes × Node))
    : (places order path (.directory hindrance entries)).Perm
        (([], .directory hindrance entries) :: entries.flatMap (placesIn order path)) := by
  rw [places_directory]
  refine List.perm_middle.trans (List.Perm.cons _ ?_)
  rw [← List.flatMap_append, List.take_append_drop]
  exact (order.arrange_perm entries).flatMap_right _

/-- In a directory there are its own place and those in its entries. -/
theorem mem_places_directory {order : Order} {path : Bytes} {hindrance : Option Hindrance}
    {entries : List (Bytes × Node)} {located : Location × Node}
    : located ∈ places order path (.directory hindrance entries)
      ↔ located = ([], .directory hindrance entries)
        ∨ ∃ entry ∈ entries,
            ∃ below ∈ places order (Path.child path entry.1) entry.2,
              within entry.1 below = located := by
  rw [(places_directory_perm order path hindrance entries).mem_iff]
  simp only [placesIn, List.mem_cons, List.mem_flatMap, List.mem_map]

/-- The places of a leaf are in visiting order. -/
theorem isVisitingOrder_of_isLeaf (order : Order) (path : Bytes) {node : Node}
    (leaf : node.isLeaf)
    : IsVisitingOrder order path node (places order path node) := by
  rw [places_of_isLeaf order path leaf]
  refine { complete := fun place found => ?_, ordered := List.pairwise_singleton _ _ }
  cases place with
  | nil => simp [Node.at?, eq_comm]
  | cons name place => simp [Node.at?_of_isLeaf leaf]

section Entries

variable {order : Order} {path : Bytes} {hindrance : Option Hindrance}
  {entries : List (Bytes × Node)}

/-- The places of a directory are all there are if those of its entries are. -/
theorem complete_of_entries (listing : IsListing entries)
    (each
      : ∀ entry ∈ entries,
          IsVisitingOrder order (Path.child path entry.1) entry.2
            (places order (Path.child path entry.1) entry.2))
    (place : Location) (found : Node)
    : (place, found) ∈ places order path (.directory hindrance entries)
      ↔ (Node.directory hindrance entries).at? place = some found := by
  rw [mem_places_directory]
  cases place with
  | nil => simp [Node.at?, within, eq_comm]
  | cons name place =>
      simp only [Node.at?, Option.bind_eq_some_iff]
      constructor
      · rintro (none | ⟨⟨_, node⟩, isEntry, ⟨_, _⟩, isPlace, same⟩)
        · cases none
        · cases same
          exact ⟨node, listing.lookup isEntry, ((each _ isEntry).complete _ _).mp isPlace⟩
      · rintro ⟨node, looked, here⟩
        obtain ⟨before, after, rfl, _⟩ := List.lookup_eq_some_iff.mp looked
        have isEntry : (name, node) ∈ before ++ (name, node) :: after := by simp
        exact .inr ⟨_, isEntry, _, ((each _ isEntry).complete _ _).mpr here, rfl⟩

/-- The places in the entries of a directory stand one before the other if those of each entry do,
since the entries are arranged.
-/
theorem ordered_placesIn (listing : IsListing entries)
    (each
      : ∀ entry ∈ entries,
          IsVisitingOrder order (Path.child path entry.1) entry.2
            (places order (Path.child path entry.1) entry.2))
    : ((order.arrange entries).flatMap (placesIn order path)).Pairwise fun entry later =>
        Before order path (.directory hindrance entries) entry.1 later.1 := by
  refine List.pairwise_flatMap.mpr ⟨fun entry arranged => ?_, ?_⟩
  · have isEntry := (order.arrange_perm entries).mem_iff.mp arranged
    exact List.pairwise_map.mpr
      ((each entry isEntry).ordered.imp fun before => .inside (listing.lookup isEntry) before)
  · refine (List.pairwise_map.mp (order.pairwise_puts listing.distinct)).imp fun puts => ?_
    intro first isFirst second isSecond
    obtain ⟨below, _, rfl⟩ := List.mem_map.mp isFirst
    obtain ⟨below', _, rfl⟩ := List.mem_map.mp isSecond
    exact .siblings puts

/-- The places of a directory stand one before the other if those of its entries do: its own comes
after the entries that are ahead of it and before the others.
-/
theorem ordered_of_entries (listing : IsListing entries)
    (each
      : ∀ entry ∈ entries,
          IsVisitingOrder order (Path.child path entry.1) entry.2
            (places order (Path.child path entry.1) entry.2))
    : (places order path (.directory hindrance entries)).Pairwise fun entry later =>
        Before order path (.directory hindrance entries) entry.1 later.1 := by
  have inside := @ordered_placesIn order path hindrance entries listing each
  rw [← List.take_append_drop (order.ahead path hindrance) (order.arrange entries),
    List.flatMap_append, List.pairwise_append] at inside
  obtain ⟨first, rest, across⟩ := inside
  obtain ⟨given, later⟩ := order.ahead_arrange path hindrance listing.distinct
  rw [places_directory]
  refine List.pairwise_append.mpr ⟨first, .cons ?_ rest, fun before isBefore => ?_⟩
  · intro after isAfter
    obtain ⟨entry, isLater, inEntry⟩ := List.mem_flatMap.mp isAfter
    obtain ⟨below, _, rfl⟩ := List.mem_map.mp inEntry
    exact .contents (later entry isLater)
  · refine List.forall_mem_cons.mpr ⟨?_, across before isBefore⟩
    obtain ⟨entry, isGiven, inEntry⟩ := List.mem_flatMap.mp isBefore
    obtain ⟨below, _, rfl⟩ := List.mem_map.mp inEntry
    exact .given (given entry isGiven)

end Entries

/-- The places of a tree are in visiting order, by induction on the tree. -/
theorem isVisitingOrder_places (order : Order) (path : Bytes) (node : Node)
    (everywhere : node.Everywhere IsListing)
    : IsVisitingOrder order path node (places order path node) := by
  induction node using Node.induction generalizing path with
  | leaf node leaf => exact isVisitingOrder_of_isLeaf order path leaf
  | directory hindrance entries ih =>
      have each : ∀ entry ∈ entries,
          IsVisitingOrder order (Path.child path entry.1) entry.2
            (places order (Path.child path entry.1) entry.2) :=
        fun entry isEntry =>
          ih entry isEntry _ (everywhere.entries everywhere.listing entry isEntry).2
      exact ⟨complete_of_entries everywhere.listing each,
        ordered_of_entries everywhere.listing each⟩

end PatternAudit.Walk
