import PatternAudit.Proofs.Files.Leading
import PatternAudit.Proofs.Text.Encoding

/-! What holds of every listing at or below a node, and when the names in a listing can be told
apart by the texts that they decode to.
-/

namespace PatternAudit.Files

-----------------------------------------------------------------------------------------
-- All listings below a node
-----------------------------------------------------------------------------------------

/-- Every listing at or below a node has a property. -/
def Node.Everywhere (holds : List (Bytes × Node) → Prop) (node : Node) : Prop :=
  ∀ location hindrance entries,
    node.at? location = some (.directory hindrance entries) → holds entries

namespace Node.Everywhere

variable {holds : List (Bytes × Node) → Prop}

/-- What holds everywhere below a node holds everywhere below the nodes in it. -/
theorem at? {root node : Node} (everywhere : root.Everywhere holds) {location : Location}
    (here : root.at? location = some node)
    : node.Everywhere holds := by
  intro further hindrance entries found
  refine everywhere (location ++ further) hindrance entries ?_
  rw [Node.at?_append, here]
  exact found

/-- The listing of a directory is one of those at or below it. -/
theorem listing {hindrance : Option Hindrance} {entries : List (Bytes × Node)}
    (everywhere : (directory hindrance entries).Everywhere holds)
    : holds entries :=
  everywhere [] hindrance entries rfl

/-- The entries of a directory have possible names, and what holds everywhere below the directory
holds everywhere below them.
-/
theorem entries {hindrance : Option Hindrance} {entries : List (Bytes × Node)}
    (everywhere : (directory hindrance entries).Everywhere holds) (possible : IsListing entries)
    : ∀ entry ∈ entries, IsName entry.1 ∧ entry.2.Everywhere holds := by
  rintro ⟨name, node⟩ member
  have here : (directory hindrance entries).at? [name] = some node := by
    simp [Node.at?, possible.lookup member]
  exact ⟨possible.named _ member, everywhere.at? here⟩

/-- The names that lead to a place below a node are possible, by induction on them. -/
theorem isName_of_at? {node found : Node} (everywhere : node.Everywhere IsListing)
    {location : Location} (here : node.at? location = some found)
    : ∀ name ∈ location, IsName name := by
  induction location generalizing node with
  | nil => exact List.forall_mem_nil _
  | cons name location ih =>
      cases node with
      | directory hindrance entries =>
          obtain ⟨next, looked, below⟩ := Option.bind_eq_some_iff.mp here
          obtain ⟨before, after, rfl, _⟩ := List.lookup_eq_some_iff.mp looked
          have isEntry : (name, next) ∈ before ++ (name, next) :: after := by simp
          obtain ⟨isName, deeper⟩ := everywhere.entries everywhere.listing _ isEntry
          exact List.forall_mem_cons.mpr ⟨isName, ih deeper below⟩
      | file | special | link => cases here

/-- What follows from a property holds wherever the property does. -/
theorem mono {node : Node} (everywhere : node.Everywhere holds)
    {follows : List (Bytes × Node) → Prop} (implies : ∀ entries, holds entries → follows entries)
    : node.Everywhere follows :=
  fun location hindrance entries found =>
    implies entries (everywhere location hindrance entries found)

end Node.Everywhere

/-- Nothing is below a node that is no directory. -/
def Node.isLeaf : Node → Bool
  | directory .. => false
  | file _ | special _ | link _ => true

/-- Below a leaf there is no place. -/
theorem Node.at?_of_isLeaf {node : Node} (leaf : node.isLeaf) (name : Bytes) (location : Location)
    : node.at? (name :: location) = none := by
  cases node with
  | directory hindrance entries => cases leaf
  | file | special | link => rfl

mutual

/-- What leaves have, and every directory whose entries have it, all nodes have. -/
theorem Node.induction {motive : Node → Prop} (leaf : ∀ node : Node, node.isLeaf → motive node)
    (directory
      : ∀ hindrance entries,
          (∀ entry ∈ entries, motive entry.2) → motive (.directory hindrance entries))
    : (node : Node) → motive node
  | .file _ => leaf _ rfl
  | .special _ => leaf _ rfl
  | .link _ => leaf _ rfl
  | .directory hindrance entries =>
    directory hindrance entries (inductionEach leaf directory entries)
termination_by structural node => node

/-- The same for the entries of a directory. -/
theorem Node.inductionEach {motive : Node → Prop}
    (leaf : ∀ node : Node, node.isLeaf → motive node)
    (directory
      : ∀ hindrance entries,
          (∀ entry ∈ entries, motive entry.2) → motive (.directory hindrance entries))
    : (entries : List (Bytes × Node)) → ∀ entry ∈ entries, motive entry.2
  | [] => List.forall_mem_nil _
  | (_, node) :: entries =>
      List.forall_mem_cons.mpr
        ⟨induction leaf directory node, inductionEach leaf directory entries⟩
termination_by structural entries => entries

end

/-- A leaf has no listing. -/
theorem everywhere_of_leaf {holds : List (Bytes × Node) → Prop} {node : Node}
    (leaf : node.isLeaf)
    : node.Everywhere holds := by
  intro location hindrance entries found
  cases location with
  | nil =>
      obtain rfl := Option.some.inj found
      cases leaf
  | cons name location => simp [Node.at?_of_isLeaf leaf] at found

/-- The listings of a directory are its own and those of its entries. -/
theorem everywhere_of_entries {holds : List (Bytes × Node) → Prop} {hindrance : Option Hindrance}
    {entries : List (Bytes × Node)} (here : holds entries)
    (each : ∀ entry ∈ entries, entry.2.Everywhere holds)
    : (Node.directory hindrance entries).Everywhere holds := by
  intro location hindrance' entries' found
  cases location with
  | nil =>
      obtain ⟨_, rfl⟩ := Node.directory.inj (Option.some.inj found)
      exact here
  | cons name location =>
      rw [Node.at?, Option.bind_eq_some_iff] at found
      obtain ⟨node, looked, below⟩ := found
      obtain ⟨before, after, rfl, _⟩ := List.lookup_eq_some_iff.mp looked
      exact each (name, node) (by simp) location hindrance' entries' below

/-- A directory of regular files has no listing but its own. -/
theorem everywhere_of_files {holds : List (Bytes × Node) → Prop} {hindrance : Option Hindrance}
    {entries : List (Bytes × Node)} (here : holds entries)
    (flat : ∀ entry ∈ entries, ∃ content, entry.2 = .file content)
    : (Node.directory hindrance entries).Everywhere holds := by
  refine everywhere_of_entries here fun entry isEntry => everywhere_of_leaf ?_
  obtain ⟨content, isFile⟩ := flat entry isEntry
  rw [isFile, Node.isLeaf]

/-- The names in a listing are those that can be looked up. -/
theorem mem_names_iff {entries : List (Bytes × Node)} {name : Bytes}
    : name ∈ entries.map (·.1) ↔ ∃ node, entries.lookup name = some node := by
  constructor
  · intro member
    obtain ⟨entry, isEntry, rfl⟩ := List.mem_map.mp member
    refine Option.ne_none_iff_exists'.mp fun absent => ?_
    simpa using List.lookup_eq_none_iff.mp absent entry isEntry
  · rintro ⟨node, looked⟩
    obtain ⟨before, after, rfl, _⟩ := List.lookup_eq_some_iff.mp looked
    exact List.mem_map_of_mem (List.mem_append_right _ List.mem_cons_self)

-----------------------------------------------------------------------------------------
-- Names told apart
-----------------------------------------------------------------------------------------

/-- The names in a listing decode to different texts. -/
def DecodesApart (entries : List (Bytes × Node)) : Prop :=
  (entries.map fun entry => Utf8.decodeLossy entry.1).Nodup

/-- Different names that are well-formed UTF-8 decode to different texts. -/
theorem decodesApart_of_utf8 {entries : List (Bytes × Node)} (possible : IsListing entries)
    (wellFormed : ∀ entry ∈ entries, (Utf8.decode? entry.1).isSome)
    : DecodesApart entries := by
  have byName : entries.Pairwise fun left right => left.1 ≠ right.1 :=
    List.pairwise_map.mp possible.distinct
  refine List.pairwise_map.mpr (byName.imp_of_mem fun left right different same => ?_)
  exact different (Utf8.eq_of_decodeLossy_eq (wellFormed _ left) (wellFormed _ right) same)

end PatternAudit.Files
