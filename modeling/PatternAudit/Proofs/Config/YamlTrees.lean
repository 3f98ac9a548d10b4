import Mathlib.Algebra.BigOperators.Group.List.Basic
import Mathlib.Algebra.Ring.Nat
import PatternAudit.Config.OfYaml
import PatternAudit.Proofs.Config.Trees

/-! Configurations in YAML. A node tells a tree however its scalars are written and
wherever it has anchors and aliases. What describes a configuration is then read as that
configuration, if as many aliases may be followed as there are, and what is faulty is refused.
-/

namespace PatternAudit.Yaml

-----------------------------------------------------------------------------------------
-- Readings
-----------------------------------------------------------------------------------------

/-- A reading gives a value and follows at most so many aliases for it, unless it may follow fewer
and fails.
-/
def Yields {α : Type} (reading : Reading α) (value : α) (aliases : Nat) : Prop :=
  ∀ steps,
    (∃ left, reading.run steps = some (value, left) ∧ steps ≤ left + aliases)
    ∨ reading.run steps = none ∧ steps < aliases

/-- A reading fails, however many aliases it may follow. -/
def Fails {α : Type} (reading : Reading α) : Prop :=
  ∀ steps, reading.run steps = none

section Readings

variable {α β : Type} {reading : Reading α} {next : α → Reading β} {value : α} {result : β}
  {aliases more : Nat}

theorem yields_pure (value : α) : Yields (pure value) value 0 :=
  fun steps => .inl ⟨steps, rfl, Nat.le_refl steps⟩

/-- One reading after another gives what the second gives, and follows what both follow. -/
theorem Yields.bind (first : Yields reading value aliases)
    (second : Yields (next value) result more)
    : Yields (reading >>= next) result (aliases + more) := by
  intro steps
  rcases first steps with ⟨left, run, enough⟩ | ⟨run, few⟩
  · rcases second left with ⟨rest, runNext, enoughNext⟩ | ⟨runNext, fewNext⟩
    · exact .inl ⟨rest, by simp [run, runNext], by omega⟩
    · exact .inr ⟨by simp [run, runNext], by omega⟩
  · exact .inr ⟨by simp [run], by omega⟩

/-- What is computed from a value that a reading gives follows no further aliases. -/
theorem Yields.bind_eq (first : Yields reading value aliases) (second : next value = pure result)
    : Yields (reading >>= next) result aliases :=
  first.bind (second ▸ yields_pure result)

/-- More aliases may always be allowed for. -/
theorem Yields.mono (yields : Yields reading value aliases) (fewer : aliases ≤ more)
    : Yields reading value more := by
  intro steps
  rcases yields steps with ⟨left, run, enough⟩ | ⟨run, few⟩
  · exact .inl ⟨left, run, by omega⟩
  · exact .inr ⟨run, by omega⟩

/-- What fails first fails. -/
theorem Fails.bind (fails : Fails reading) : Fails (reading >>= next) :=
  fun steps => by simp [fails steps]

/-- What fails after one value fails, if the reading before gives that value only. -/
theorem Yields.bind_fails (first : Yields reading value aliases) (fails : Fails (next value))
    : Fails (reading >>= next) := by
  intro steps
  rcases first steps with ⟨left, run, _⟩ | ⟨run, _⟩
  · simp [run, fails left]
  · simp [run]

/-- What fails after every value fails. -/
theorem fails_bind (fails : ∀ value, Fails (next value)) : Fails (reading >>= next) := by
  intro steps
  cases run : reading.run steps with
  | none => simp [run]
  | some outcome => simp [run, fails outcome.1 outcome.2]

/-- Items are read together as they are read one by one. -/
theorem yields_mapM {read : α → Reading β} {items : List (α × Nat)} {results : List β}
    (each
      : List.Forall₂ (fun item result => Yields (read item.1) result item.2) items results)
    : Yields ((items.map Prod.fst).mapM read) results (items.map Prod.snd).sum := by
  induction each with
  | nil => exact yields_pure []
  | @cons item result items results first rest ih =>
      rw [List.map_cons, List.mapM_cons]
      have last
          : Yields ((fun found => (pure (result :: found) : Reading (List β))) results)
              (result :: results) 0 :=
        yields_pure _
      refine (first.bind (ih.bind last)).mono ?_
      simp

/-- Items cannot be read together if one of them cannot be read. -/
theorem fails_mapM {read : α → Reading β} {items : List α} {item : α} (member : item ∈ items)
    (fails : Fails (read item))
    : Fails (items.mapM read) := by
  induction items with
  | nil => cases member
  | cons first items ih =>
      rw [List.mapM_cons]
      rcases List.mem_cons.mp member with rfl | later
      · exact fails.bind
      · exact fails_bind fun _ => (ih later).bind

end Readings

-----------------------------------------------------------------------------------------
-- Nodes and trees
-----------------------------------------------------------------------------------------

/-- A node, the tree that it tells, and how many aliases are followed for that. -/
structure Item where
  node : Node Nat
  tree : DataTree
  aliases : Nat

/-- A key with its name, and the value that it has. -/
structure Field where
  key : Node Nat
  name : String
  keyAliases : Nat
  value : Item

/-- A node tells a tree. Scalars tell texts however they are written, an empty plain one also tells
a list or table without entries, anchors do not count, and an alias tells what the node under its
anchor tells.
-/
inductive Document.Tells (document : Document) : Node Nat → DataTree → Nat → Prop
  | text (anchor : Option Nat) (content : String) (plain : Bool)
    : document.Tells (.scalar anchor content plain) (.text content) 0
  | list (anchor : Option Nat) (items : List Item)
    (each : ∀ item ∈ items, document.Tells item.node item.tree item.aliases)
    : document.Tells (.sequence anchor (items.map Item.node)) (.list (items.map Item.tree))
        (items.map Item.aliases).sum
  | emptyList (anchor : Option Nat) : document.Tells (.scalar anchor "" true) (.list []) 0
  | table (anchor : Option Nat) (fields : List Field)
    (keys : ∀ field ∈ fields, document.Tells field.key (.text field.name) field.keyAliases)
    (values
      : ∀ field ∈ fields, document.Tells field.value.node field.value.tree field.value.aliases)
    : document.Tells
        (.mapping anchor (fields.map fun field => (field.key, field.value.node)))
        (.table (fields.map fun field => (field.name, field.value.tree)))
        ((fields.map Field.keyAliases).sum + (fields.map fun field => field.value.aliases).sum)
  | emptyTable (anchor : Option Nat) : document.Tells (.scalar anchor "" true) (.table []) 0
  | reference {node : Node Nat} {tree : DataTree} {aliases : Nat} (number : Nat)
    (found : document.anchored? number = some node) (tells : document.Tells node tree aliases)
    : document.Tells (.alias number) tree (aliases + 1)

mutual

/-- What has an anchor is no alias. -/
theorem Node.anchored_ne_alias {ref : Type} (target : ref)
    : (node : Node ref) → ∀ entry ∈ node.anchored, entry.2 ≠ .alias target
  | .scalar anchor text plain => by
      cases anchor <;> simp [Node.anchored, Node.referenced]
  | .alias _ => by simp [Node.anchored]
  | .sequence anchor items => by
      have below := anchoredItems_ne_alias target items
      cases anchor <;> simpa [Node.anchored, Node.referenced] using below
  | .mapping anchor entries => by
      have below := anchoredEntries_ne_alias target entries
      cases anchor <;> simpa [Node.anchored, Node.referenced] using below
termination_by structural node => node

/-- The same for items. -/
theorem Node.anchoredItems_ne_alias {ref : Type} (target : ref)
    : (items : List (Node ref)) → ∀ entry ∈ Node.anchoredItems items, entry.2 ≠ .alias target
  | [] => by simp [Node.anchoredItems]
  | item :: items => by
      rw [Node.anchoredItems]
      exact List.forall_mem_append.mpr
        ⟨anchored_ne_alias target item, anchoredItems_ne_alias target items⟩
termination_by structural items => items

/-- The same for entries. -/
theorem Node.anchoredEntries_ne_alias {ref : Type} (target : ref)
    : (entries : List (Node ref × Node ref)) →
        ∀ entry ∈ Node.anchoredEntries entries, entry.2 ≠ .alias target
  | [] => by simp [Node.anchoredEntries]
  | (key, value) :: entries => by
      rw [Node.anchoredEntries]
      refine List.forall_mem_append.mpr ⟨anchored_ne_alias target key, ?_⟩
      exact List.forall_mem_append.mpr
        ⟨anchored_ne_alias target value, anchoredEntries_ne_alias target entries⟩
termination_by structural entries => entries

end

/-- What an alias stands for is no alias. -/
theorem Document.anchored?_ne_alias {document : Document} {number : Nat} {node : Node Nat}
    (found : document.anchored? number = some node) (target : Nat)
    : node ≠ .alias target := by
  obtain ⟨before, after, same, _⟩ := List.lookup_eq_some_iff.mp found
  refine document.root.anchored_ne_alias target (number, node) ?_
  rw [← List.mem_reverse, same]
  simp

-----------------------------------------------------------------------------------------
-- Reading nodes
-----------------------------------------------------------------------------------------

section Reading

variable {document : Document} {node : Node Nat} {aliases : Nat}

/-- Following a node leads to one that is no alias and tells the same. -/
theorem yields_follow {tree : DataTree} (tells : document.Tells node tree aliases)
    : ∃ reached own rest,
        Yields (follow document node) reached own
        ∧ own + rest = aliases
        ∧ document.Tells reached tree rest
        ∧ ∀ target, reached ≠ .alias target := by
  have stays (notAlias : ∀ target, node ≠ .alias target)
      (unfollowed : follow document node = pure node)
      : ∃ reached own rest,
          Yields (follow document node) reached own
          ∧ own + rest = aliases
          ∧ document.Tells reached tree rest
          ∧ ∀ target, reached ≠ .alias target := by
    refine ⟨node, 0, aliases, ?_, Nat.zero_add aliases, tells, notAlias⟩
    rw [unfollowed]
    exact yields_pure node
  match node, tells, stays with
  | .scalar .., _, stays => exact stays (by simp) rfl
  | .sequence .., _, stays => exact stays (by simp) rfl
  | .mapping .., _, stays => exact stays (by simp) rfl
  | .alias number, told, _ =>
      cases told with
      | @reference reached _ rest _ found below =>
          refine ⟨reached, 1, rest, fun steps => ?_, Nat.add_comm 1 rest, below,
            Document.anchored?_ne_alias found⟩
          cases steps with
          | zero => exact .inr ⟨rfl, Nat.one_pos⟩
          | succ steps => exact .inl ⟨steps, by simp [follow, found], Nat.le_refl _⟩

/-- A text is read from a node that tells it. -/
theorem yields_readText {content : String}
    (tells : document.Tells node (.text content) aliases)
    : Yields (readText document node) content aliases := by
  obtain ⟨reached, own, rest, follows, total, told, notAlias⟩ := yields_follow tells
  unfold readText
  refine (follows.bind ?_).mono (Nat.le_of_eq total)
  cases told with
  | text anchor content plain => exact yields_pure content
  | reference number => exact absurd rfl (notAlias number)

/-- The items of a list are read from a node that tells it. -/
theorem yields_readItems {trees : List DataTree}
    (tells : document.Tells node (.list trees) aliases)
    : ∃ (items : List Item) (own : Nat),
        trees = items.map Item.tree
        ∧ (∀ item ∈ items, document.Tells item.node item.tree item.aliases)
        ∧ Yields (readItems document node) (items.map Item.node) own
        ∧ own + (items.map Item.aliases).sum = aliases := by
  obtain ⟨reached, own, rest, follows, total, told, notAlias⟩ := yields_follow tells
  unfold readItems
  cases told with
  | list anchor items each =>
      exact ⟨items, own, rfl, each, follows.bind_eq rfl, total⟩
  | emptyList anchor => exact ⟨[], own, rfl, by simp, follows.bind_eq rfl, total⟩
  | reference number => exact absurd rfl (notAlias number)

/-- Values are read from the items of a list if each is read from the item that tells it. -/
theorem yields_mapM_items {β : Type} {read : Node Nat → Reading β}
    {related : DataTree → β → Prop} {trees : List DataTree} {values : List β}
    (tells : document.Tells node (.list trees) aliases)
    (pairs : List.Forall₂ related trees values)
    (reads
      : ∀ {node tree aliases value},
          document.Tells node tree aliases → related tree value
          → Yields (read node) value aliases)
    : Yields (do (← readItems document node).mapM read) values aliases := by
  obtain ⟨items, own, rfl, each, reading, total⟩ := yields_readItems tells
  have readings
      : List.Forall₂ (fun item value => Yields (read item.1) value item.2)
          (items.map fun item => (item.node, item.aliases)) values := by
    rw [List.forall₂_map_left_iff] at pairs ⊢
    have told := (List.forall₂_and_left items values).mpr ⟨each, pairs⟩
    exact told.imp fun item value both => reads both.1 both.2
  have together := yields_mapM readings
  simp only [List.map_map, Function.comp_def] at together
  exact (reading.bind together).mono (Nat.le_of_eq total)

/-- The items of a list cannot be read if one of them cannot be read from the node that tells it. -/
theorem fails_mapM_items {β : Type} {read : Node Nat → Reading β} {tree : DataTree}
    {trees : List DataTree} (tells : document.Tells node (.list trees) aliases)
    (member : tree ∈ trees)
    (fails : ∀ {node aliases}, document.Tells node tree aliases → Fails (read node))
    : Fails (do (← readItems document node).mapM read) := by
  obtain ⟨items, own, rfl, each, reading, total⟩ := yields_readItems tells
  obtain ⟨item, among, rfl⟩ := List.mem_map.mp member
  exact reading.bind_fails (fails_mapM (List.mem_map_of_mem among) (fails (each item among)))

/-- The entries of a table under their names. -/
abbrev Entries := List (String × Item)

/-- The nodes under the names. -/
def Entries.nodes (entries : Entries) : List (String × Node Nat) :=
  entries.map fun entry => (entry.1, entry.2.node)

/-- The trees under the names. -/
def Entries.trees (entries : Entries) : List (String × DataTree) :=
  entries.map fun entry => (entry.1, entry.2.tree)

/-- How many aliases are followed for the values. -/
def Entries.total (entries : Entries) : Nat :=
  (entries.map fun entry => entry.2.aliases).sum

/-- The entries tell what the trees of their nodes are. -/
def Entries.ToldBy (document : Document) (entries : Entries) : Prop :=
  ∀ entry ∈ entries, document.Tells entry.2.node entry.2.tree entry.2.aliases

/-- The entries of a table are read from a node that tells it. -/
theorem yields_readEntries {fields : List (String × DataTree)}
    (tells : document.Tells node (.table fields) aliases)
    : ∃ (entries : Entries) (own : Nat),
        fields = entries.trees
        ∧ entries.ToldBy document
        ∧ Yields (readEntries document node) entries.nodes own
        ∧ own + entries.total = aliases := by
  obtain ⟨reached, own, rest, follows, total, told, notAlias⟩ := yields_follow tells
  unfold readEntries
  cases told with
  | table anchor fields keys values =>
      refine ⟨fields.map fun field => (field.name, field.value),
        own + (fields.map Field.keyAliases).sum, ?_, ?_, follows.bind ?_, ?_⟩
      · simp [Entries.trees]
      · simpa [Entries.ToldBy] using values
      · let entry (field : Field) : (Node Nat × Node Nat) × Nat :=
          ((field.key, field.value.node), field.keyAliases)
        let read (entry : Node Nat × Node Nat) : Reading (String × Node Nat) := do
          return (← readText document entry.1, entry.2)
        have each
            : List.Forall₂ (fun item result => Yields (read item.1) result item.2)
                (fields.map entry) (fields.map fun field => (field.name, field.value.node)) := by
          rw [List.forall₂_map_left_iff, List.forall₂_map_right_iff, List.forall₂_same]
          exact fun field member => (yields_readText (keys field member)).bind_eq rfl
        simpa [entry, read, Entries.nodes, Function.comp_def] using yields_mapM each
      · simp only [Entries.total, List.map_map, Function.comp_def]
        omega
  | emptyTable anchor => exact ⟨[], own, rfl, by simp [Entries.ToldBy], follows.bind_eq rfl, total⟩
  | reference number => exact absurd rfl (notAlias number)

end Reading

-----------------------------------------------------------------------------------------
-- Reading known keys
-----------------------------------------------------------------------------------------

namespace Entries

/-- How many aliases are followed under a key. -/
def share (key : String) (entries : Entries) : Nat :=
  ((entries.filter (·.1 == key)).map fun entry => entry.2.aliases).sum

/-- One name has its number under at most one of different keys. -/
theorem sum_ite_le {keys : List String} (distinct : keys.Nodup) (name : String) (number : Nat)
    : (keys.map fun key => if name = key then number else 0).sum ≤ number := by
  induction keys with
  | nil => simp
  | cons key keys ih =>
      obtain ⟨fresh, distinct⟩ := List.nodup_cons.mp distinct
      rw [List.map_cons, List.sum_cons]
      by_cases same : name = key
      · subst same
        have none : (keys.map fun key => if name = key then number else 0).sum = 0 := by
          refine List.sum_eq_zero fun summand member => ?_
          obtain ⟨other, known, rfl⟩ := List.mem_map.mp member
          refine if_neg ?_
          rintro rfl
          exact fresh known
        simp [none]
      · simpa [same] using ih distinct

/-- Under different keys together, no more aliases are followed than under all. -/
theorem sum_share_le {keys : List String} (distinct : keys.Nodup) (entries : Entries)
    : (keys.map fun key => entries.share key).sum ≤ entries.total := by
  induction entries with
  | nil => simp [share, total]
  | cons entry entries ih =>
      have first (key : String)
          : share key (entry :: entries)
            = (if entry.1 = key then entry.2.aliases else 0) + share key entries := by
        by_cases same : entry.1 = key <;> simp [share, same]
      have here := sum_ite_le distinct entry.1 entry.2.aliases
      simp only [first, List.sum_map_add]
      simp only [total, List.map_cons, List.sum_cons] at ih ⊢
      omega

/-- What the trees give for a key is what the entries give. -/
theorem under_trees (key : String) (entries : Entries)
    : DataTree.under key entries.trees
      = (entries.filter (·.1 == key)).map fun entry => entry.2.tree := by
  simp [DataTree.under, trees, List.filter_map, Function.comp_def]

/-- The nodes that entries have under a key. -/
theorem filter_nodes (key : String) (entries : Entries)
    : entries.nodes.filter (·.1 == key)
      = nodes (entries.filter (·.1 == key)) := by
  simp [nodes, List.filter_map, Function.comp_def]

end Entries

section Fields

variable {document : Document} {entries : Entries} {key : String} {α : Type}

/-- A key that is left out gives nothing. -/
theorem yields_readField_none (left : DataTree.under key entries.trees = [])
    (read : Node Nat → Reading α)
    : Yields (readField read key entries.nodes) none (entries.share key) := by
  have none : entries.filter (·.1 == key) = [] := by
    simpa [Entries.under_trees] using left
  rw [readField, Entries.filter_nodes, Entries.share, none]
  exact yields_pure _

/-- A key that is given once gives what is read from its node. -/
theorem yields_readField_some {tree : DataTree} {value : α} {read : Node Nat → Reading α}
    (once : DataTree.under key entries.trees = [tree])
    (told : entries.ToldBy document)
    (reads
      : ∀ {node aliases}, document.Tells node tree aliases → Yields (read node) value aliases)
    : Yields (readField read key entries.nodes) (some value) (entries.share key) := by
  rw [Entries.under_trees, List.map_eq_singleton_iff] at once
  obtain ⟨entry, found, rfl⟩ := once
  have member : entry ∈ entries := (List.mem_filter.mp (found ▸ List.mem_singleton_self entry)).1
  have shared : entries.share key = entry.2.aliases := by
    simp [Entries.share, found]
  rw [readField, Entries.filter_nodes, found, shared]
  exact (reads (told entry member)).bind_eq rfl

/-- A key that is given more than once cannot be read. -/
theorem fails_readField (repeated : 2 ≤ (DataTree.under key entries.trees).length)
    (read : Node Nat → Reading α)
    : Fails (readField read key entries.nodes) := by
  rw [Entries.under_trees, List.length_map] at repeated
  rw [readField, Entries.filter_nodes]
  cases found : entries.filter (·.1 == key) with
  | nil => simp [found] at repeated
  | cons first rest =>
      cases rest with
      | nil => simp [found] at repeated
      | cons second rest => exact fun _ => rfl

/-- A key whose node cannot be read cannot be read, however often it is given. -/
theorem fails_readField_of_node {read : Node Nat → Reading α} {tree : DataTree}
    (given : tree ∈ DataTree.under key entries.trees)
    (told : entries.ToldBy document)
    (fails : ∀ {node aliases}, document.Tells node tree aliases → Fails (read node))
    : Fails (readField read key entries.nodes) := by
  rw [Entries.under_trees] at given
  obtain ⟨entry, chosen, rfl⟩ := List.mem_map.mp given
  have member : entry ∈ entries := (List.mem_filter.mp chosen).1
  rw [readField, Entries.filter_nodes]
  cases found : entries.filter (·.1 == key) with
  | nil => simp [found] at chosen
  | cons first rest =>
      cases rest with
      | nil =>
          obtain rfl : entry = first := by simpa [found] using chosen
          exact (fails (told entry member)).bind
      | cons second rest => exact fun _ => rfl

end Fields

end PatternAudit.Yaml

-----------------------------------------------------------------------------------------
-- Reading configurations
-----------------------------------------------------------------------------------------

namespace PatternAudit.DataTree

open Yaml

variable {document : Yaml.Document} {entries : Yaml.Entries} {node : Node Nat} {aliases : Nat}

/-- A list of texts is read from a node that tells it. -/
theorem yields_readTexts {texts : List String}
    (tells : document.Tells node (.list (texts.map .text)) aliases)
    : Yields (readTexts document node) texts aliases := by
  have pairs
      : List.Forall₂ (fun tree content => tree = .text content) (texts.map DataTree.text)
          texts :=
    List.forall₂_map_left_iff.mpr (List.forall₂_same.mpr fun _ _ => rfl)
  refine yields_mapM_items tells pairs ?_
  rintro node _ aliases content tells rfl
  exact yields_readText tells

/-- Lists of texts are read from YAML nodes. -/
theorem GivesTexts.yields {key : String} {texts : List String}
    (gives : GivesTexts key entries.trees texts)
    (told : entries.ToldBy document)
    : ∃ found,
        Yields (readField (readTexts document) key entries.nodes) found (entries.share key)
        ∧ found.getD [] = texts := by
  rcases gives with once | ⟨left, rfl⟩
  · exact ⟨some texts, yields_readField_some once told fun tells => yields_readTexts tells, rfl⟩
  · exact ⟨none, yields_readField_none left _, rfl⟩

/-- A rule is read from a node that tells it. -/
theorem DescribesRule.yields {tree : DataTree} {rule : RuleEntry}
    (describes : DescribesRule tree rule) (tells : document.Tells node tree aliases)
    : Yields (RuleEntry.readYaml document node) rule aliases := by
  obtain ⟨fields, rfl, pattern, expected⟩ := describes
  obtain ⟨entries, own, rfl, told, reading, total⟩ := yields_readEntries tells
  obtain ⟨found, readingExpected, same⟩ := expected.yields told
  have readingPattern :=
    yields_readField_some pattern told fun tells => yields_readText tells
  have shares : entries.share "pattern" + entries.share "expected" ≤ entries.total := by
    have distinct : ruleKeys.Nodup := by decide
    simpa [ruleKeys] using Entries.sum_share_le distinct entries
  have built : ({ pattern := rule.pattern, expected := found.getD [] } : RuleEntry) = rule := by
    rw [same]
  unfold RuleEntry.readYaml
  refine (reading.bind (readingPattern.bind (readingExpected.bind_eq ?_))).mono ?_
  · exact congrArg pure built
  · omega

/-- The rules of a configuration are read from YAML nodes. -/
theorem GivesRules.yields {rules : List RuleEntry} (gives : GivesRules entries.trees rules)
    (told : entries.ToldBy document)
    : ∃ found,
        Yields
          (readField
            (fun node => do (← readItems document node).mapM (RuleEntry.readYaml document))
            "rules" entries.nodes)
          found (entries.share "rules")
        ∧ found.getD [] = rules := by
  rcases gives with ⟨items, once, pairs⟩ | ⟨left, rfl⟩
  · refine ⟨some rules, yields_readField_some once told fun tells => ?_, rfl⟩
    exact yields_mapM_items tells pairs fun tells rule => rule.yields tells
  · exact ⟨none, yields_readField_none left _, rfl⟩

/-- The configuration that a table describes is read from a document that tells the table. -/
theorem Describes.yields {fields : List (String × DataTree)} {config : Configuration}
    (describes : Describes fields config)
    (tells : document.Tells document.root (.table fields) aliases)
    : Yields (Configuration.readYaml document) config aliases := by
  obtain ⟨entries, own, rfl, told, reading, total⟩ := yields_readEntries tells
  obtain ⟨included, readingIncluded, sameIncluded⟩ := describes.included.yields told
  obtain ⟨excluded, readingExcluded, sameExcluded⟩ := describes.excluded.yields told
  obtain ⟨rules, readingRules, sameRules⟩ := describes.rules.yields told
  have shares
      : entries.share "include" + (entries.share "exclude" + entries.share "rules")
        ≤ entries.total := by
    have distinct : configurationKeys.Nodup := by decide
    simpa [configurationKeys] using Entries.sum_share_le distinct entries
  have built
      : ({
            included := included.getD []
            excluded := excluded.getD []
            rules := rules.getD [] }
          : Configuration)
        = config := by
    rw [sameIncluded, sameExcluded, sameRules]
  unfold Configuration.readYaml
  refine Yields.mono
    (reading.bind (readingIncluded.bind (readingExcluded.bind (readingRules.bind_eq ?_)))) ?_
  · exact congrArg pure built
  · omega

/-- A document that tells a table which describes a configuration is read as that configuration, if
as many aliases may be followed as there are.
-/
theorem Describes.ofYaml {fields : List (String × DataTree)} {config : Configuration}
    (describes : Describes fields config)
    (tells : document.Tells document.root (.table fields) aliases)
    (enough : aliases ≤ 100 * document.root.eventCount)
    : Configuration.ofYaml? document = some config := by
  rcases describes.yields tells (100 * document.root.eventCount) with ⟨left, run, _⟩ | ⟨_, few⟩
  · rw [StateT.run] at run
    rw [Configuration.ofYaml?, StateT.run', run]
    rfl
  · omega

/-- A faulty rule cannot be read from a node that tells it. -/
theorem FaultyRule.fails {tree : DataTree} (faulty : FaultyRule tree)
    (tells : document.Tells node tree aliases)
    : Fails (RuleEntry.readYaml document node) := by
  obtain ⟨fields, rfl, fault⟩ := faulty
  obtain ⟨entries, own, rfl, told, reading, total⟩ := yields_readEntries tells
  unfold RuleEntry.readYaml
  refine reading.bind_fails ?_
  rcases fault with missing | ⟨key, known, repeated⟩
  · exact (yields_readField_none missing _).bind_fails fun _ => rfl
  · have which : key = "pattern" ∨ key = "expected" := by simpa [ruleKeys] using known
    rcases which with rfl | rfl
    · exact (fails_readField repeated _).bind
    · refine fails_bind fun pattern => ?_
      cases pattern with
      | none => exact fun _ => rfl
      | some pattern => exact (fails_readField repeated _).bind

/-- A document that tells a faulty table is refused. -/
theorem Faulty.ofYaml {fields : List (String × DataTree)} (faulty : Faulty fields)
    (tells : document.Tells document.root (.table fields) aliases)
    : Configuration.ofYaml? document = none := by
  have fails : Fails (Configuration.readYaml document) := by
    obtain ⟨entries, own, rfl, told, reading, total⟩ := yields_readEntries tells
    unfold Configuration.readYaml
    refine reading.bind_fails ?_
    rcases faulty with ⟨key, known, repeated⟩ | ⟨items, given, item, member, faulty⟩
    · have which : key = "include" ∨ key = "exclude" ∨ key = "rules" := by
        simpa [configurationKeys] using known
      rcases which with rfl | rfl | rfl
      · exact (fails_readField repeated _).bind
      · exact fails_bind fun _ => (fails_readField repeated _).bind
      · exact fails_bind fun _ => fails_bind fun _ => (fails_readField repeated _).bind
    · refine fails_bind fun _ => fails_bind fun _ => Fails.bind ?_
      refine fails_readField_of_node given told fun tells => ?_
      exact fails_mapM_items tells member fun tells => faulty.fails tells
  have run := fails (100 * document.root.eventCount)
  rw [StateT.run] at run
  rw [Configuration.ofYaml?, StateT.run', run]
  rfl

end PatternAudit.DataTree
