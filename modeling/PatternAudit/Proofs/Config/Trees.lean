import Mathlib.Data.List.Forall2
import PatternAudit.Config.OfToml

/-! What a document says, in either format: texts, lists and tables, of which the tables may give a
key more than once. Some tables describe a configuration, and some that look like one are faulty.
As TOML values, the first are read as that configuration and the others are refused.
-/

namespace PatternAudit

/-- What a document says. The entries of a table are in the order in which they are written. -/
inductive DataTree where
  | text (content : String)
  | list (items : List DataTree)
  | table (entries : List (String × DataTree))

namespace DataTree

/-- What a table gives for a key, as often as it does. -/
def under (key : String) (entries : List (String × DataTree)) : List DataTree :=
  (entries.filter (·.1 == key)).map Prod.snd

-----------------------------------------------------------------------------------------
-- Tables that describe configurations
-----------------------------------------------------------------------------------------

/-- A table gives a list of texts for a key, once, or leaves the key out and the list is empty. -/
def GivesTexts (key : String) (entries : List (String × DataTree)) (texts : List String) : Prop :=
  under key entries = [.list (texts.map .text)] ∨ under key entries = [] ∧ texts = []

/-- A table gives the pattern of a rule and its expected files. Other keys do not matter. -/
def DescribesRule (tree : DataTree) (rule : RuleEntry) : Prop :=
  ∃ entries,
    tree = .table entries
    ∧ under "pattern" entries = [.text rule.pattern]
    ∧ GivesTexts "expected" entries rule.expected

/-- A table gives a list of rules, once, or leaves the key out and the list is empty. -/
def GivesRules (entries : List (String × DataTree)) (rules : List RuleEntry) : Prop :=
  (∃ items, under "rules" entries = [.list items] ∧ List.Forall₂ DescribesRule items rules)
  ∨ under "rules" entries = [] ∧ rules = []

/-- A table gives the lists of a configuration as they are. Other keys do not matter. -/
structure Describes (entries : List (String × DataTree)) (config : Configuration) : Prop where
  included : GivesTexts "include" entries config.included
  excluded : GivesTexts "exclude" entries config.excluded
  rules : GivesRules entries config.rules

/-- The keys of a rule. -/
def ruleKeys : List String := ["pattern", "expected"]

/-- The keys of a configuration. -/
def configurationKeys : List String := ["include", "exclude", "rules"]

/-- A table gives one of some keys more than once. -/
def Repeats (keys : List String) (entries : List (String × DataTree)) : Prop :=
  ∃ key ∈ keys, 2 ≤ (under key entries).length

/-- A rule has no pattern, or one of its keys more than once. -/
def FaultyRule (tree : DataTree) : Prop :=
  ∃ entries, tree = .table entries ∧ (under "pattern" entries = [] ∨ Repeats ruleKeys entries)

/-- A table gives one of the keys of a configuration more than once, or a rule that is faulty. -/
def Faulty (entries : List (String × DataTree)) : Prop :=
  Repeats configurationKeys entries
  ∨ ∃ items, .list items ∈ under "rules" entries ∧ ∃ item ∈ items, FaultyRule item

-----------------------------------------------------------------------------------------
-- As TOML values
-----------------------------------------------------------------------------------------

mutual

/-- The TOML value that says the same. -/
def toToml : DataTree → Toml.Value
  | .text content => .string content
  | .list items => .array (itemsToToml items)
  | .table entries => .table (entriesToToml entries)

/-- The items of a TOML array that says the same. -/
def itemsToToml : List DataTree → List Toml.Value
  | [] => []
  | item :: items => item.toToml :: itemsToToml items

/-- The entries of a TOML table that says the same. -/
def entriesToToml : List (String × DataTree) → List (String × Toml.Value)
  | [] => []
  | (key, tree) :: entries => (key, tree.toToml) :: entriesToToml entries

end

/-- Items are translated one by one. -/
theorem itemsToToml_eq (items : List DataTree) : itemsToToml items = items.map toToml := by
  induction items with
  | nil => rfl
  | cons item items ih => rw [itemsToToml, ih, List.map_cons]

/-- What a key has in a TOML table is what it has in the tree, translated. -/
theorem filter_entriesToToml (key : String) (entries : List (String × DataTree))
    : (entriesToToml entries).filter (·.1 == key)
      = (under key entries).map fun tree => (key, tree.toToml) := by
  induction entries with
  | nil => rfl
  | cons entry entries ih =>
      obtain ⟨name, tree⟩ := entry
      rw [entriesToToml]
      by_cases same : name = key
      · subst same
        simp only [under, List.filter_cons, beq_self_eq_true, if_true, List.map_cons] at ih ⊢
        rw [ih]
      · simpa [under, List.filter_cons, same] using ih

/-- A known key of a TOML table is read from what the tree gives for it, if that is at most one. -/
theorem readField?_entriesToToml {α : Type} (read : Toml.Value → Option α) (key : String)
    (entries : List (String × DataTree))
    : Toml.readField? read key (entriesToToml entries)
      = match under key entries with
        | [] => some none
        | [tree] => (read tree.toToml).map some
        | _ => none := by
  rw [Toml.readField?, filter_entriesToToml]
  match under key entries with
  | [] => rfl
  | [tree] => rfl
  | _ :: _ :: _ => rfl

-----------------------------------------------------------------------------------------
-- Reading TOML
-----------------------------------------------------------------------------------------

/-- Items that can be read one by one can be read together. -/
theorem mapM_eq_some {α β : Type} {read : α → Option β} {items : List α} {values : List β}
    (each : List.Forall₂ (fun item value => read item = some value) items values)
    : items.mapM read = some values := by
  induction each with
  | nil => rfl
  | cons first rest ih => simp [List.mapM_cons, first, ih]

/-- Items cannot be read together if one of them cannot be read. -/
theorem mapM_eq_none {α β : Type} {read : α → Option β} {items : List α} {item : α}
    (member : item ∈ items) (fails : read item = none)
    : items.mapM read = none := by
  induction items with
  | nil => cases member
  | cons first items ih =>
      rw [List.mapM_cons]
      rcases List.mem_cons.mp member with rfl | later
      · simp [fails]
      · cases read first <;> simp [ih later]

/-- Texts in a list are read as they are. -/
theorem strings?_toToml (texts : List String)
    : (toToml (.list (texts.map .text))).strings? = some texts := by
  have each
      : (texts.map fun content => toToml (.text content)).mapM Toml.Value.string? = some texts := by
    refine mapM_eq_some (List.forall₂_map_left_iff.mpr (List.forall₂_same.mpr fun content _ => ?_))
    rw [toToml, Toml.Value.string?]
  rw [toToml, itemsToToml_eq, List.map_map, Toml.Value.strings?, Toml.Value.array?]
  exact each

/-- Lists of texts are read from a TOML table. -/
theorem GivesTexts.ofToml {key : String} {entries : List (String × DataTree)}
    {texts : List String} (gives : GivesTexts key entries texts)
    : Toml.stringsAt? key (entriesToToml entries) = some texts := by
  rw [Toml.stringsAt?, readField?_entriesToToml]
  rcases gives with once | ⟨left, rfl⟩
  · simp [once, strings?_toToml]
  · simp [left]

/-- Rules are read from TOML tables. -/
theorem DescribesRule.ofToml {tree : DataTree} {rule : RuleEntry}
    (describes : DescribesRule tree rule)
    : RuleEntry.ofToml? tree.toToml = some rule := by
  obtain ⟨entries, rfl, pattern, expected⟩ := describes
  rw [toToml, RuleEntry.ofToml?, readField?_entriesToToml, pattern]
  simp [toToml, Toml.Value.string?, expected.ofToml]

/-- The rules of a configuration are read from a TOML table. -/
theorem GivesRules.ofToml {entries : List (String × DataTree)} {rules : List RuleEntry}
    (gives : GivesRules entries rules)
    : Configuration.rulesOfToml? (entriesToToml entries) = some rules := by
  rw [Configuration.rulesOfToml?, readField?_entriesToToml]
  rcases gives with ⟨items, once, each⟩ | ⟨left, rfl⟩
  · have read : (items.map toToml).mapM RuleEntry.ofToml? = some rules :=
      mapM_eq_some (List.forall₂_map_left_iff.mpr (each.imp fun _ _ rule => rule.ofToml))
    simp [once, toToml, itemsToToml_eq, Configuration.rulesOfArray?, Toml.Value.array?, read]
  · simp [left]

/-- The configuration that a table describes is read from the TOML table that says the same. -/
theorem Describes.ofToml {entries : List (String × DataTree)} {config : Configuration}
    (describes : Describes entries config)
    : Configuration.ofToml? (entriesToToml entries) = some config := by
  rw [Configuration.ofToml?, describes.included.ofToml, describes.excluded.ofToml,
    describes.rules.ofToml]
  rfl

/-- A key that is given more than once cannot be read. -/
theorem readField?_of_repeated {α : Type} {key : String}
    {entries : List (String × DataTree)} (repeated : 2 ≤ (under key entries).length)
    (read : Toml.Value → Option α)
    : Toml.readField? read key (entriesToToml entries) = none := by
  rw [readField?_entriesToToml]
  match under key entries, repeated with
  | _ :: _ :: _, _ => rfl

/-- Neither can a list of texts under it. -/
theorem stringsAt?_of_repeated {key : String} {entries : List (String × DataTree)}
    (repeated : 2 ≤ (under key entries).length)
    : Toml.stringsAt? key (entriesToToml entries) = none := by
  rw [Toml.stringsAt?, readField?_of_repeated repeated]
  rfl

/-- A faulty rule is refused. -/
theorem FaultyRule.ofToml {tree : DataTree} (faulty : FaultyRule tree)
    : RuleEntry.ofToml? tree.toToml = none := by
  obtain ⟨entries, rfl, missing | ⟨key, known, repeated⟩⟩ := faulty
  · rw [toToml, RuleEntry.ofToml?, readField?_entriesToToml, missing]
    rfl
  · rw [toToml, RuleEntry.ofToml?]
    have which : key = "pattern" ∨ key = "expected" := by simpa [ruleKeys] using known
    rcases which with rfl | rfl
    · rw [readField?_of_repeated repeated]
      rfl
    · rw [stringsAt?_of_repeated repeated]
      match Toml.readField? Toml.Value.string? "pattern" (entriesToToml entries) with
      | none => rfl
      | some none => rfl
      | some (some _) => rfl

/-- Rules of which one is faulty are refused. -/
theorem rulesOfToml?_of_faulty {entries : List (String × DataTree)} {items : List DataTree}
    {item : DataTree} (given : .list items ∈ under "rules" entries) (member : item ∈ items)
    (faulty : FaultyRule item)
    : Configuration.rulesOfToml? (entriesToToml entries) = none := by
  have refused : Configuration.rulesOfArray? (toToml (.list items)) = none := by
    rw [toToml, itemsToToml_eq]
    exact mapM_eq_none (List.mem_map_of_mem member) faulty.ofToml
  rw [Configuration.rulesOfToml?, readField?_entriesToToml]
  match under "rules" entries, given with
  | [tree], given =>
      obtain rfl := List.mem_singleton.mp given
      simp [refused]
  | _ :: _ :: _, _ => rfl

/-- A faulty table is refused as a TOML table. -/
theorem Faulty.ofToml {entries : List (String × DataTree)} (faulty : Faulty entries)
    : Configuration.ofToml? (entriesToToml entries) = none := by
  have refusedRules (refused : Configuration.rulesOfToml? (entriesToToml entries) = none)
      : Configuration.ofToml? (entriesToToml entries) = none := by
    rw [Configuration.ofToml?, refused]
    cases Toml.stringsAt? "include" (entriesToToml entries) with
    | none => rfl
    | some included => cases Toml.stringsAt? "exclude" (entriesToToml entries) <;> rfl
  rcases faulty with ⟨key, known, repeated⟩ | ⟨items, given, item, member, faulty⟩
  · have which : key = "include" ∨ key = "exclude" ∨ key = "rules" := by
      simpa [configurationKeys] using known
    rcases which with rfl | rfl | rfl
    · rw [Configuration.ofToml?, stringsAt?_of_repeated repeated]
      rfl
    · rw [Configuration.ofToml?, stringsAt?_of_repeated repeated]
      cases Toml.stringsAt? "include" (entriesToToml entries) <;> rfl
    · refine refusedRules ?_
      rw [Configuration.rulesOfToml?, readField?_of_repeated repeated]
      rfl
  · exact refusedRules (rulesOfToml?_of_faulty given member faulty)

end DataTree

end PatternAudit
