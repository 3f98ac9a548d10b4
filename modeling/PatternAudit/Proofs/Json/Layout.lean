import PatternAudit.Proofs.Json.Reading

/-! Laid-out text is read as the value that it lays out: the blanks are gaps between its parts.
-/

namespace PatternAudit.Json

-----------------------------------------------------------------------------------------
-- Lines
-----------------------------------------------------------------------------------------

/-- The start of a new line at some level of nesting. -/
def newLine (level : Nat) : List Char :=
  '\n' :: (indent level).toList

/-- A new line is a gap. -/
theorem isGap_newLine (level : Nat) : IsGap (newLine level) := by
  intro char member
  rcases List.mem_cons.mp member with rfl | isBlank
  · decide
  · rw [indent, String.toList_ofList] at isBlank
    rw [List.eq_of_mem_replicate isBlank]
    decide

/-- What stands before each of some texts can be counted to what stands between them. -/
theorem append_intercalate_map (between before : List Char) {texts : List (List Char)}
    (nonempty : texts ≠ [])
    : between.intercalate (texts.map (before ++ ·))
      = before ++ (between ++ before).intercalate texts := by
  induction texts with
  | nil => exact absurd rfl nonempty
  | cons first texts ih =>
      cases texts with
      | nil => simp
      | cons second texts =>
          rw [List.map_cons, List.map_cons, List.intercalate_cons_cons, ← List.map_cons,
            ih (by simp), List.intercalate_cons_cons]
          simp only [List.append_assoc]

/-- Entries that are laid out have a new line before each and one before the closing bracket. -/
theorem toList_laidOut (level : Nat) (opening closing : String) {entries : List String}
    (nonempty : entries ≠ [])
    : (laidOut level opening closing entries).toList
      = opening.toList
        ++ (newLine (level + 1)
          ++ (',' :: newLine (level + 1)).intercalate (entries.map String.toList)
          ++ newLine level ++ closing.toList) := by
  have some : entries.isEmpty = false := by simpa using nonempty
  have together := append_intercalate_map [',', '\n'] (indent (level + 1)).toList
    (by simpa using nonempty : entries.map String.toList ≠ [])
  have separator : ",\n".toList = [',', '\n'] := rfl
  simp only [laidOut, some, Bool.false_eq_true, if_false, String.toList_append,
    String.toList_intercalate, List.map_map, separator, Function.comp_def, newLine] at together ⊢
  rw [together]
  simp

-----------------------------------------------------------------------------------------
-- Values
-----------------------------------------------------------------------------------------

/-- A value in which all numbers are whole. -/
inductive IsWhole : Json → Prop
  | null : IsWhole .null
  | bool (value : Bool) : IsWhole (.bool value)
  | number (value : Nat) : IsWhole (.ofNat value)
  | string (value : String) : IsWhole (.string value)
  | array {items : List Json} (each : ∀ item ∈ items, IsWhole item) : IsWhole (.array items)
  | object {fields : List (String × Json)} (each : ∀ field ∈ fields, IsWhole field.2)
    : IsWhole (.object fields)

/-- The items of an array are laid out one by one. -/
theorem prettyItems_eq (level : Nat) (items : List Json)
    : prettyItems level items = items.map (prettyAt level) := by
  induction items with
  | nil => rfl
  | cons item items ih => rw [prettyItems, ih, List.map_cons]

/-- The fields of an object are laid out one by one. -/
theorem prettyFields_eq (level : Nat) (fields : List (String × Json))
    : prettyFields level fields
      = fields.map fun field => quote field.1 ++ ": " ++ prettyAt level field.2 := by
  induction fields with
  | nil => rfl
  | cons field fields ih => rw [prettyFields, ih, List.map_cons]

/-- Entries are read back from their layout. -/
theorem ReadsEntries.readsBack_laidOut {α : Type} {reads : α → List Char → Prop}
    {opening closing : Char} {build : List α → Json}
    {loop : Nat → List α → List Char → Option (Json × List Char)}
    (kind : ReadsEntries reads opening closing build loop) {entries : List α} {texts : List String}
    (each : List.Forall₂ reads entries (texts.map String.toList)) (level : Nat)
    : ReadsBack (build entries)
        (laidOut level (.singleton opening) (.singleton closing) texts).toList := by
  by_cases none : texts = []
  · subst none
    cases each
    simpa [laidOut] using kind.readsBack_none
  · have nonempty : entries ≠ [] := by
      rintro rfl
      exact none (by simpa using List.forall₂_nil_left_iff.mp each)
    rw [toList_laidOut level _ _ none]
    simpa using kind.readsBack each nonempty (isGap_newLine (level + 1)) (isGap_newLine level)

/-- A value is read back from its layout at every level of nesting, by induction on the value. -/
theorem readsBack_prettyAt {value : Json} (whole : value.IsWhole) (level : Nat)
    : ReadsBack value (prettyAt level value).toList := by
  induction whole generalizing level with
  | null => exact readsBack_null
  | bool value =>
      cases value
      · exact readsBack_false
      · exact readsBack_true
  | number value =>
      rw [ofNat, prettyAt, Nat.toString_eq_repr, Nat.toList_repr]
      exact readsBack_toDigits value
  | string value => exact readsBack_quote value
  | @array items _ ih =>
      rw [prettyAt, prettyItems_eq]
      refine readsItems.readsBack_laidOut ?_ level
      rw [List.map_map, List.forall₂_map_right_iff, List.forall₂_same]
      exact fun item isItem => ih item isItem (level + 1)
  | @object fields _ ih =>
      rw [prettyAt, prettyFields_eq]
      refine readsFields.readsBack_laidOut ?_ level
      rw [List.map_map, List.forall₂_map_right_iff, List.forall₂_same]
      intro field isField
      refine ⟨[' '], (prettyAt (level + 1) field.2).toList, ?_, ?_, ih field isField (level + 1)⟩
      · simp
      · exact List.forall_mem_singleton.mpr (by decide)

/-- Laid-out text, and blanks after it, denote the value that is laid out. -/
theorem parse?_pretty {value : Json} (whole : value.IsWhole) {gap : String}
    (blank : IsGap gap.toList)
    : parse? (value.pretty ++ gap) = some value := by
  have ends : EndsNumber gap.toList := by
    simpa using endsNumber_gap blank (by simp [EndsNumber] : EndsNumber [])
  have nothing : skipBlanks gap.toList = [] := by
    simpa [skipBlanks] using skipBlanks_gap blank []
  have enough : value.pretty.toList.length ≤ (value.pretty ++ gap).toList.length + 1 := by
    rw [String.toList_append, List.length_append]
    omega
  have reads := readsBack_prettyAt whole 0 _ gap.toList enough ends
  rw [← pretty, ← String.toList_append] at reads
  simp only [parse?, reads, nothing, Option.bind_eq_bind, Option.bind_some, List.isEmpty_nil,
    if_true]

end PatternAudit.Json
