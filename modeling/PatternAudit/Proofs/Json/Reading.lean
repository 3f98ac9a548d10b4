import Mathlib.Data.List.Forall2
import PatternAudit.Proofs.Json.Numbers
import PatternAudit.Proofs.Json.Quoting

/-! Values are read as they were written, whatever blanks stand between their parts and whatever
follows them.
-/

namespace PatternAudit.Json

-----------------------------------------------------------------------------------------
-- Blanks
-----------------------------------------------------------------------------------------

/-- The characters that are skipped. -/
def blanks : List Char :=
  [' ', '\n', '\t', '\r']

/-- Text that may stand between the parts of a value. -/
def IsGap (gap : List Char) : Prop :=
  ∀ char ∈ gap, char ∈ blanks

/-- Skipping ends before a character that is not blank. -/
theorem skipBlanks_solid {char : Char} (solid : char ∉ blanks) (rest : List Char)
    : skipBlanks (char :: rest) = char :: rest := by
  rw [skipBlanks, if_neg (by simpa [blanks, and_assoc] using solid)]

/-- A gap is skipped. -/
theorem skipBlanks_gap {gap : List Char} (blank : IsGap gap) (rest : List Char)
    : skipBlanks (gap ++ rest) = skipBlanks rest := by
  induction gap with
  | nil => rfl
  | cons char gap ih =>
      obtain ⟨first, blank⟩ := List.forall_mem_cons.mp blank
      rw [List.cons_append, skipBlanks, if_pos (by simpa [blanks, or_assoc] using first), ih blank]

/-- After what is skipped there is nothing to skip. -/
theorem skipBlanks_skipBlanks (text : List Char)
    : skipBlanks (skipBlanks text) = skipBlanks text := by
  induction text with
  | nil => rfl
  | cons char rest ih =>
      rw [skipBlanks]
      split
      · exact ih
      · next solid => rw [skipBlanks, if_neg solid]

/-- A gap does not continue a number if what follows it does not. -/
theorem endsNumber_gap {gap rest : List Char} (blank : IsGap gap) (ends : EndsNumber rest)
    : EndsNumber (gap ++ rest) := by
  cases gap with
  | nil => exact ends
  | cons char gap =>
      intro first isFirst
      obtain rfl : char = first := Option.some.inj isFirst
      have apart : ∀ char ∈ blanks,
          char.isDigit = false ∧ char ≠ '.' ∧ char ≠ 'e' ∧ char ≠ 'E' := by
        simp [blanks]
      exact apart char (blank char List.mem_cons_self)

section Skipping

variable {text text' : List Char} (same : skipBlanks text = skipBlanks text')

include same

/-- What is skipped before a value makes no difference. -/
theorem value?_congr (fuel : Nat) : value? fuel text = value? fuel text' := by
  cases fuel with
  | zero => rfl
  | succ fuel => rw [value?, value?, same]

/-- What is skipped before the items of an array makes no difference. -/
theorem items?_congr (fuel : Nat) (read : List Json)
    : items? fuel read text = items? fuel read text' := by
  cases fuel with
  | zero => rfl
  | succ fuel => rw [items?, items?, value?_congr same]

/-- What is skipped before the fields of an object makes no difference. -/
theorem fields?_congr (fuel : Nat) (read : List (String × Json))
    : fields? fuel read text = fields? fuel read text' := by
  cases fuel with
  | zero => rfl
  | succ fuel => rw [fields?, fields?, same]

end Skipping

-----------------------------------------------------------------------------------------
-- Values
-----------------------------------------------------------------------------------------

/-- A value is read back from a text, whatever follows that does not continue a number. As much
fuel is enough as the text is long.
-/
def ReadsBack (value : Json) (text : List Char) : Prop :=
  ∀ fuel rest,
    text.length ≤ fuel
    → EndsNumber rest
    → value? fuel (text ++ rest) = some (value, rest)

/-- The first character of a value takes one unit of fuel. -/
theorem readsBack_cons {value : Json} {first : Char} {more : List Char}
    (reads
      : ∀ fuel rest,
          more.length ≤ fuel
          → EndsNumber rest
          → value? (fuel + 1) (first :: (more ++ rest)) = some (value, rest))
    : ReadsBack value (first :: more) := by
  intro fuel rest enough ends
  obtain ⟨fuel, rfl⟩ := Nat.exists_eq_succ_of_ne_zero (Nat.ne_zero_of_lt enough)
  exact reads fuel rest (Nat.le_of_succ_le_succ enough) ends

theorem readsBack_null : ReadsBack .null "null".toList :=
  readsBack_cons fun _ _ _ _ => rfl

theorem readsBack_true : ReadsBack (.bool true) "true".toList :=
  readsBack_cons fun _ _ _ _ => rfl

theorem readsBack_false : ReadsBack (.bool false) "false".toList :=
  readsBack_cons fun _ _ _ _ => rfl

/-- A string is read back from its quotation. -/
theorem readsBack_quote (text : String) : ReadsBack (.string text) (quote text).toList := by
  obtain ⟨escaped, quoted, unescapes⟩ := exists_quote text
  rw [quoted]
  refine readsBack_cons fun fuel rest _ _ => ?_
  rw [value?, skipBlanks_solid (by decide)]
  simp only [unescapes, Option.map_some]

/-- What begins with a digit is a number. -/
theorem value?_digit {first : Char} (isDigit : first.isDigit) (fuel : Nat) (text : List Char)
    : value? (fuel + 1) (first :: text) = number? (first :: text) := by
  have solid : first ∉ blanks := by
    intro isBlank
    have noDigits : ∀ char ∈ blanks, char.isDigit = false := by simp [blanks]
    exact Bool.false_ne_true ((noDigits first isBlank).symm.trans isDigit)
  rw [value?, skipBlanks_solid solid]
  split
  case h_7 => rfl
  all_goals
    next shape =>
      rw [(List.cons.inj shape).1] at isDigit
      cases isDigit

/-- A whole number is read back from its digits. -/
theorem readsBack_toDigits (value : Nat) : ReadsBack (.ofNat value) (Nat.toDigits 10 value) := by
  have isDigit := isDigit_toDigits value
  have reads {rest : List Char} := @number?_toDigits value rest
  obtain ⟨first, more, shape⟩ :=
    List.exists_cons_of_ne_nil (Nat.toDigits_ne_nil : Nat.toDigits 10 value ≠ [])
  rw [shape] at isDigit reads ⊢
  refine readsBack_cons fun fuel rest _ ends => ?_
  rw [value?_digit (isDigit first List.mem_cons_self)]
  exact reads ends

-----------------------------------------------------------------------------------------
-- Entries in brackets
-----------------------------------------------------------------------------------------

/-- How values of one kind are read: entries with commas between them, in brackets. -/
structure ReadsEntries {α : Type} (reads : α → List Char → Prop) (opening closing : Char)
    (build : List α → Json) (loop : Nat → List α → List Char → Option (Json × List Char))
    : Prop where
  none : ∀ fuel rest, value? (fuel + 1) (opening :: closing :: rest) = some (build [], rest)
  opens
    : ∀ {fuel text value rest},
        loop fuel [] text = some (value, rest)
        → value? (fuel + 1) (opening :: text) = some (value, rest)
  skips
    : ∀ {text text'},
        skipBlanks text = skipBlanks text'
        → ∀ fuel read, loop fuel read text = loop fuel read text'
  more
    : ∀ {entry text fuel},
        reads entry text
        → text.length ≤ fuel
        → ∀ read rest, loop (fuel + 1) read (text ++ ',' :: rest) = loop fuel (entry :: read) rest
  last
    : ∀ {entry text fuel gap},
        reads entry text
        → text.length ≤ fuel
        → IsGap gap
        → ∀ read rest,
            loop (fuel + 1) read (text ++ (gap ++ closing :: rest))
            = some (build (entry :: read).reverse, rest)

namespace ReadsEntries

variable {α : Type} {reads : α → List Char → Prop} {opening closing : Char}
  {build : List α → Json} {loop : Nat → List α → List Char → Option (Json × List Char)}

/-- Entries that are read back one by one are read back together, by induction on the entries. -/
theorem joined (kind : ReadsEntries reads opening closing build loop) {entries : List α}
    {texts : List (List Char)} (each : List.Forall₂ reads entries texts) (nonempty : entries ≠ [])
    {gap ending : List Char} (blank : IsGap gap) (blankEnding : IsGap ending) {fuel : Nat}
    (enough : ((',' :: gap).intercalate texts).length < fuel) (read : List α) (rest : List Char)
    : loop fuel read ((',' :: gap).intercalate texts ++ (ending ++ closing :: rest))
      = some (build (read.reverse ++ entries), rest) := by
  induction each generalizing fuel read with
  | nil => exact absurd rfl nonempty
  | @cons entry text entries texts first each ih =>
      obtain ⟨fuel, rfl⟩ := Nat.exists_eq_succ_of_ne_zero (Nat.ne_zero_of_lt enough)
      cases each with
      | nil =>
          rw [List.intercalate_singleton] at enough ⊢
          rw [Nat.succ_eq_add_one, kind.last first (by omega) blankEnding, List.reverse_cons]
      | @cons second text' entries texts _ _ =>
          rw [List.intercalate_cons_cons] at enough ⊢
          simp only [List.length_append, List.length_cons] at enough
          have later := ih (by simp) (by omega : _ < fuel) (entry :: read)
          generalize (',' :: gap).intercalate (text' :: texts) = joined at enough later ⊢
          calc loop (fuel + 1) read (text ++ ',' :: gap ++ joined ++ (ending ++ closing :: rest))
            _ = loop (fuel + 1) read
                  (text ++ ',' :: (gap ++ (joined ++ (ending ++ closing :: rest)))) := by
              simp only [List.append_assoc, List.cons_append]
            _ = loop fuel (entry :: read) (gap ++ (joined ++ (ending ++ closing :: rest))) :=
              kind.more first (by omega) read _
            _ = loop fuel (entry :: read) (joined ++ (ending ++ closing :: rest)) :=
              kind.skips (skipBlanks_gap blank _) fuel _
            _ = some (build (read.reverse ++ entry :: second :: entries), rest) := by
              rw [later, List.reverse_cons, List.append_assoc, List.singleton_append]

/-- Brackets without entries are read back as the value without entries. -/
theorem readsBack_none (kind : ReadsEntries reads opening closing build loop)
    : ReadsBack (build []) [opening, closing] :=
  readsBack_cons fun fuel rest _ _ => kind.none fuel rest

/-- Entries in brackets are read back, with a gap before each and one before the end. -/
theorem readsBack (kind : ReadsEntries reads opening closing build loop) {entries : List α}
    {texts : List (List Char)} (each : List.Forall₂ reads entries texts) (nonempty : entries ≠ [])
    {gap ending : List Char} (blank : IsGap gap) (blankEnding : IsGap ending)
    : ReadsBack (build entries)
        (opening :: (gap ++ (',' :: gap).intercalate texts ++ ending ++ [closing])) := by
  refine readsBack_cons fun fuel rest enough _ => ?_
  simp only [List.length_append, List.length_singleton] at enough
  have inside := kind.joined each nonempty blank blankEnding (by omega : _ < fuel) [] rest
  rw [← kind.skips (skipBlanks_gap blank _)] at inside
  simpa using kind.opens inside

end ReadsEntries

-----------------------------------------------------------------------------------------
-- Arrays and objects
-----------------------------------------------------------------------------------------

/-- What closes brackets or separates entries does not continue a number. -/
theorem endsNumber_mark {mark : Char} (isMark : mark ∈ [',', ']', '\x7d']) (rest : List Char)
    : EndsNumber (mark :: rest) := by
  intro first isFirst
  obtain rfl : mark = first := Option.some.inj isFirst
  have marks : ∀ mark ∈ [',', ']', '\x7d'],
      mark.isDigit = false ∧ mark ≠ '.' ∧ mark ≠ 'e' ∧ mark ≠ 'E' := by
    simp
  exact marks mark isMark

/-- No value is read where an array closes. -/
theorem value?_closing {text rest : List Char} (closing : skipBlanks text = ']' :: rest)
    (fuel : Nat)
    : value? fuel text = none := by
  cases fuel with
  | zero => rfl
  | succ fuel =>
      rw [value?, closing]
      rfl

/-- No item is read where an array closes. -/
theorem items?_closing {text rest : List Char} (closing : skipBlanks text = ']' :: rest)
    (fuel : Nat) (read : List Json)
    : items? fuel read text = none := by
  cases fuel with
  | zero => rfl
  | succ fuel =>
      rw [items?, value?_closing closing]
      rfl

/-- An array is what its items are read as from its opening bracket on. -/
theorem value?_array {fuel : Nat} {text rest : List Char} {value : Json}
    (items : items? fuel [] text = some (value, rest))
    : value? (fuel + 1) ('[' :: text) = some (value, rest) := by
  rw [value?, skipBlanks_solid (by decide)]
  simp only
  split
  · next closing => simp [items?_closing closing] at items
  · rw [items?_congr (skipBlanks_skipBlanks text), items]

/-- Arrays are read item by item. -/
theorem readsItems : ReadsEntries ReadsBack '[' ']' .array items? where
  none _ _ := rfl
  opens := value?_array
  skips := items?_congr
  more := by
    intro item text fuel reads enough read rest
    rw [items?, reads fuel _ enough (endsNumber_mark (by decide) rest)]
    rfl
  last := by
    intro item text fuel gap reads enough blank read rest
    have ends := endsNumber_gap blank (endsNumber_mark (by decide : ']' ∈ _) rest)
    rw [items?, reads fuel _ enough ends]
    simp only [Option.bind_eq_bind, Option.bind_some, skipBlanks_gap blank]
    rfl

/-- A field is read back from its quoted name, a colon, perhaps a gap, and its value. -/
def FieldReadsBack (field : String × Json) (text : List Char) : Prop :=
  ∃ gap value,
    text = (quote field.1).toList ++ ':' :: (gap ++ value)
    ∧ IsGap gap
    ∧ ReadsBack field.2 value

/-- No field is read where an object closes. -/
theorem fields?_closing {text rest : List Char} (closing : skipBlanks text = '\x7d' :: rest)
    (fuel : Nat) (read : List (String × Json))
    : fields? fuel read text = none := by
  cases fuel with
  | zero => rfl
  | succ fuel =>
      rw [fields?, closing]
      rfl

/-- An object is what its fields are read as from its opening brace on. -/
theorem value?_object {fuel : Nat} {text rest : List Char} {value : Json}
    (fields : fields? fuel [] text = some (value, rest))
    : value? (fuel + 1) ('\x7b' :: text) = some (value, rest) := by
  rw [value?, skipBlanks_solid (by decide)]
  simp only
  split
  · next closing => simp [fields?_closing closing] at fields
  · rw [fields?_congr (skipBlanks_skipBlanks text), fields]

/-- Reading an object reads its first field, and then goes on or ends. -/
theorem fields?_field {field : String × Json} {text : List Char} {fuel : Nat}
    (reads : FieldReadsBack field text) (enough : text.length ≤ fuel)
    (read : List (String × Json)) {rest : List Char} (ends : EndsNumber rest)
    : (∀ after,
        skipBlanks rest = ',' :: after
        → fields? (fuel + 1) read (text ++ rest) = fields? fuel (field :: read) after)
      ∧ ∀ after,
          skipBlanks rest = '\x7d' :: after
          → fields? (fuel + 1) read (text ++ rest)
            = some (.object (field :: read).reverse, after) := by
  obtain ⟨gap, value, rfl, blank, reads⟩ := reads
  obtain ⟨escaped, quoted, unescapes⟩ := exists_quote field.1
  have short : value.length ≤ fuel := by
    simp only [List.length_append, List.length_cons] at enough
    omega
  have valued : value? fuel (gap ++ (value ++ rest)) = some (field.2, rest) := by
    rw [value?_congr (skipBlanks_gap blank _), reads fuel rest short ends]
  have shape : (quote field.1).toList ++ ':' :: (gap ++ value) ++ rest
      = '"' :: (escaped ++ ':' :: (gap ++ (value ++ rest))) := by
    simp [quoted]
  have opening (text : List Char) := skipBlanks_solid (by decide : '"' ∉ blanks) text
  have colon (text : List Char) := skipBlanks_solid (by decide : ':' ∉ blanks) text
  constructor <;> intro after mark <;>
    simp [shape, fields?, opening, unescapes, colon, valued, mark]

/-- Objects are read field by field. -/
theorem readsFields : ReadsEntries FieldReadsBack '\x7b' '\x7d' .object fields? where
  none _ _ := rfl
  opens := value?_object
  skips := fields?_congr
  more := by
    intro field text fuel reads enough read rest
    have ends := endsNumber_mark (by decide : ',' ∈ _) rest
    exact (fields?_field reads enough read ends).1 rest (skipBlanks_solid (by decide) rest)
  last := by
    intro field text fuel gap reads enough blank read rest
    have ends := endsNumber_gap blank (endsNumber_mark (by decide : '\x7d' ∈ _) rest)
    refine (fields?_field reads enough read ends).2 rest ?_
    rw [skipBlanks_gap blank, skipBlanks_solid (by decide)]

end PatternAudit.Json
