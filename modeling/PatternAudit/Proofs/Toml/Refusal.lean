import PatternAudit.Proofs.Toml.Repetition

/-! Where reading a TOML document comes to. A document is refused if reading it comes to a value
that is refused, however deep in arrays and inline tables; so an inline table that gives a key twice
has its document refused.
-/

namespace PatternAudit.Toml.Reader

-----------------------------------------------------------------------------------------
-- Items
-----------------------------------------------------------------------------------------

section Items

variable {α : Type} {item? : List Char → Option (α × List Char)} {closing : Char}
  {trailingComma : Bool} {skip : List Char → List Char}

/-- Reading items with commas between them comes to an item at this text. -/
inductive ItemsTo (item? : List Char → Option (α × List Char)) (closing : Char)
    (trailingComma : Bool) (skip : List Char → List Char)
    : Nat → List α → List Char → List Char → Prop
  | here {fuel read text head rest} (skipped : skip text = head :: rest)
    (goesOn : ¬(head = closing ∧ (trailingComma ∨ read.isEmpty)))
    : ItemsTo item? closing trailingComma skip (fuel + 1) read text (head :: rest)
  | later {fuel read text head rest item after more target} (skipped : skip text = head :: rest)
    (goesOn : ¬(head = closing ∧ (trailingComma ∨ read.isEmpty)))
    (first : item? (head :: rest) = some (item, after)) (comma : skip after = ',' :: more)
    (further : ItemsTo item? closing trailingComma skip fuel (item :: read) more target)
    : ItemsTo item? closing trailingComma skip (fuel + 1) read text target

/-- Items are refused if one of them is, by induction on those before it. -/
theorem ItemsTo.refused {fuel : Nat} {read : List α} {text target : List Char}
    (comes : ItemsTo item? closing trailingComma skip fuel read text target)
    (refused : item? target = none)
    : items? item? closing trailingComma skip fuel read text = none := by
  induction comes with
  | here skipped goesOn =>
      rw [items?, skipped]
      simp only [if_neg goesOn]
      simp [refused]
  | later skipped goesOn first comma _ ih =>
      rw [items?, skipped]
      simp only [if_neg goesOn]
      simp [first, comma, ih refused]

end Items

-----------------------------------------------------------------------------------------
-- Values
-----------------------------------------------------------------------------------------

/-- Reading a value comes to a value at this text: to itself, or to one in an array or an inline
table.
-/
inductive ValueTo : Nat → List Char → Nat → List Char → Prop
  | here {depth text} : ValueTo depth text depth text
  | item {depth rest target inner text}
    (comes
      : ItemsTo (value? depth) ']' true (skipLines (rest.length + 1)) (rest.length + 1) [] rest
          target)
    (within : ValueTo depth target inner text)
    : ValueTo (depth + 1) ('[' :: rest) inner text
  | pair {depth rest target names key after inner text}
    (comes
      : ItemsTo (pair? (value? depth)) '\x7d' false skipBlanks (rest.length + 1) [] rest target)
    (given : key? target = some (names, key, '=' :: after))
    (within : ValueTo depth (skipBlanks after) inner text)
    : ValueTo (depth + 1) ('\x7b' :: rest) inner text

/-- A pair is refused if its value is. -/
theorem pair?_eq_none {value? : List Char → Option (Value × List Char)} {text after : List Char}
    {names : List String} {key : String} (given : key? text = some (names, key, '=' :: after))
    (refused : value? (skipBlanks after) = none)
    : pair? value? text = none := by
  simp [pair?, given, refused]

/-- A value is refused if one in it is, by induction on how it lies there. -/
theorem ValueTo.refused {depth inner : Nat} {text target : List Char}
    (comes : ValueTo depth text inner target) (refused : value? inner target = none)
    : value? depth text = none := by
  induction comes with
  | here => exact refused
  | item comes _ ih =>
      rw [value?, comes.refused (ih refused)]
      rfl
  | pair comes given _ ih =>
      rw [value?, comes.refused (pair?_eq_none given (ih refused))]
      rfl

/-- An inline table is refused if its pairs give a key twice. -/
theorem value?_of_repeats {depth : Nat} {rest ending : List Char} {key : String}
    {value again : Value} {before between after : List (List String × String × Value)}
    (pairs
      : items? (pair? (value? depth)) '\x7d' false skipBlanks (rest.length + 1) [] rest
        = some (before ++ ([], key, value) :: (between ++ ([], key, again) :: after), ending))
    : value? (depth + 1) ('\x7b' :: rest) = none := by
  rw [value?, pairs]
  change (inlineTable? _).bind _ = none
  rw [inlineTable?_of_repeats before between after]
  rfl

-----------------------------------------------------------------------------------------
-- Documents
-----------------------------------------------------------------------------------------

/-- Reading the statements of a text comes to a statement at this text. -/
inductive StatementsTo : Nat → List Char → List Char → Prop
  | here {fuel text head rest} (skipped : skipLines (text.length + 1) text = head :: rest)
    (uncommented : head ≠ '#')
    : StatementsTo (fuel + 1) text (head :: rest)
  | later {fuel text head rest statement after char more target}
    (skipped : skipLines (text.length + 1) text = head :: rest) (uncommented : head ≠ '#')
    (first : statement? (head :: rest) = some (statement, after))
    (line : lineRest? after = some (char :: more)) (further : StatementsTo fuel more target)
    : StatementsTo (fuel + 1) text target

/-- Statements are refused if one of them is, by induction on those before it. -/
theorem StatementsTo.refused {fuel : Nat} {text target : List Char}
    (comes : StatementsTo fuel text target) (refused : statement? target = none)
    (read : List Statement)
    : statementsFrom? fuel read text = none := by
  induction comes generalizing read with
  | here skipped uncommented => simp [statementsFrom?, skipped, refused]
  | later skipped uncommented first line _ ih =>
      simp [statementsFrom?, skipped, first, line, ih refused]

/-- Reading a document comes to a value at this text, in what it gives some key. -/
inductive ComesTo (document : String) (depth : Nat) (target : List Char) : Prop
  | intro {text line after names key}
    (unified
      : unifyNewlines?
            (if document.toList.head? = some '\uFEFF' then document.toList.drop 1
            else document.toList)
        = some text)
    (comes : StatementsTo (text.length + 1) text line) (entry : line.head? ≠ some '[')
    (given : key? line = some (names, key, '=' :: after))
    (within : ValueTo (depthLimit - 1) (skipBlanks after) depth target)

/-- An entry is refused if its value is. -/
theorem statement?_eq_none {text after : List Char} {names : List String} {key : String}
    (entry : text.head? ≠ some '[') (given : key? text = some (names, key, '=' :: after))
    (refused : value? (depthLimit - 1) (skipBlanks after) = none)
    : statement? text = none := by
  unfold statement?
  split
  · simp at entry
  · simp at entry
  · rw [pair?_eq_none given refused]
    rfl

/-- A document is refused if a value in it is. -/
theorem ComesTo.refused {document : String} {depth : Nat} {target : List Char}
    (comes : ComesTo document depth target) (refused : value? depth target = none)
    : parse? document = none := by
  obtain ⟨unified, comes, entry, given, within⟩ := comes
  have unread : statements? document.toList = none := by
    rw [statements?, unified]
    exact comes.refused (statement?_eq_none entry given (within.refused refused)) []
  rw [parse?, unread]
  rfl

/-- In reading a document, an inline table is read that gives a key twice. -/
inductive RepeatsInline (key : String) (document : String) : Prop
  | intro {depth rest ending value again}
    (before between after : List (List String × String × Value))
    (comes : ComesTo document (depth + 1) ('\x7b' :: rest))
    (pairs
      : items? (pair? (value? depth)) '\x7d' false skipBlanks (rest.length + 1) [] rest
        = some (before ++ ([], key, value) :: (between ++ ([], key, again) :: after), ending))

/-- A document with an inline table that gives a key twice is refused. -/
theorem RepeatsInline.refused {key document : String} (repeats : RepeatsInline key document)
    : parse? document = none := by
  obtain ⟨before, between, after, comes, pairs⟩ := repeats
  exact comes.refused (value?_of_repeats pairs)

end PatternAudit.Toml.Reader
