import PatternAudit.Proofs.Lines.Pieces

/-! What stripping takes off lines. Put together again with their terminators, the lines of a
content are that content, but for one carriage return that may stand at its very end.
-/

namespace PatternAudit.Lines

-----------------------------------------------------------------------------------------
-- Lines with what ends them
-----------------------------------------------------------------------------------------

/-- A newline ends a line, and a carriage return before it belongs to the terminator. -/
inductive IsTerminator : Bytes → Prop
  | alone : IsTerminator [newline]
  | withReturn : IsTerminator [carriageReturn, newline]

/-- Lines put together, each followed by what ends it. -/
def rejoin (ended : List (Bytes × Bytes)) : Bytes :=
  ended.flatMap fun line => line.1 ++ line.2

/-- No line has a newline in it, and each is ended by a terminator; the last may have none. -/
structure AreEnded (ended : List (Bytes × Bytes)) : Prop where
  plain : ∀ line ∈ ended, newline ∉ line.1
  before : ∀ line ∈ ended.dropLast, IsTerminator line.2
  last : ∀ line ∈ ended, IsTerminator line.2 ∨ line.2 = []

/-- What stripping takes off a piece, if that is a whole terminator. -/
def terminator (piece : Bytes) : Bytes :=
  if isTerminated piece then
    if piece.dropLast.getLast? = some carriageReturn then [carriageReturn, newline] else [newline]
  else []

/-- The pieces of a content as lines and what ends them. -/
def ended (content : Bytes) : List (Bytes × Bytes) :=
  (pieces content).map fun piece => (strip piece, terminator piece)

-----------------------------------------------------------------------------------------
-- Stripping a piece
-----------------------------------------------------------------------------------------

/-- Taking a byte off the end leaves all of it, or it was there. -/
theorem withoutLast_append (byte : UInt8) (line : Bytes)
    : withoutLast byte line ++ (if line.getLast? = some byte then [byte] else []) = line := by
  rw [withoutLast]
  split
  · next last =>
      obtain ⟨before, rfl⟩ := List.getLast?_eq_some_iff.mp last
      rw [List.dropLast_concat]
  · exact List.append_nil line

/-- What is left of a line is part of it. -/
theorem mem_of_mem_withoutLast {byte other : UInt8} {line : Bytes}
    (member : other ∈ withoutLast byte line)
    : other ∈ line := by
  rw [← withoutLast_append byte line]
  exact List.mem_append_left _ member

/-- A terminated piece is stripped of its newline, and then of a carriage return. -/
theorem strip_append_newline (start : Bytes)
    : strip (start ++ [newline]) = withoutLast carriageReturn start := by
  simp [strip, withoutLast]

/-- An unterminated piece is stripped of a carriage return. -/
theorem strip_of_not_mem {piece : Bytes} (plain : newline ∉ piece)
    : strip piece = withoutLast carriageReturn piece := by
  have open' : piece.getLast? ≠ some newline := fun last => plain (List.mem_of_getLast? last)
  rw [strip, withoutLast.eq_def newline, if_neg open']

/-- A terminated piece is put together from what is left of it and what was taken off it. -/
theorem strip_append_terminator (start : Bytes)
    : strip (start ++ [newline]) ++ terminator (start ++ [newline]) = start ++ [newline] := by
  have parts := withoutLast_append carriageReturn start
  rw [strip_append_newline, terminator, if_pos (isTerminated_append_newline start),
    List.dropLast_concat]
  conv => rhs; rw [← parts]
  split <;> simp

/-- A terminated piece ends in a terminator. -/
theorem isTerminator_terminator {piece : Bytes} (terminated : isTerminated piece = true)
    : IsTerminator (terminator piece) := by
  rw [terminator, if_pos terminated]
  split
  · exact .withReturn
  · exact .alone

-----------------------------------------------------------------------------------------
-- Whole contents
-----------------------------------------------------------------------------------------

/-- The lines of a content are ended by terminators, but for the last. -/
theorem areEnded (content : Bytes) : AreEnded (ended content) where
  plain := by
    intro line member
    obtain ⟨piece, isPiece, rfl⟩ := List.mem_map.mp member
    rcases (isCut_pieces content).line_or_plain isPiece with ⟨start, rfl, plain⟩ | plain
    · rw [strip_append_newline]
      exact mt mem_of_mem_withoutLast plain
    · rw [strip_of_not_mem plain]
      exact mt mem_of_mem_withoutLast plain
  before := by
    intro line member
    rw [ended, ← List.map_dropLast] at member
    obtain ⟨piece, isPiece, rfl⟩ := List.mem_map.mp member
    exact isTerminator_terminator ((isCut_pieces content).terminated piece isPiece)
  last := by
    intro line member
    obtain ⟨piece, _, rfl⟩ := List.mem_map.mp member
    by_cases terminated : isTerminated piece = true
    · exact .inl (isTerminator_terminator terminated)
    · exact .inr (if_neg terminated)

/-- A content is put together from its lines and what ends them, but for one carriage return at
its end, by induction on its lines.
-/
theorem rejoin_ended (content : Bytes)
    : rejoin (ended content)
        ++ (if content.getLast? = some carriageReturn then [carriageReturn] else [])
      = content := by
  induction content using line_induction with
  | nothing => rfl
  | last content plain nonempty =>
      have single : rejoin (ended content) = withoutLast carriageReturn content := by
        simp [rejoin, ended, pieces_of_not_mem plain nonempty, strip_of_not_mem plain, terminator,
          isTerminated_of_not_mem plain]
      rw [single, withoutLast_append]
  | line start rest plain ih =>
      have first : rejoin (ended (start ++ newline :: rest))
          = start ++ newline :: rejoin (ended rest) := by
        rw [ended, pieces_append_newline plain, List.map_cons, rejoin, List.flatMap_cons,
          strip_append_terminator, List.append_assoc]
        rfl
      have sameEnd : (start ++ newline :: rest).getLast? = some carriageReturn
          ↔ rest.getLast? = some carriageReturn := by
        cases rest with
        | nil => simp; decide
        | cons byte rest => simp
      simp only [first, sameEnd, List.append_assoc, List.cons_append, ih]

-----------------------------------------------------------------------------------------
-- Carriage returns
-----------------------------------------------------------------------------------------

/-- A byte in what two lists are together stands in the first or in the second. -/
theorem append_eq_append_cons {α : Type} {first second before after : List α} {item : α}
    (same : first ++ second = before ++ item :: after)
    : (∃ rest, first = before ++ item :: rest ∧ after = rest ++ second)
      ∨ ∃ middle, before = first ++ middle ∧ second = middle ++ item :: after := by
  rcases List.append_eq_append_iff.mp same with ⟨middle, rfl, rfl⟩ | ⟨rest, rfl, further⟩
  · exact .inr ⟨middle, rfl, rfl⟩
  · cases rest with
    | nil => exact .inr ⟨[], by simp, by simpa using further.symm⟩
    | cons other rest =>
        obtain ⟨rfl, rfl⟩ := List.cons.inj further
        exact .inl ⟨rest, rfl, rfl⟩

/-- A carriage return in a terminator stands before its newline. -/
theorem IsTerminator.eq_of_carriageReturn {ending before after : Bytes}
    (isTerminator : IsTerminator ending) (split : ending = before ++ carriageReturn :: after)
    : after = [newline] := by
  cases isTerminator with
  | alone => simp [List.cons_eq_append_iff, newline, carriageReturn] at split
  | withReturn =>
      simp [List.cons_eq_append_iff, newline, carriageReturn] at split
      exact split.2

/-- A carriage return that does not stand before a newline belongs to the line it stands in, by
induction on the lines.
-/
theorem exists_line_of_carriageReturn {ended : List (Bytes × Bytes)}
    (each : ∀ line ∈ ended, IsTerminator line.2 ∨ line.2 = []) {before after : Bytes}
    (split : rejoin ended = before ++ carriageReturn :: after)
    (lone : after.head? ≠ some newline)
    : ∃ earlier start rest ending later,
        ended = earlier ++ (start ++ carriageReturn :: rest, ending) :: later
        ∧ before = rejoin earlier ++ start := by
  induction ended generalizing before with
  | nil => simp [rejoin] at split
  | cons first ended ih =>
      obtain ⟨line, ending⟩ := first
      obtain ⟨isEnding, others⟩ := List.forall_mem_cons.mp each
      have whole : rejoin ((line, ending) :: ended) = line ++ (ending ++ rejoin ended) := by
        simp [rejoin]
      rw [whole] at split
      rcases append_eq_append_cons split with ⟨rest, rfl, _⟩ | ⟨middle, rfl, further⟩
      · exact ⟨[], before, rest, ending, ended, rfl, rfl⟩
      rcases append_eq_append_cons further with ⟨rest, isLast, rfl⟩ | ⟨middle, rfl, inRest⟩
      · rcases isEnding with isTerminator | rfl
        · obtain rfl := isTerminator.eq_of_carriageReturn isLast
          exact absurd rfl lone
        · simp at isLast
      · obtain ⟨earlier, start, rest, ending', later, rfl, rfl⟩ := ih others inRest
        refine ⟨(line, ending) :: earlier, start, rest, ending', later, rfl, ?_⟩
        simp [rejoin]

end PatternAudit.Lines
