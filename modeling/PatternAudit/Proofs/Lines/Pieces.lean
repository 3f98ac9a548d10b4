import PatternAudit.Proofs.Lines.Cutting

/-! What the pieces of a content are: the only way to cut it right after each newline and nowhere
else. A content that ends where a line does is cut on its own, whatever comes after it.
-/

namespace PatternAudit.Lines

-----------------------------------------------------------------------------------------
-- Contents line by line
-----------------------------------------------------------------------------------------

/-- What holds of nothing and of a last line without newline, and passes from a rest to a line
before it, holds of every content. Witness: recursion on its length, cutting at its first newline.
-/
theorem line_induction {motive : Bytes → Prop} (nothing : motive [])
    (last : ∀ content, newline ∉ content → content ≠ [] → motive content)
    (line : ∀ start rest, newline ∉ start → motive rest → motive (start ++ newline :: rest))
    (content : Bytes)
    : motive content := by
  by_cases inside : newline ∈ content
  · obtain ⟨start, rest, parts, plain⟩ := List.eq_append_cons_of_mem inside
    have size : content.length = start.length + (rest.length + 1) := by
      rw [parts, List.length_append, List.length_cons]
    rw [parts]
    exact line start rest plain (line_induction nothing last line rest)
  · by_cases empty : content = []
    · exact empty ▸ nothing
    · exact last content inside empty
termination_by content.length

/-- A line with its newline is terminated. -/
theorem isTerminated_append_newline (start : Bytes) : isTerminated (start ++ [newline]) = true := by
  simp [isTerminated]

-----------------------------------------------------------------------------------------
-- The only cut
-----------------------------------------------------------------------------------------

/-- Parts are what a content is cut into right after each newline: together they are the content,
none is empty, and a newline stands at the end of a part only and of every part but the last.
-/
structure IsCut (content : Bytes) (parts : List Bytes) : Prop where
  whole : parts.flatten = content
  nonempty : ∀ part ∈ parts, part ≠ []
  plain : ∀ part ∈ parts, newline ∉ part.dropLast
  terminated : ∀ part ∈ parts.dropLast, isTerminated part = true

/-- A part is a line with its newline, or has none. -/
theorem IsCut.line_or_plain {content part : Bytes} {parts : List Bytes} (cut : IsCut content parts)
    (member : part ∈ parts)
    : (∃ start, part = start ++ [newline] ∧ newline ∉ start) ∨ newline ∉ part := by
  obtain ⟨start, byte, rfl⟩ :=
    (List.eq_nil_or_concat part).resolve_left (cut.nonempty part member)
  have plain : newline ∉ start := by simpa using cut.plain _ member
  by_cases ends : byte = newline
  · exact .inl ⟨start, by rw [ends, List.concat_eq_append], plain⟩
  · exact .inr (by simp [plain, Ne.symm ends])

/-- A line before a content is one more part. -/
theorem IsCut.cons {start rest : Bytes} {parts : List Bytes} (plain : newline ∉ start)
    (cut : IsCut rest parts)
    : IsCut (start ++ newline :: rest) ((start ++ [newline]) :: parts) where
  whole := by simp [cut.whole]
  nonempty := List.forall_mem_cons.mpr ⟨by simp, cut.nonempty⟩
  plain := List.forall_mem_cons.mpr ⟨by simpa using plain, cut.plain⟩
  terminated := by
    cases parts with
    | nil => simp
    | cons part parts =>
        rw [List.dropLast_cons_cons]
        exact List.forall_mem_cons.mpr ⟨isTerminated_append_newline start, cut.terminated⟩

/-- What follows the first part is cut into the other parts. -/
theorem IsCut.tail {content part : Bytes} {parts : List Bytes} (cut : IsCut content (part :: parts))
    : IsCut parts.flatten parts where
  whole := rfl
  nonempty := (List.forall_mem_cons.mp cut.nonempty).2
  plain := (List.forall_mem_cons.mp cut.plain).2
  terminated := by
    cases parts with
    | nil => simp
    | cons next parts =>
        have each := cut.terminated
        rw [List.dropLast_cons_cons] at each
        exact (List.forall_mem_cons.mp each).2

/-- The pieces of a content are a cut, by induction on its lines. -/
theorem isCut_pieces (content : Bytes) : IsCut content (pieces content) := by
  induction content using line_induction with
  | nothing => constructor <;> simp [pieces]
  | last content plain nonempty =>
      rw [pieces_of_not_mem plain nonempty]
      have before : newline ∉ content.dropLast := fun member =>
        plain (List.dropLast_subset content member)
      constructor <;> simp [nonempty, before]
  | line start rest plain ih =>
      rw [pieces_append_newline plain]
      exact ih.cons plain

/-- A content is cut in one way only, its pieces, by induction on the parts. -/
theorem isCut_iff {content : Bytes} {parts : List Bytes}
    : IsCut content parts ↔ parts = pieces content := by
  constructor
  · intro cut
    induction parts generalizing content with
    | nil =>
        obtain rfl := cut.whole
        rfl
    | cons part parts ih =>
        have rest := ih cut.tail
        rcases cut.line_or_plain List.mem_cons_self with ⟨start, rfl, plain⟩ | plain
        · rw [← cut.whole, List.flatten_cons, List.append_assoc, List.singleton_append,
            pieces_append_newline plain, ← rest]
        · cases parts with
          | nil =>
              rw [← cut.whole, List.flatten_singleton,
                pieces_of_not_mem plain (cut.nonempty part List.mem_cons_self)]
          | cons next parts =>
              have ends := cut.terminated part (by simp)
              rw [isTerminated_of_not_mem plain] at ends
              cases ends
  · rintro rfl
    exact isCut_pieces content

-----------------------------------------------------------------------------------------
-- Delivered pieces
-----------------------------------------------------------------------------------------

/-- A line is delivered, and then what is delivered of the rest. -/
theorem delivered_append_newline {start : Bytes} (plain : newline ∉ start) (failing : Bool)
    (rest : Bytes)
    : delivered failing (start ++ newline :: rest)
      = (start ++ [newline]) :: delivered failing rest := by
  cases failing <;>
    simp [delivered, pieces_append_newline plain, isTerminated_append_newline]

/-- If reading does not fail, every piece is delivered. -/
theorem delivered_false (content : Bytes) : delivered false content = pieces content :=
  rfl

/-- A content that is empty or ends in a newline is delivered on its own, whatever comes after it,
by induction on its lines.
-/
theorem delivered_append {first : Bytes} (closed : first = [] ∨ first.getLast? = some newline)
    (failing : Bool) (second : Bytes)
    : delivered failing (first ++ second) = pieces first ++ delivered failing second := by
  induction first using line_induction with
  | nothing => rfl
  | last content plain nonempty =>
      exact absurd (List.mem_of_getLast? (closed.resolve_left nonempty)) plain
  | line start rest plain ih =>
      have closedRest : rest = [] ∨ rest.getLast? = some newline := by
        cases rest with
        | nil => exact .inl rfl
        | cons byte rest => simpa using closed
      rw [List.append_assoc, List.cons_append, delivered_append_newline plain, ih closedRest,
        pieces_append_newline plain, List.cons_append]

/-- Without a newline nothing is delivered before reading fails. -/
theorem delivered_true_of_not_mem {content : Bytes} (plain : newline ∉ content)
    : delivered true content = [] := by
  by_cases empty : content = []
  · simp [delivered, empty, pieces]
  · simp [delivered, pieces_of_not_mem plain empty, isTerminated_of_not_mem plain]

end PatternAudit.Lines
