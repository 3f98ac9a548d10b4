import PatternAudit.Lines.Basic

/-! A reader hands on the pieces of its whole content, wherever that was cut into chunks.
Reading that fails drops what stands after the last newline.
-/

namespace PatternAudit

namespace Lines

/-- A piece that ends in its newline. Only the last piece of a content can lack it. -/
def isTerminated (piece : Bytes) : Bool :=
  piece.getLast? == some newline

/-- The pieces of a content that are known when reading it ends, in failure or not. -/
def delivered (failing : Bool) (content : Bytes) : List Bytes :=
  if failing then (pieces content).filter isTerminated else pieces content

-----------------------------------------------------------------------------------------
-- Where a content is cut
-----------------------------------------------------------------------------------------

/-- Nothing without a newline is terminated. -/
theorem isTerminated_of_not_mem {piece : Bytes} (plain : newline ∉ piece)
    : isTerminated piece = false := by
  rw [isTerminated, beq_eq_false_iff_ne]
  exact fun last => plain (List.mem_of_getLast? last)

/-- The first newline ends the first piece, by induction on what precedes it. -/
theorem pieces_append_newline {start : Bytes} (plain : newline ∉ start) (rest : Bytes)
    : pieces (start ++ newline :: rest) = (start ++ [newline]) :: pieces rest := by
  induction start with
  | nil => simp [pieces]
  | cons byte start ih =>
      have hByte : byte ≠ newline := fun same => plain (same ▸ List.mem_cons_self)
      have hStart : newline ∉ start := fun member => plain (List.mem_cons_of_mem _ member)
      simp [pieces, hByte, ih hStart]

/-- A content without newline is one piece, unless it is empty. -/
theorem pieces_of_not_mem {content : Bytes} (plain : newline ∉ content)
    (nonempty : content ≠ [])
    : pieces content = [content] := by
  induction content with
  | nil => exact absurd rfl nonempty
  | cons byte rest ih =>
      have hByte : byte ≠ newline := fun same => plain (same ▸ List.mem_cons_self)
      have hRest : newline ∉ rest := fun member => plain (List.mem_cons_of_mem _ member)
      cases rest with
    | nil => simp [pieces, hByte]
    | cons next rest =>
        have hPieces := ih hRest (by simp)
        rw [pieces, if_neg hByte, hPieces]

-----------------------------------------------------------------------------------------
-- Chunks
-----------------------------------------------------------------------------------------

/-- What is pending after a chunk has no newline, by induction on the chunk. -/
theorem not_mem_pending_cut {pending : Bytes} (plain : newline ∉ pending) (chunk : Bytes)
    : newline ∉ (cut pending chunk).2 := by
  induction chunk generalizing pending with
  | nil => exact plain
  | cons byte chunk ih =>
      by_cases hByte : byte = newline
      · simpa [cut, hByte] using @ih [] (by simp)
      · have hPending : newline ∉ byte :: pending := by simp [Ne.symm hByte, plain]
        simpa [cut, hByte] using ih hPending

/-- The pieces that a chunk completes end in their newlines. -/
theorem isTerminated_of_mem_cut {pending chunk piece : Bytes}
    (member : piece ∈ (cut pending chunk).1)
    : isTerminated piece = true := by
  induction chunk generalizing pending with
  | nil => simp [cut] at member
  | cons byte chunk ih =>
      by_cases hByte : byte = newline
      · simp only [cut, if_pos hByte, List.mem_cons] at member
        rcases member with rfl | later
        · simp [isTerminated, hByte]
        · exact ih later
      · simp only [cut, if_neg hByte] at member
        exact ih member

/-- A chunk moves its completed pieces from the content to the pieces, whatever comes after it.
The pending bytes are the beginning of the piece that the next chunk goes on with.
-/
theorem pieces_cut {pending : Bytes} (plain : newline ∉ pending) (chunk rest : Bytes)
    : pieces (pending.reverse ++ (chunk ++ rest))
      = (cut pending chunk).1 ++ pieces ((cut pending chunk).2.reverse ++ rest) := by
  induction chunk generalizing pending with
  | nil => simp [cut]
  | cons byte chunk ih =>
      by_cases hByte : byte = newline
      · have hPlain : newline ∉ pending.reverse := by simpa using plain
        have hRest := @ih [] (by simp)
        simp only [List.reverse_nil, List.nil_append] at hRest
        simp only [cut, hByte, ↓reduceIte, List.cons_append, List.reverse_cons]
        rw [pieces_append_newline hPlain, hRest]
      · have hPlain : newline ∉ byte :: pending := by simp [Ne.symm hByte, plain]
        have hRest := ih hPlain
        simp only [List.reverse_cons, List.append_assoc, List.singleton_append] at hRest
        simp only [cut, if_neg hByte, List.cons_append]
        exact hRest

/-- Chunks give the delivered pieces of what is pending and of all of them together.
Witness: induction on the chunks; the last pending bytes are the one piece without newline.
-/
theorem collect_eq_delivered {pending : Bytes} (plain : newline ∉ pending)
    (failing : Bool) (chunks : List Bytes)
    : collect failing pending chunks
      = delivered failing (pending.reverse ++ chunks.flatten) := by
  induction chunks generalizing pending with
  | nil =>
      have hPlain : newline ∉ pending.reverse := by simpa using plain
      by_cases hPending : pending = []
      · cases failing <;> simp [collect, delivered, pieces, hPending]
      · have hPieces := pieces_of_not_mem hPlain (by simpa using hPending)
        have hOpen := isTerminated_of_not_mem hPlain
        cases failing <;> simp [collect, delivered, hPieces, hPending, hOpen]
  | cons chunk chunks ih =>
      have hCut := pieces_cut plain chunk chunks.flatten
      have hComplete : (cut pending chunk).1.filter isTerminated = (cut pending chunk).1 :=
        List.filter_eq_self.mpr fun _ member => isTerminated_of_mem_cut member
      have hRest := ih (not_mem_pending_cut plain chunk)
      simp only [collect, List.flatten_cons, hRest]
      cases failing with
    | false => simp [delivered, hCut]
    | true => simp [delivered, hCut, hComplete]

end Lines

/-- A reader's lines are the pieces delivered of its whole content, without their terminators.
-/
theorem Reader.lines_eq {Fault : Type} (reader : Reader Fault)
    : reader.lines
      = (Lines.delivered reader.fault.isSome reader.chunks.flatten).map Lines.strip := by
  rw [Reader.lines, Lines.collect_eq_delivered (by simp)]
  rfl

end PatternAudit
