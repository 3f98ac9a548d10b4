import Mathlib.Data.List.TakeWhile
import PatternAudit.Proofs.Lines.Pieces

/-! Reading round by round. A round takes chunks out of a buffer until it has a newline, until
there are none left, or until reading fails; it goes on where the round before stopped. Every round
that takes anything leaves less.
-/

namespace PatternAudit.Lines

variable {Fault : Type}

-----------------------------------------------------------------------------------------
-- One round
-----------------------------------------------------------------------------------------

/-- One round of reading, with what it holds so far: the bytes up to the next newline, or to the
end, and the chunks that are left. A chunk in which a newline stands is left from there on, and an
empty one is the end.
-/
def readUntil (fault : Option Fault) : Bytes → List Bytes → Except Fault (Bytes × List Bytes)
  | held, [] =>
    match fault with
    | some fault => .error fault
    | none => .ok (held, [])
  | held, chunk :: chunks =>
    if chunk.isEmpty then .ok (held, chunks)
    else
      match chunk.dropWhile (· != newline) with
      | [] => readUntil fault (held ++ chunk) chunks
      | last :: left =>
        .ok (held ++ chunk.takeWhile (· != newline) ++ [last],
          if left.isEmpty then chunks else left :: chunks)

/-- How a round may end that begins before a content: reading fails before the next newline, the
content ends before it, or the round has a line and leaves what comes after it in chunks.
-/
inductive Round (fault : Option Fault) (content : Bytes)
    : Except Fault (Bytes × List Bytes) → Prop
  | failed {reason} (fails : fault = some reason) (plain : newline ∉ content)
    : Round fault content (.error reason)
  | last (ends : fault = none) (plain : newline ∉ content) : Round fault content (.ok (content, []))
  | line {start left} (plain : newline ∉ start) (solid : ∀ chunk ∈ left, chunk ≠ [])
    (split : content = start ++ newline :: left.flatten)
    : Round fault content (.ok (start ++ [newline], left))

/-- A chunk has no newline, or has one after a first part without. -/
theorem dropWhile_newline (chunk : Bytes)
    : (chunk.dropWhile (· != newline) = [] ∧ newline ∉ chunk)
      ∨ ∃ left,
          chunk.dropWhile (· != newline) = newline :: left
          ∧ newline ∉ chunk.takeWhile (· != newline)
          ∧ chunk = chunk.takeWhile (· != newline) ++ newline :: left := by
  have plain : newline ∉ chunk.takeWhile (· != newline) := fun member => by
    simpa using List.mem_takeWhile_imp member
  cases rest : chunk.dropWhile (· != newline) with
  | nil =>
      refine .inl ⟨rfl, fun member => ?_⟩
      simpa using List.dropWhile_eq_nil_iff.mp rest newline member
  | cons byte left =>
      have isNewline : byte = newline := by
        have first := List.head?_dropWhile_not (· != newline) chunk
        simpa [rest] using first
      subst isNewline
      refine .inr ⟨left, rfl, plain, ?_⟩
      rw [← rest, List.takeWhile_append_dropWhile]

/-- A round ends as it may, by induction on the chunks that it goes through. -/
theorem round_readUntil (fault : Option Fault) {held : Bytes} (plain : newline ∉ held)
    {chunks : List Bytes} (solid : ∀ chunk ∈ chunks, chunk ≠ [])
    : Round fault (held ++ chunks.flatten) (readUntil fault held chunks) := by
  induction chunks generalizing held with
  | nil =>
      rw [List.flatten_nil, List.append_nil]
      cases fault with
      | none => exact .last rfl plain
      | some reason => exact .failed rfl plain
  | cons chunk chunks ih =>
      obtain ⟨nonempty, solidRest⟩ := List.forall_mem_cons.mp solid
      rw [readUntil, if_neg (by simpa using nonempty)]
      rcases dropWhile_newline chunk with ⟨none, plainChunk⟩ | ⟨left, found, before, parts⟩
      · rw [none, List.flatten_cons, ← List.append_assoc]
        exact ih (by simp [plain, plainChunk]) solidRest
      · rw [found]
        refine .line (by simp [plain, before]) ?_ ?_
        · cases left with
          | nil => exact solidRest
          | cons byte left => exact List.forall_mem_cons.mpr ⟨List.cons_ne_nil _ _, solidRest⟩
        · have after : (if left.isEmpty then chunks else left :: chunks).flatten
              = left ++ chunks.flatten := by
            cases left <;> rfl
          rw [after, List.flatten_cons, List.append_assoc, ← List.cons_append,
            ← List.append_assoc (List.takeWhile _ chunk), ← parts]

/-- What a round leaves is in chunks that are not empty. -/
theorem Round.solid {fault : Option Fault} {content piece : Bytes} {left : List Bytes}
    (round : Round fault content (.ok (piece, left)))
    : ∀ chunk ∈ left, chunk ≠ [] := by
  cases round with
  | last => simp
  | line _ solid _ => exact solid

/-- A round that has anything leaves less than there was. -/
theorem Round.length_lt {fault : Option Fault} {content piece : Bytes} {left : List Bytes}
    (round : Round fault content (.ok (piece, left))) (some : piece ≠ [])
    : left.flatten.length < content.length := by
  cases round with
  | last ends plain => exact List.length_pos_iff.mpr some
  | line plain solid split =>
      rw [split, List.length_append, List.length_cons]
      omega

end PatternAudit.Lines
