import Mathlib.Algebra.Ring.Nat
import Mathlib.Data.List.Induction
import Mathlib.Tactic.SplitIfs
import PatternAudit.Proofs.Lines.Pieces

/-! How many lines a content has, and which. Lines that are written one after the other are read
back exactly if none of them has a newline in it.
-/

namespace PatternAudit.Lines

/-- Lines written one after the other, each with a newline at its end. -/
def unlines (lines : List Bytes) : Bytes :=
  lines.flatMap (· ++ [newline])

-----------------------------------------------------------------------------------------
-- Pieces and newlines
-----------------------------------------------------------------------------------------

/-- A content that is empty or ends in a newline has as many pieces as newlines, by induction on
its lines.
-/
theorem length_pieces {content : Bytes}
    (closed : content = [] ∨ content.getLast? = some newline)
    : (pieces content).length = content.count newline := by
  induction content using line_induction with
  | nothing => rfl
  | last content plain nonempty =>
      exact absurd (List.mem_of_getLast? (closed.resolve_left nonempty)) plain
  | line start rest plain ih =>
      have closedRest : rest = [] ∨ rest.getLast? = some newline := by
        cases rest with
        | nil => exact .inl rfl
        | cons byte rest => simpa using closed
      rw [pieces_append_newline plain, List.length_cons, ih closedRest, List.count_append,
        List.count_cons_self, List.count_eq_zero_of_not_mem plain, Nat.zero_add]

/-- Written lines are nothing or end in a newline. -/
theorem closed_unlines (lines : List Bytes)
    : unlines lines = [] ∨ (unlines lines).getLast? = some newline := by
  induction lines using List.reverseRecOn with
  | nil => exact .inl rfl
  | append_singleton lines line _ =>
      refine .inr ?_
      simp [unlines]

/-- Written lines have a newline each, and those that are in them. -/
theorem count_unlines (lines : List Bytes)
    : (unlines lines).count newline
      = lines.length + (lines.map (List.count newline)).sum := by
  induction lines with
  | nil => rfl
  | cons line lines ih =>
      rw [unlines] at ih ⊢
      simp only [List.flatMap_cons, List.count_append, ih, List.map_cons, List.sum_cons,
        List.length_cons, List.count_singleton_self]
      omega

/-- The pieces of written lines are those lines exactly if no newline is in one of them. Witness: a
piece has a newline only at its end, and lines without one are cut off one by one.
-/
theorem pieces_unlines_iff (lines : List Bytes)
    : pieces (unlines lines) = lines.map (· ++ [newline]) ↔ ∀ line ∈ lines, newline ∉ line := by
  constructor
  · intro same line member
    have piece : line ++ [newline] ∈ pieces (unlines lines) := by
      rw [same]
      exact List.mem_map_of_mem member
    simpa using (isCut_pieces _).plain _ piece
  · intro plain
    induction lines with
    | nil => rfl
    | cons line lines ih =>
        obtain ⟨first, rest⟩ := List.forall_mem_cons.mp plain
        have split : unlines (line :: lines) = line ++ newline :: unlines lines := by
          simp [unlines]
        rw [split, pieces_append_newline first, ih rest, List.map_cons]

-----------------------------------------------------------------------------------------
-- Newlines in encoded texts
-----------------------------------------------------------------------------------------

/-- Only the byte of a newline's code is a newline. -/
theorem ofNat_eq_newline_iff {code : Nat} (small : code < 0x100)
    : UInt8.ofNat code = newline ↔ code = 10 := by
  rw [← UInt8.toNat_inj, UInt8.toNat_ofNat_of_lt' small]
  rfl

/-- No other character has the byte of a newline in its encoding: all bytes of the longer ones are
beyond ASCII.
-/
theorem eq_newline_of_mem_encodeChar {char : Char} (member : newline ∈ Utf8.encodeChar char)
    : char = '\n' := by
  have valid : char.toNat.isValidChar := char.valid
  have bounded : char.toNat < 0x110000 := by
    rw [Nat.isValidChar] at valid
    omega
  have isCode {code : Nat} (small : code < 0x100) (same : newline = UInt8.ofNat code) : code = 10 :=
    (ofNat_eq_newline_iff small).mp same.symm
  suffices newlineCode : char.toNat = 10 from Char.toNat_inj.mp newlineCode
  dsimp only [Utf8.encodeChar] at member
  split_ifs at member with one two three <;>
    simp only [List.mem_cons, List.not_mem_nil, or_false] at member
  · exact isCode (by omega) member
  · rcases member with same | same <;>
      exact absurd (isCode (by omega) same) (by omega)
  · rcases member with same | same | same <;>
      exact absurd (isCode (by omega) same) (by omega)
  · rcases member with same | same | same | same <;>
      exact absurd (isCode (by omega) same) (by omega)

/-- The encoding of the newline is its byte, and no other character's has that byte. -/
theorem count_newline_encodeChar (char : Char)
    : (Utf8.encodeChar char).count newline = if char = '\n' then 1 else 0 := by
  split
  · next same =>
    subst same
    rfl
  · next other =>
    exact List.count_eq_zero_of_not_mem fun member => other (eq_newline_of_mem_encodeChar member)

/-- An encoded text has a newline for each that the text has. -/
theorem count_newline_ofString (text : String)
    : (Utf8.ofString text).count newline = text.toList.count '\n' := by
  rw [Utf8.ofString, Utf8.encode]
  induction text.toList with
  | nil => rfl
  | cons char chars ih =>
      rw [List.flatMap_cons, List.count_append, ih, count_newline_encodeChar, List.count_cons,
        Nat.add_comm]
      simp only [beq_iff_eq]

end PatternAudit.Lines
