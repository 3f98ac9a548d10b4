import PatternAudit.Observations.Basic
import PatternAudit.Proofs.Lines.Rounds
import PatternAudit.Proofs.Lines.Terminators

/-! What scanning a reader tests. It does not depend on buffering: the loop that reads round by
round ends for every buffer, and tests the pieces of the whole content in order. Nothing but
terminators is withheld from the rules, save one carriage return at the very end of a content.
-/

namespace PatternAudit

-----------------------------------------------------------------------------------------
-- Buffers
-----------------------------------------------------------------------------------------

/-- A buffer of any size holds the whole content in the end, by induction on what is left. -/
theorem Reader.flatten_buffered (size : Nat) (content : Bytes)
    : (buffered size content).flatten = content := by
  induction content using buffered.induct size with
  | case1 => rw [buffered, List.flatten_nil]
  | case2 byte bytes ih =>
      rw [buffered, List.flatten_cons, ih, List.cons_append, List.take_append_drop]

/-- A buffer of any size never is empty while something is left, by the same induction. -/
theorem Reader.ne_nil_of_mem_buffered (size : Nat) (content : Bytes)
    : ∀ chunk ∈ buffered size content, chunk ≠ [] := by
  induction content using buffered.induct size with
  | case1 => simp [buffered]
  | case2 byte bytes ih =>
      rw [buffered]
      exact List.forall_mem_cons.mpr ⟨List.cons_ne_nil _ _, ih⟩

namespace Observations

open Lines (newline carriageReturn strip readUntil Round IsCut AreEnded isTerminated pieces
  delivered ended rejoin)

variable {rules : List Rule} {key : String}

-----------------------------------------------------------------------------------------
-- The loop
-----------------------------------------------------------------------------------------

/-- The loop of scanning: what is left in chunks is read round by round, every piece is tested as
a line, and the first round that has nothing or fails is the last. A derivation is a run of the
loop that ends.
-/
inductive Scans (rules : List Rule) (key : String) (fault : Option Files.Fault)
    : Observations → List Bytes → Observations × Option Files.Fault → Prop
  | failed {seen chunks reason} (read : readUntil fault [] chunks = .error reason)
    : Scans rules key fault seen chunks (seen, some reason)
  | ended {seen chunks left} (read : readUntil fault [] chunks = .ok ([], left))
    : Scans rules key fault seen chunks (seen, none)
  | line {seen chunks piece left outcome} (read : readUntil fault [] chunks = .ok (piece, left))
    (some : piece ≠ [])
    (rest : Scans rules key fault (seen.matchLine rules key (strip piece)) left outcome)
    : Scans rules key fault seen chunks outcome

/-- Scanning a reader tests the pieces that it delivers. -/
theorem matchReader_eq (seen : Observations) (chunks : List Bytes) (fault : Option Files.Fault)
    : seen.matchReader rules key { chunks, fault }
      = (seen.matchLines rules key ((delivered fault.isSome chunks.flatten).map strip), fault) := by
  rw [matchReader, Reader.lines_eq]

section Rounds

variable {fault : Option Files.Fault} {chunks : List Bytes} (seen : Observations)

/-- A round that fails is the end of scanning, with that failure. -/
theorem matchReader_of_failed {reason : Files.Fault}
    (round : Round fault chunks.flatten (.error reason))
    : seen.matchReader rules key { chunks, fault } = (seen, some reason) := by
  cases round with
  | failed fails plain =>
      rw [matchReader_eq, fails, Option.isSome_some, Lines.delivered_true_of_not_mem plain]
      rfl

/-- A round that has nothing is the end of scanning. -/
theorem matchReader_of_ended {piece : Bytes} {left : List Bytes}
    (round : Round fault chunks.flatten (.ok (piece, left))) (nothing : piece = [])
    : seen.matchReader rules key { chunks, fault } = (seen, none) := by
  cases round with
  | last ends plain =>
      rw [matchReader_eq, nothing, ends]
      rfl
  | line => simp at nothing

/-- A round that has a piece tests it before the rest. -/
theorem matchReader_of_line {piece : Bytes} {left : List Bytes}
    (round : Round fault chunks.flatten (.ok (piece, left))) (some : piece ≠ [])
    : seen.matchReader rules key { chunks, fault }
      = (seen.matchLine rules key (strip piece)).matchReader rules key
          { chunks := left, fault } := by
  rw [matchReader_eq, matchReader_eq]
  cases round with
  | last ends plain =>
      rw [ends, Option.isSome_none, Lines.delivered_false, Lines.pieces_of_not_mem plain some]
      rfl
  | line plain solid split =>
      rw [split, Lines.delivered_append_newline plain]
      rfl

end Rounds

/-- The loop ends, and ends as scanning the reader does, by recursion on what is left. -/
theorem scans_matchReader (fault : Option Files.Fault) (seen : Observations) {chunks : List Bytes}
    (solid : ∀ chunk ∈ chunks, chunk ≠ [])
    : Scans rules key fault seen chunks (seen.matchReader rules key { chunks, fault }) := by
  have round := Lines.round_readUntil fault List.not_mem_nil solid
  rw [List.nil_append] at round
  cases read : readUntil fault [] chunks with
  | error reason =>
      rw [read] at round
      rw [matchReader_of_failed seen round]
      exact .failed read
  | ok result =>
      obtain ⟨piece, left⟩ := result
      rw [read] at round
      by_cases nothing : piece = []
      · rw [matchReader_of_ended seen round nothing]
        exact .ended (nothing ▸ read)
      · have less := round.length_lt nothing
        rw [matchReader_of_line seen round nothing]
        exact .line read nothing (scans_matchReader fault _ round.solid)
termination_by chunks.flatten.length
decreasing_by exact less

/-- The loop ends as scanning a reader does, however its content comes in chunks. Witness: from a
run of the loop by induction on the run, and to one by recursion on what is left, which every round
with a piece makes less.
-/
theorem scans_iff {fault : Option Files.Fault} {seen : Observations} {chunks : List Bytes}
    (solid : ∀ chunk ∈ chunks, chunk ≠ []) {outcome : Observations × Option Files.Fault}
    : Scans rules key fault seen chunks outcome
      ↔ outcome = seen.matchReader rules key { chunks, fault } := by
  constructor
  · intro scans
    induction scans with
    | @failed seen chunks reason read =>
        have round := Lines.round_readUntil fault List.not_mem_nil solid
        rw [read, List.nil_append] at round
        exact (matchReader_of_failed seen round).symm
    | @ended seen chunks left read =>
        have round := Lines.round_readUntil fault List.not_mem_nil solid
        rw [read, List.nil_append] at round
        exact (matchReader_of_ended seen round rfl).symm
    | @line seen chunks piece left outcome read some _ ih =>
        have round := Lines.round_readUntil fault List.not_mem_nil solid
        rw [read, List.nil_append] at round
        rw [matchReader_of_line seen round some]
        exact ih round.solid
  · rintro rfl
    exact scans_matchReader fault seen solid

-----------------------------------------------------------------------------------------
-- Any buffer
-----------------------------------------------------------------------------------------

/-- Scanning a content is scanning its beginning and then the rest, if the beginning is empty or
ends in a newline.
-/
theorem matchReader_append {content more : Bytes}
    (closed : content = [] ∨ content.getLast? = some newline) {together chunks later : List Bytes}
    (isContent : chunks.flatten = content) (isMore : later.flatten = more)
    (isTogether : together.flatten = content ++ more) (seen : Observations)
    (fault : Option Files.Fault)
    : seen.matchReader rules key { chunks := together, fault }
      = (seen.matchReader rules key { chunks }).1.matchReader rules key
          { chunks := later, fault } := by
  rw [matchReader_eq, matchReader_eq, matchReader_eq, isTogether, isContent, isMore,
    Lines.delivered_append closed, List.map_append, matchLines, List.foldl_append]
  rfl

/-- Line scanning does not depend on buffering. However a content is handed out in chunks that are
not empty, as by a buffer of any size, the loop of scanning ends, and in one way only. The content
is cut into parts right after each newline. If nothing fails, all of them have been tested in
order, without their terminators; if reading fails after the content, those that end in a newline,
and the failure is returned. After a content that is empty or ends in a newline, more can be
scanned on its own as well.
-/
theorem scanning_any_buffer (rules : List Rule) (key : String) (seen : Observations)
    {content : Bytes} {chunks : List Bytes} (delivers : chunks.flatten = content)
    (solid : ∀ chunk ∈ chunks, chunk ≠ [])
    : (∃ parts,
        (∀ cut, IsCut content cut ↔ cut = parts)
        ∧ ∀ fault : Option Files.Fault,
            let tested := if fault.isSome then parts.filter isTerminated else parts
            let ending := (seen.matchLines rules key (tested.map strip), fault)
            seen.matchReader rules key { chunks, fault } = ending
            ∧ ∀ outcome, Scans rules key fault seen chunks outcome ↔ outcome = ending)
      ∧ (∀ size fault,
          seen.matchReader rules key { chunks := Reader.buffered size content, fault }
          = seen.matchReader rules key { chunks, fault })
      ∧ (content = [] ∨ content.getLast? = some newline
        → ∀ more later together,
            later.flatten = more
            → together.flatten = content ++ more
            → ∀ fault,
                seen.matchReader rules key { chunks := together, fault }
                = (seen.matchReader rules key { chunks }).1.matchReader rules key
                    { chunks := later, fault }) := by
  refine ⟨⟨pieces content, fun _ => Lines.isCut_iff, fun fault => ?_⟩, fun size fault => ?_, ?_⟩
  · have ended := delivers ▸ @matchReader_eq rules key seen chunks fault
    exact ⟨ended, fun outcome => ended ▸ scans_iff solid⟩
  · rw [matchReader_eq, matchReader_eq, Reader.flatten_buffered, delivers]
  · intro closed more later together isMore isTogether fault
    exact matchReader_append closed delivers isMore isTogether seen fault

/-- A content with the terminator of its first line cut in two, in chunks of three bytes. Scanning
it, failing after its first line, and scanning more of it are what the theorem says.
-/
theorem scanning_any_buffer_sample
    : let rules : List Rule := [{ source := "b", occursIn := (· == [0x62]), expected := ∅ }]
      let content : Bytes := [0x61, 0x61, 0x0D, 0x0A, 0x62]
      (∀ chunk ∈ Reader.buffered 2 content, chunk ≠ [])
      ∧ (empty 1).matchReader rules "f" { chunks := Reader.buffered 2 content }
        = ({ actual := [.ofList ["f"]] }, none)
      ∧ (empty 1).matchReader rules "f"
          { chunks := Reader.buffered 2 content, fault := some .notFound }
        = (empty 1, some .notFound) := by
  intro rules content
  have solid := Reader.ne_nil_of_mem_buffered 2 content
  obtain ⟨⟨parts, cuts, scans⟩, _⟩ :=
    scanning_any_buffer rules "f" (empty 1) (Reader.flatten_buffered 2 content) solid
  obtain rfl := (cuts _).mp (Lines.isCut_pieces content)
  exact ⟨solid, (scans none).1, (scans (some .notFound)).1⟩

-----------------------------------------------------------------------------------------
-- What is withheld
-----------------------------------------------------------------------------------------

/-- Only terminators are stripped, with one exception. The lines that scanning tests, put together
again with their terminators, are the whole content, unless it ends in a carriage return, which is
then all that is missing. A carriage return before any byte but a newline belongs to the line that
it stands in.
-/
theorem only_terminators_stripped (chunks : List Bytes)
    : ∃ ended,
        AreEnded ended
        ∧ ended.map (·.1) = ({ chunks } : Reader Files.Fault).lines
        ∧ (∀ (seen : Observations) rules key,
            seen.matchReader rules key { chunks }
            = (seen.matchLines rules key (ended.map (·.1)), none))
        ∧ rejoin ended
            ++ (if chunks.flatten.getLast? = some carriageReturn then [carriageReturn] else [])
          = chunks.flatten
        ∧ ∀ before after,
            chunks.flatten = before ++ carriageReturn :: after
            → after ≠ []
            → after.head? ≠ some newline
            → ∃ earlier start rest ending later,
                ended = earlier ++ (start ++ carriageReturn :: rest, ending) :: later
                ∧ before = rejoin earlier ++ start := by
  have tested : (ended chunks.flatten).map (·.1) = ({ chunks } : Reader Files.Fault).lines := by
    rw [Reader.lines_eq, ended, List.map_map]
    rfl
  have together := Lines.rejoin_ended chunks.flatten
  refine ⟨ended chunks.flatten, Lines.areEnded _, tested, fun seen rules key => ?_, together, ?_⟩
  · rw [tested]
    rfl
  · intro before after split nonempty lone
    rcases Lines.append_eq_append_cons (together.trans split)
      with ⟨rest, inLines, isAfter⟩ | ⟨middle, _, withheld⟩
    · have loneRest : rest.head? ≠ some newline := by
        cases rest with
        | nil => simp
        | cons byte rest => simpa [isAfter] using lone
      exact Lines.exists_line_of_carriageReturn (Lines.areEnded _).last inLines loneRest
    · -- What is withheld is one byte, and more than one comes from the carriage return on.
      have size := congrArg List.length withheld
      have more := List.length_pos_iff.mpr nonempty
      split at size <;> simp at size
      omega

/-- A carriage return at the end of a content that has no last newline is withheld: no terminator
gives it back, since it is none.
-/
theorem final_carriageReturn_withheld
    : ({ chunks := [[0x61, 0x0D]] } : Reader Files.Fault).lines = [[0x61]]
      ∧ ¬∃ ended,
          AreEnded ended
          ∧ ended.map (·.1) = ({ chunks := [[0x61, 0x0D]] } : Reader Files.Fault).lines
          ∧ rejoin ended = [0x61, 0x0D] := by
  refine ⟨rfl, ?_⟩
  rintro ⟨ended, areEnded, lines, together⟩
  have single : ended.map (·.1) = [[0x61]] := lines
  obtain ⟨⟨line, ending⟩, rfl, rfl⟩ := List.map_eq_singleton_iff.mp single
  have rest : ending = [0x0D] := by simpa [rejoin] using together
  rcases areEnded.last _ (List.mem_singleton_self _) with isTerminator | none
  · rw [rest] at isTerminator
    cases isTerminator
  · cases rest.symm.trans none

end Observations

end PatternAudit
