import Mathlib.Data.List.Basic
import Mathlib.Tactic.SplitIfs
import PatternAudit.Path.Basic
import PatternAudit.Proofs.Text.WellFormed

/-! Segments and the keys made of them. A key has the segments of its path, decoded, and is its
own key.
-/

namespace PatternAudit.Path

-----------------------------------------------------------------------------------------
-- Cutting at separators
-----------------------------------------------------------------------------------------

section Segments

variable {α : Type} [DecidableEq α] {separator dot : α}

/-- Cutting at every separator is what the library calls splitting on it. -/
theorem pieces_eq_splitOn (separator : α) (path : List α)
    : pieces separator path = path.splitOn separator := by
  induction path with
  | nil => rfl
  | cons item items ih =>
      rw [pieces, ih, List.splitOn_cons_eq_if_modifyHead]
      by_cases cut : item = separator
      · simp [cut]
      · cases rest : items.splitOn separator with
        | nil => exact absurd rest (List.splitOn_ne_nil _ _)
        | cons piece rest => simp [cut]

/-- A separator cuts a path in two, each cut on its own. -/
theorem pieces_append_separator (before after : List α)
    : pieces separator (before ++ separator :: after)
      = pieces separator before ++ pieces separator after := by
  simp only [pieces_eq_splitOn, List.splitOn_append_cons_self]

/-- A path without separators is one piece. -/
theorem pieces_of_not_mem {path : List α} (whole : separator ∉ path)
    : pieces separator path = [path] := by
  rw [pieces_eq_splitOn, List.splitOn_eq_singleton whole]

/-- A piece holds no separator, by induction on the path. -/
theorem not_mem_of_mem_pieces {path piece : List α} (member : piece ∈ pieces separator path)
    : separator ∉ piece := by
  induction path generalizing piece with
  | nil =>
      obtain rfl := List.mem_singleton.mp member
      exact List.not_mem_nil
  | cons item items ih =>
      rw [pieces] at member
      split_ifs at member with cut
      · rcases List.mem_cons.mp member with rfl | later
        · exact List.not_mem_nil
        · exact ih later
      · cases rest : pieces separator items with
        | nil =>
            rw [rest] at member
            obtain rfl := List.mem_singleton.mp member
            simpa using Ne.symm cut
        | cons first others =>
            rw [rest] at member ih
            rcases List.mem_cons.mp member with rfl | later
            · simpa [Ne.symm cut] using ih List.mem_cons_self
            · exact ih (List.mem_cons_of_mem _ later)

/-- A piece that can be a segment: it is neither empty nor the single dot, and whole. -/
structure IsSegment (separator dot : α) (segment : List α) : Prop where
  nonempty : segment ≠ []
  notDot : segment ≠ [dot]
  whole : separator ∉ segment

/-- The segments of a path can be segments. -/
theorem isSegment_of_mem_segments {path segment : List α}
    (member : segment ∈ segments separator dot path)
    : IsSegment separator dot segment := by
  obtain ⟨isPiece, kept⟩ := List.mem_filter.mp member
  have ⟨nonempty, notDot⟩ : segment ≠ [] ∧ segment ≠ [dot] := by simpa using kept
  exact ⟨nonempty, notDot, not_mem_of_mem_pieces isPiece⟩

/-- The segments on both sides of a separator are those of the two sides. -/
theorem segments_append_separator (before after : List α)
    : segments separator dot (before ++ separator :: after)
      = segments separator dot before ++ segments separator dot after := by
  rw [segments, pieces_append_separator, List.filter_append, segments, segments]

/-- What can be a segment is its own only one. -/
theorem segments_of_isSegment {segment : List α} (named : IsSegment separator dot segment)
    : segments separator dot segment = [segment] := by
  simp [segments, pieces_of_not_mem named.whole, named.nonempty, named.notDot]

end Segments

-----------------------------------------------------------------------------------------
-- Paths of entries
-----------------------------------------------------------------------------------------

/-- The path of an entry has its name after a slash, which the directory may bring along. -/
theorem child_eq {directory : Bytes} (nonempty : directory ≠ []) (name : Bytes)
    : ∃ before,
        (directory = before ∨ directory = before ++ [slash])
        ∧ child directory name = before ++ slash :: name := by
  unfold child
  split_ifs with joined
  · have trailing : directory.getLast? = some slash := by simpa [nonempty] using joined
    obtain ⟨before, rfl⟩ := List.getLast?_eq_some_iff.mp trailing
    exact ⟨before, .inr rfl, by simp⟩
  · exact ⟨directory, .inl rfl, rfl⟩

/-- Entries with different names have different paths. -/
theorem child_injective (directory : Bytes) : Function.Injective (child directory) := by
  intro name other same
  unfold child at same
  split at same <;> simpa using same

/-- An entry's path starts where its directory's does. -/
theorem isAbsolute_child {directory : Bytes} (nonempty : directory ≠ []) (name : Bytes)
    : isAbsolute (child directory name) = isAbsolute directory := by
  cases directory with
  | nil => exact absurd rfl nonempty
  | cons byte bytes =>
      unfold child
      split_ifs <;> rfl

/-- The path of an entry is not empty. -/
theorem child_ne_nil {directory : Bytes} (nonempty : directory ≠ []) (name : Bytes)
    : child directory name ≠ [] := by
  obtain ⟨before, _, path⟩ := child_eq nonempty name
  simp [path]

/-- An entry's path has one name more than its directory's. -/
theorem names_child {directory name : Bytes} (nonempty : directory ≠ [])
    (named : IsSegment slash dot name)
    : names (child directory name) = names directory ++ [name] := by
  obtain ⟨before, written, path⟩ := child_eq nonempty name
  have same : names before = names directory := by
    rcases written with rfl | rfl
    · rfl
    · rw [names, names, segments_append_separator]
      exact (List.append_nil _).symm
  rw [path, names, segments_append_separator, segments_of_isSegment named, ← names, same]

-----------------------------------------------------------------------------------------
-- Keys
-----------------------------------------------------------------------------------------

/-- Segments with a slash between each two. -/
def join : List (List Char) → List Char
  | [] => []
  | [segment] => segment
  | segment :: rest => segment ++ '/' :: join rest

/-- What is joined after a first segment has a slash before each. -/
theorem join_cons (first : List Char) (parts : List (List Char))
    : join (first :: parts) = first ++ parts.flatMap ('/' :: ·) := by
  induction parts generalizing first with
  | nil => simp [join]
  | cons next parts ih =>
      rw [join, ih next, List.flatMap_cons, List.cons_append]
      exact List.cons_ne_nil _ _

/-- Behind a key that ends in a segment, more segments each get a slash, by induction on them: a
key that ends in a segment does so again when one is pushed.
-/
theorem foldl_pushSegment {key : List Char} (nonempty : key ≠ []) (ends : key.getLast? ≠ some '/')
    {parts : List (List Char)} (named : ∀ part ∈ parts, IsSegment '/' '.' part)
    : parts.foldl pushSegment key = key ++ parts.flatMap ('/' :: ·) := by
  induction parts generalizing key with
  | nil => simp
  | cons part parts ih =>
      obtain ⟨isPart, areParts⟩ := List.forall_mem_cons.mp named
      have pushed : pushSegment key part = key ++ '/' :: part := by
        simp [pushSegment, nonempty, ends]
      have ends' : (key ++ '/' :: part).getLast? ≠ some '/' := by
        rw [List.getLast?_append_cons,
          List.getLast?_cons_of_ne_nil isPart.nonempty]
        exact fun last => isPart.whole (List.mem_of_getLast? last)
      rw [List.foldl_cons, pushed, ih (by simp) ends' areParts, List.flatMap_cons,
        List.append_assoc]

/-- The key of segments has them joined, after a slash if it starts at the root, and is a dot if
there is nothing to join.
-/
theorem keyOf_eq_join (absolute : Bool) {parts : List (List Char)}
    (named : ∀ part ∈ parts, IsSegment '/' '.' part)
    : keyOf absolute parts
      = if absolute then .ofList ('/' :: join parts)
        else if parts.isEmpty then "."
        else .ofList (join parts) := by
  cases parts with
  | nil => cases absolute <;> rfl
  | cons first parts =>
      obtain ⟨isFirst, areRest⟩ := List.forall_mem_cons.mp named
      have ends : first.getLast? ≠ some '/' :=
        fun last => isFirst.whole (List.mem_of_getLast? last)
      cases absolute with
      | true =>
          have begun : pushSegment ['/'] first = '/' :: first := rfl
          have ends' : ('/' :: first).getLast? ≠ some '/' := by
            rwa [List.getLast?_cons_of_ne_nil isFirst.nonempty]
          simp [keyOf, begun, foldl_pushSegment (List.cons_ne_nil _ _) ends' areRest, join_cons]
      | false =>
          have begun : pushSegment [] first = first := rfl
          simp [keyOf, begun, foldl_pushSegment isFirst.nonempty ends areRest, join_cons,
            isFirst.nonempty]

/-- Joining keeps segments apart. Witness: by induction on the segments, each is cut off at the
slash after it.
-/
theorem segments_join {parts : List (List Char)} (named : ∀ part ∈ parts, IsSegment '/' '.' part)
    : segments '/' '.' (join parts) = parts := by
  induction parts with
  | nil => rfl
  | cons first parts ih =>
      obtain ⟨isFirst, areRest⟩ := List.forall_mem_cons.mp named
      cases parts with
      | nil => exact segments_of_isSegment isFirst
      | cons next parts =>
          rw [join, segments_append_separator, segments_of_isSegment isFirst, ih areRest]
          · rfl
          · exact List.cons_ne_nil _ _

/-- Joined segments do not start at the root. -/
theorem startsWith_join {parts : List (List Char)}
    (named : ∀ part ∈ parts, IsSegment '/' '.' part)
    : startsWith '/' (join parts) = false := by
  cases parts with
  | nil => rfl
  | cons first parts =>
      have isFirst := named first List.mem_cons_self
      cases first with
      | nil => exact absurd rfl isFirst.nonempty
      | cons char chars =>
          have notSlash : char ≠ '/' := (List.ne_of_not_mem_cons isFirst.whole).symm
          cases parts <;> simp [join, startsWith, notSlash]

/-- A key can be cut into its segments again. -/
theorem segments_keyOf (absolute : Bool) {parts : List (List Char)}
    (named : ∀ part ∈ parts, IsSegment '/' '.' part)
    : segments '/' '.' (keyOf absolute parts).toList = parts := by
  cases absolute with
  | true =>
      have written : (keyOf true parts).toList = '/' :: join parts := by
        rw [keyOf_eq_join true named, if_pos rfl, String.toList_ofList]
      rw [written]
      exact (segments_append_separator [] (join parts)).trans (segments_join named)
  | false =>
      cases parts with
      | nil => decide
      | cons first parts =>
          have written : (keyOf false (first :: parts)).toList = join (first :: parts) := by
            rw [keyOf_eq_join false named]
            exact String.toList_ofList
          rw [written, segments_join named]

/-- A key starts at the root if it is meant to. -/
theorem startsWith_keyOf (absolute : Bool) {parts : List (List Char)}
    (named : ∀ part ∈ parts, IsSegment '/' '.' part)
    : startsWith '/' (keyOf absolute parts).toList = absolute := by
  cases absolute with
  | true =>
      have written : (keyOf true parts).toList = '/' :: join parts := by
        rw [keyOf_eq_join true named, if_pos rfl, String.toList_ofList]
      rw [written]
      rfl
  | false =>
      cases parts with
      | nil => decide
      | cons first parts =>
          have written : (keyOf false (first :: parts)).toList = join (first :: parts) := by
            rw [keyOf_eq_join false named]
            exact String.toList_ofList
          rw [written, startsWith_join named]

/-- The key of segments is its own key. -/
theorem textKey_keyOf (absolute : Bool) {parts : List (List Char)}
    (named : ∀ part ∈ parts, IsSegment '/' '.' part)
    : textKey (keyOf absolute parts) = keyOf absolute parts := by
  rw [textKey, segments_keyOf absolute named, startsWith_keyOf absolute named]

/-- Keys are the same exactly if they start at the same place and have the same segments. -/
theorem keyOf_eq_keyOf_iff {absolute absolute' : Bool} {parts parts' : List (List Char)}
    (named : ∀ part ∈ parts, IsSegment '/' '.' part)
    (named' : ∀ part ∈ parts', IsSegment '/' '.' part)
    : keyOf absolute parts = keyOf absolute' parts' ↔ absolute = absolute' ∧ parts = parts' := by
  constructor
  · intro same
    have starts := congrArg (fun text : String => startsWith '/' text.toList) same
    have cuts := congrArg (fun text : String => segments '/' '.' text.toList) same
    simp only [startsWith_keyOf _ named, startsWith_keyOf _ named'] at starts
    simp only [segments_keyOf _ named, segments_keyOf _ named'] at cuts
    exact ⟨starts, cuts⟩
  · rintro ⟨rfl, rfl⟩
    rfl

/-- A slash is decoded from the byte of a slash only. -/
theorem slash_mem_of_decodeLossy {path : Bytes} (member : '/' ∈ Utf8.decodeLossy path)
    : slash ∈ path :=
  Utf8.mem_of_mem_decodeLossy (by decide) (by decide) member

/-- A dot is decoded from the byte of a dot only. -/
theorem dot_mem_of_decodeLossy {path : Bytes} (member : '.' ∈ Utf8.decodeLossy path)
    : dot ∈ path :=
  Utf8.mem_of_mem_decodeLossy (by decide) (by decide) member

/-- The single dot is decoded from the byte of a dot only. -/
theorem decodeLossy_eq_dot_iff {piece : Bytes}
    : Utf8.decodeLossy piece = ['.'] ↔ piece = [dot] :=
  Utf8.decodeLossy_eq_iff_of_ascii (by simp)

/-- The name of the parent is decoded from two dots only. -/
theorem decodeLossy_eq_parent_iff {piece : Bytes}
    : Utf8.decodeLossy piece = ['.', '.'] ↔ piece = [dot, dot] :=
  Utf8.decodeLossy_eq_iff_of_ascii (by simp)

/-- A segment stays one when it is decoded: slashes and dots come from their own bytes only. -/
theorem isSegment_decodeLossy {name : Bytes} (named : IsSegment slash dot name)
    : IsSegment '/' '.' (Utf8.decodeLossy name) where
  nonempty := mt Utf8.decodeLossy_eq_nil_iff.mp named.nonempty
  notDot := mt decodeLossy_eq_dot_iff.mp named.notDot
  whole := mt slash_mem_of_decodeLossy named.whole

/-- The decoded names of a path can be segments. -/
theorem isSegment_of_mem_names {path : Bytes} {part : List Char}
    (member : part ∈ (names path).map Utf8.decodeLossy)
    : IsSegment '/' '.' part := by
  obtain ⟨name, isName, rfl⟩ := List.mem_map.mp member
  exact isSegment_decodeLossy (isSegment_of_mem_segments isName)

/-- The key of a path is its own key. -/
theorem textKey_key (path : Bytes) : textKey (key path) = key path :=
  textKey_keyOf _ fun _ member => isSegment_of_mem_names member

/-- Paths have the same key exactly if they start at the same place and their names decode to the
same texts.
-/
theorem key_eq_key_iff {left right : Bytes}
    : key left = key right
      ↔ isAbsolute left = isAbsolute right
        ∧ (names left).map Utf8.decodeLossy = (names right).map Utf8.decodeLossy :=
  keyOf_eq_keyOf_iff (fun _ => isSegment_of_mem_names) (fun _ => isSegment_of_mem_names)

/-- The path of an entry has the same key under directories whose paths have the same key. -/
theorem key_child_congr {left right name : Bytes} (same : key left = key right)
    (nonempty : left ≠ []) (nonempty' : right ≠ []) (named : IsSegment slash dot name)
    : key (child left name) = key (child right name) := by
  obtain ⟨starts, texts⟩ := key_eq_key_iff.mp same
  refine key_eq_key_iff.mpr ⟨?_, ?_⟩
  · rw [isAbsolute_child nonempty, isAbsolute_child nonempty', starts]
  · rw [names_child nonempty named, names_child nonempty' named, List.map_append,
      List.map_append, texts]

end PatternAudit.Path
