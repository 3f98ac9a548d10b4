import PatternAudit.Proofs.Path.Segments

/-! Keys as normal forms of paths. A key says where its path starts and has its segments, decoded
one by one or all at once. Every text of that form is a key, and paths of well-formed UTF-8 have
the same key only if they have the same segments.
-/

namespace PatternAudit.Path

-----------------------------------------------------------------------------------------
-- Written keys
-----------------------------------------------------------------------------------------

/-- Parts with a slash between each two, after a slash if they start at the root. -/
def written (absolute : Bool) (parts : List String) : String :=
  (if absolute then "/" else "") ++ "/".intercalate parts

/-- The texts that keys are: the directory itself, the root, and written parts. -/
inductive IsKey : String → Prop
  | here : IsKey "."
  | root : IsKey "/"
  | written {absolute : Bool} {parts : List String} (some : parts ≠ [])
    (named : ∀ part ∈ parts, IsSegment '/' '.' part.toList)
    : IsKey (written absolute parts)

/-- Joining is what the library calls intercalating a slash, by induction on the segments. -/
theorem ofList_join (parts : List (List Char))
    : String.ofList (join parts) = "/".intercalate (parts.map String.ofList) := by
  refine String.toList_inj.mp ?_
  rw [String.toList_ofList, String.toList_intercalate, List.map_map]
  induction parts with
  | nil => rfl
  | cons first parts ih =>
      cases parts with
      | nil => simp [join]
      | cons next parts =>
          rw [join, ih]
          · simp [List.intercalate_cons_cons]
          · exact List.cons_ne_nil _ _

/-- A key is written from its segments, unless there is nothing to write. -/
theorem keyOf_eq_written (absolute : Bool) {parts : List (List Char)}
    (named : ∀ part ∈ parts, IsSegment '/' '.' part)
    : keyOf absolute parts
      = if absolute = false ∧ parts = [] then "."
        else written absolute (parts.map String.ofList) := by
  rw [keyOf_eq_join absolute named]
  cases absolute with
  | true =>
      have slashFirst : String.ofList ('/' :: join parts) = "/" ++ String.ofList (join parts) :=
        @String.ofList_append ['/'] _
      simp [written, slashFirst, ofList_join]
  | false =>
      cases parts with
      | nil => rfl
      | cons first parts => simp [written, ofList_join]

/-- What is written from possible segments is the key of them. -/
theorem keyOf_toList {absolute : Bool} {parts : List String} (some : parts ≠ [])
    (named : ∀ part ∈ parts, IsSegment '/' '.' part.toList)
    : keyOf absolute (parts.map String.toList) = written absolute parts := by
  rw [keyOf_eq_written absolute (List.forall_mem_map.mpr named), List.map_map,
    if_neg (by simp [some])]
  simp

-----------------------------------------------------------------------------------------
-- Decoding a whole path
-----------------------------------------------------------------------------------------

/-- What holds of a list without separators and passes from both sides of a separator to all of
it holds of every list, by recursion on its length.
-/
theorem cut_induction {α : Type} (separator : α) {motive : List α → Prop}
    (whole : ∀ path, separator ∉ path → motive path)
    (cut : ∀ before after, motive before → motive after → motive (before ++ separator :: after))
    (path : List α)
    : motive path := by
  by_cases inside : separator ∈ path
  · obtain ⟨before, after, parts⟩ := List.append_of_mem inside
    have size : path.length = before.length + (after.length + 1) := by
      rw [parts, List.length_append, List.length_cons]
    rw [parts]
    exact cut before after (cut_induction separator whole cut before)
      (cut_induction separator whole cut after)
  · exact whole path inside
termination_by path.length

/-- A slash is decoded on its own. -/
theorem decodeLossy_append_slash (before after : Bytes)
    : Utf8.decodeLossy (before ++ slash :: after)
      = Utf8.decodeLossy before ++ '/' :: Utf8.decodeLossy after :=
  Utf8.decodeLossy_append_ascii (by decide)

/-- Cutting a decoded path is decoding its pieces. -/
theorem pieces_decodeLossy (path : Bytes)
    : pieces '/' (Utf8.decodeLossy path) = (pieces slash path).map Utf8.decodeLossy := by
  induction path using cut_induction slash with
  | whole path plain =>
      rw [pieces_of_not_mem plain, pieces_of_not_mem (mt slash_mem_of_decodeLossy plain)]
      rfl
  | cut before after ihBefore ihAfter =>
      rw [decodeLossy_append_slash, pieces_append_separator, pieces_append_separator, ihBefore,
        ihAfter, List.map_append]

/-- A decoded path has the decoded names. -/
theorem segments_decodeLossy (path : Bytes)
    : segments '/' '.' (Utf8.decodeLossy path) = (names path).map Utf8.decodeLossy := by
  rw [segments, pieces_decodeLossy, List.filter_map, names, segments]
  congr 1
  refine List.filter_congr fun piece _ => ?_
  have empty : (Utf8.decodeLossy piece).isEmpty = piece.isEmpty := by
    rw [Bool.eq_iff_iff, List.isEmpty_iff, List.isEmpty_iff, Utf8.decodeLossy_eq_nil_iff]
  have single : (Utf8.decodeLossy piece == ['.']) = (piece == [dot]) := by
    rw [Bool.eq_iff_iff, beq_iff_eq, beq_iff_eq, decodeLossy_eq_dot_iff]
  rw [Function.comp_apply, empty, single]

/-- A decoded path starts at the root if the path does: a first slash is decoded from a first
byte, because what is before the first byte of a slash would be decoded too.
-/
theorem startsWith_decodeLossy (path : Bytes)
    : startsWith '/' (Utf8.decodeLossy path) = isAbsolute path := by
  rw [isAbsolute, startsWith, startsWith, Bool.eq_iff_iff, beq_iff_eq, beq_iff_eq]
  constructor
  · intro first
    have inside : slash ∈ path := slash_mem_of_decodeLossy (List.mem_of_head? first)
    obtain ⟨before, after, rfl, plain⟩ := List.eq_append_cons_of_mem inside
    cases before with
    | nil => rfl
    | cons byte before =>
        have some : Utf8.decodeLossy (byte :: before) ≠ [] :=
          mt Utf8.decodeLossy_eq_nil_iff.mp (List.cons_ne_nil byte before)
        obtain ⟨char, chars, decoded⟩ := List.exists_cons_of_ne_nil some
        rw [decodeLossy_append_slash, decoded] at first
        obtain rfl : char = '/' := Option.some.inj first
        exact absurd (slash_mem_of_decodeLossy (decoded ▸ List.mem_cons_self)) plain
  · intro first
    cases path with
    | nil => cases first
    | cons byte path =>
        obtain rfl := Option.some.inj first
        exact congrArg List.head? (decodeLossy_append_slash [] path)

/-- A path has the key of the text that it decodes to. -/
theorem textKey_display (path : Bytes) : textKey (display path) = key path := by
  rw [textKey, display, String.toList_ofList, startsWith_decodeLossy, segments_decodeLossy]
  rfl

/-- The key of a text is the key of its bytes. -/
theorem textKey_eq_key (text : String) : textKey text = key (Utf8.ofString text) := by
  rw [← textKey_display, display, Utf8.ofString, Utf8.decodeLossy_encode, String.ofList_toList]

-----------------------------------------------------------------------------------------
-- Normal forms
-----------------------------------------------------------------------------------------

/-- A path starts at the root exactly if it begins with a slash. -/
theorem isAbsolute_iff (path : Bytes) : isAbsolute path = true ↔ [slash] <+: path := by
  cases path with
  | nil => simp [isAbsolute, startsWith]
  | cons byte path => simp [isAbsolute, startsWith, List.cons_prefix_cons, @eq_comm _ byte]

/-- The names in a path are what its slashes enclose, less what is empty or a single dot. -/
theorem names_eq_filter (path : Bytes)
    : names path = (path.splitOn slash).filter (fun piece => piece ≠ [] ∧ piece ≠ [dot]) := by
  rw [names, segments, pieces_eq_splitOn]
  refine List.filter_congr fun piece _ => ?_
  rw [Bool.eq_iff_iff]
  simp

/-- The key of a path is written from its decoded names, unless there is nothing to write. -/
theorem key_eq_written (path : Bytes)
    : key path
      = if isAbsolute path = false ∧ names path = [] then "."
        else written (isAbsolute path) ((names path).map display) := by
  rw [key, keyOf_eq_written _ fun _ => isSegment_of_mem_names, List.map_map]
  simp only [List.map_eq_nil_iff]
  rfl

/-- The key of a path is a key. -/
theorem isKey_key (path : Bytes) : IsKey (key path) := by
  rw [key, keyOf_eq_written _ fun _ => isSegment_of_mem_names]
  split_ifs with nothing
  · exact .here
  · by_cases named : names path = []
    · have absolute : isAbsolute path = true := by simpa [named] using nothing
      rw [named, absolute]
      exact .root
    · refine .written (by simpa using named) fun part member => ?_
      obtain ⟨chars, isName, rfl⟩ := List.mem_map.mp member
      rw [String.toList_ofList]
      exact isSegment_of_mem_names isName

/-- A key is the key of its own text. -/
theorem IsKey.textKey {text : String} (isKey : IsKey text) : textKey text = text := by
  cases isKey with
  | here => decide
  | root => decide
  | written some named =>
      rw [← keyOf_toList some named]
      refine textKey_keyOf _ fun part member => ?_
      obtain ⟨text, isPart, rfl⟩ := List.mem_map.mp member
      exact named text isPart

/-- The keys of paths are the texts that are written so, each being the key of its own bytes. -/
theorem exists_key_eq_iff {text : String} : (∃ path, key path = text) ↔ IsKey text := by
  constructor
  · rintro ⟨path, rfl⟩
    exact isKey_key path
  · intro isKey
    exact ⟨Utf8.ofString text, by rw [← textKey_eq_key, isKey.textKey]⟩

/-- The names in a path of well-formed UTF-8 are well-formed. -/
theorem isSome_decode?_of_mem_names {path name : Bytes} (wellFormed : (Utf8.decode? path).isSome)
    (member : name ∈ names path)
    : (Utf8.decode? name).isSome := by
  have isPiece : name ∈ pieces slash path := (List.mem_filter.mp member).1
  clear member
  induction path using cut_induction slash with
  | whole path plain =>
      rw [pieces_of_not_mem plain, List.mem_singleton] at isPiece
      rwa [isPiece]
  | cut before after ihBefore ihAfter =>
      rw [Utf8.isSome_decode?_append_ascii (by decide)] at wellFormed
      rw [pieces_append_separator, List.mem_append] at isPiece
      exact isPiece.elim (ihBefore wellFormed.1) (ihAfter wellFormed.2)

/-- The names in a path of well-formed UTF-8 are told by the texts that they decode to. -/
theorem names_eq_map_encode {path : Bytes} (wellFormed : (Utf8.decode? path).isSome)
    : names path = ((names path).map Utf8.decodeLossy).map Utf8.encode := by
  have each : (names path).map (Utf8.encode ∘ Utf8.decodeLossy) = (names path).map id :=
    List.map_congr_left fun _ member =>
      Utf8.encode_decodeLossy (isSome_decode?_of_mem_names wellFormed member)
  rw [List.map_map, each, List.map_id]

/-- Keys are normal forms of paths. The key of a path is told by whether the path begins with a
slash and by its segments, which are what its slashes enclose, less what is empty or a single dot.
It is a dot for a relative path without segments, and is otherwise written from the decoded
segments. It is its own key, and the key of the whole path decoded. What is written so is a key,
and nothing else is one. Well-formed UTF-8 with the same key begins alike and has the same
segments.
-/
theorem key_normal_form
    : (∀ path : Bytes,
        (isAbsolute path = true ↔ [slash] <+: path)
        ∧ names path = (path.splitOn slash).filter (fun piece => piece ≠ [] ∧ piece ≠ [dot])
        ∧ key path
          = (if isAbsolute path = false ∧ names path = [] then "."
            else written (isAbsolute path) ((names path).map display))
        ∧ textKey (key path) = key path
        ∧ textKey (display path) = key path)
      ∧ (∀ text, textKey text = key (Utf8.ofString text))
      ∧ (∀ text, (∃ path, key path = text) ↔ IsKey text)
      ∧ ∀ left right : Bytes,
          (Utf8.decode? left).isSome
          → (Utf8.decode? right).isSome
          → (key left = key right
            ↔ isAbsolute left = isAbsolute right ∧ names left = names right) := by
  refine ⟨fun path => ⟨isAbsolute_iff path, names_eq_filter path, key_eq_written path,
    textKey_key path, textKey_display path⟩, textKey_eq_key, fun _ => exists_key_eq_iff,
    fun left right wellFormed wellFormed' => ?_⟩
  rw [key_eq_key_iff]
  refine and_congr_right fun _ => ⟨fun same => ?_, congrArg _⟩
  rw [names_eq_map_encode wellFormed, same, ← names_eq_map_encode wellFormed']

/-- Two spellings of `é`, both of well-formed UTF-8, have one key because they have one name. -/
theorem key_normal_form_sample
    : (Utf8.decode? [0x2E, 0x2F, 0xC3, 0xA9]).isSome
      ∧ (Utf8.decode? [0xC3, 0xA9, 0x2F, 0x2F]).isSome
      ∧ key [0x2E, 0x2F, 0xC3, 0xA9] = key [0xC3, 0xA9, 0x2F, 0x2F] := by
  refine ⟨rfl, rfl, (key_normal_form.2.2.2 _ _ rfl rfl).mpr ⟨rfl, rfl⟩⟩

end PatternAudit.Path
