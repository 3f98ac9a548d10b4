import Mathlib.Data.List.Forall2
import PatternAudit.Config.Basic
import PatternAudit.Proofs.Path.Under

/-! The format that the path of a configuration announces. It is read off the last segment of the
path's key, whatever the spelling of the path and whatever bytes in it are no UTF-8, because the
dots and letters that decide are characters of ASCII.
-/

namespace PatternAudit

open Utf8 (decodeLossy)

-----------------------------------------------------------------------------------------
-- Letters
-----------------------------------------------------------------------------------------

namespace Format

/-- The lower case of a character, by number. -/
theorem toNat_toLower (char : Char)
    : char.toLower.toNat
      = if 65 ≤ char.toNat ∧ char.toNat ≤ 90 then char.toNat + 32 else char.toNat := by
  have bounds
      : (char.val ≥ 'A'.val ∧ char.val ≤ 'Z'.val) ↔ 65 ≤ char.toNat ∧ char.toNat ≤ 90 := by
    rw [ge_iff_le, UInt32.le_iff_toNat_le, UInt32.le_iff_toNat_le]
    rfl
  unfold Char.toLower
  split_ifs with upper isUpper isUpper
  · have small : char.val.toNat + 32 < 2 ^ 32 := by
      have most : char.val.toNat ≤ 90 := isUpper.2
      omega
    rw [Char.toNat, UInt32.toNat_add, Char.toNat]
    exact Nat.mod_eq_of_lt small
  · exact absurd (bounds.mp upper) isUpper
  · exact absurd (bounds.mpr isUpper) upper
  · rfl

/-- A lower-case letter, by number. -/
theorem bounds_of_isLower {letter : Char} (lower : letter.isLower = true)
    : 97 ≤ letter.toNat ∧ letter.toNat ≤ 122 := by
  have bounds : (decide (letter.val ≥ 'a'.val) && decide (letter.val ≤ 'z'.val)) = true := lower
  rw [Bool.and_eq_true, decide_eq_true_eq, decide_eq_true_eq, ge_iff_le,
    UInt32.le_iff_toNat_le, UInt32.le_iff_toNat_le] at bounds
  exact bounds

/-- A character has a lower-case letter as its lower case if it is that letter or its upper case.
-/
theorem toLower_eq_iff {letter : Char} (lower : letter.isLower = true) (char : Char)
    : char.toLower = letter ↔ char.toNat = letter.toNat ∨ char.toNat + 32 = letter.toNat := by
  obtain ⟨least, most⟩ := bounds_of_isLower lower
  rw [← Char.toNat_inj, toNat_toLower]
  split_ifs <;> omega

/-- A byte is the letter in either case if it is of ASCII and its character is. -/
theorem isLetter_iff {letter : Char} (lower : letter.isLower = true) (byte : UInt8)
    : isLetter (.ofNat letter.toNat) byte = true
      ↔ byte.toNat < 0x80 ∧ (Char.ofNat byte.toNat).toLower = letter := by
  obtain ⟨least, most⟩ := bounds_of_isLower lower
  have small : letter.toNat < UInt8.size := Nat.lt_of_le_of_lt most (by decide)
  have number : (UInt8.ofNat letter.toNat).toNat = letter.toNat := UInt8.toNat_ofNat_of_lt' small
  have sum : (byte + 0x20).toNat = (byte.toNat + 32) % 256 := UInt8.toNat_add byte 0x20
  have bounded : byte.toNat < 256 := byte.toNat_lt_size
  rw [isLetter, Bool.or_eq_true, beq_iff_eq, beq_iff_eq, ← UInt8.toNat_inj, ← UInt8.toNat_inj,
    number, sum, toLower_eq_iff lower]
  by_cases ascii : byte.toNat < 0x80
  · have valid : byte.toNat.isValidChar := .inl (by omega)
    rw [Utf8.Decoder.toNat_ofNat_of_valid valid]
    omega
  · omega

/-- The letters of a word, one by one. -/
theorem spells_iff_forall₂ {word : String} {name : Bytes}
    : spells word name = true
      ↔ List.Forall₂ (fun lower byte => isLetter lower byte = true) (Utf8.ofString word) name := by
  rw [List.forall₂_iff_zip, spells, Bool.and_eq_true, beq_iff_eq, List.all_eq_true, Prod.forall]

/-- A name spells a word if it decodes to it but for the case of letters, by induction on the word.
A byte beyond ASCII is no letter, and begins no text that begins with one.
-/
theorem forall₂_isLetter_iff {word : List Char} (lower : ∀ letter ∈ word, letter.isLower = true)
    {name : Bytes}
    : List.Forall₂ (fun lower byte => isLetter lower byte = true) (Utf8.encode word) name
      ↔ (decodeLossy name).map Char.toLower = word := by
  induction word generalizing name with
  | nil =>
      rw [Utf8.encode, List.flatMap_nil, List.forall₂_nil_left_iff, List.map_eq_nil_iff,
        Utf8.decodeLossy_eq_nil_iff]
  | cons letter word ih =>
      obtain ⟨isLower, areLower⟩ := List.forall_mem_cons.mp lower
      obtain ⟨least, most⟩ := bounds_of_isLower isLower
      have alone : Utf8.encodeChar letter = [.ofNat letter.toNat] := by
        rw [Utf8.encodeChar, if_pos (by omega)]
      rw [Utf8.encode, List.flatMap_cons, alone, List.singleton_append, ← Utf8.encode]
      constructor
      · intro spelled
        cases spelled with
        | @cons _ byte _ rest first others =>
            obtain ⟨ascii, sameLetter⟩ := (isLetter_iff isLower byte).mp first
            have nothing : decodeLossy [] = [] := Utf8.decodeLossy_eq_nil_iff.mpr rfl
            have decoded
                : decodeLossy (byte :: rest) = Char.ofNat byte.toNat :: decodeLossy rest := by
              simpa [nothing] using @Utf8.decodeLossy_append_ascii [] rest byte ascii
            rw [decoded, List.map_cons, sameLetter, (ih areLower).mp others]
      · intro decoded
        obtain ⟨char, chars, begins, isLetter, others⟩ := List.map_eq_cons_iff.mp decoded
        have number := (toLower_eq_iff isLower char).mp isLetter
        obtain ⟨byte, rest, rfl, same, further⟩ :=
          Utf8.exists_of_decodeLossy_eq_cons (by omega) (by omega) begins
        have ofByte : Char.ofNat byte.toNat = char := by rw [same, Char.ofNat_toNat]
        refine .cons ((isLetter_iff isLower byte).mpr ⟨by omega, ofByte ▸ isLetter⟩) ?_
        exact (ih areLower).mpr (further ▸ others)

/-- A name spells a lower-case word if it decodes to it but for the case of letters. -/
theorem spells_iff {word : String} (lower : word.toList.all Char.isLower = true) (name : Bytes)
    : spells word name = true ↔ (decodeLossy name).map Char.toLower = word.toList :=
  spells_iff_forall₂.trans (forall₂_isLetter_iff (List.all_eq_true.mp lower))

end Format

-----------------------------------------------------------------------------------------
-- Extensions
-----------------------------------------------------------------------------------------

namespace Path

/-- A list is cut at the last of the items that are like one in it. -/
theorem exists_last_cut {α : Type} {item : α} {list : List α} (member : item ∈ list)
    : ∃ before after, list = before ++ item :: after ∧ item ∉ after := by
  obtain ⟨after, before, cut, fresh⟩ :=
    List.eq_append_cons_of_mem (List.mem_reverse.mpr member)
  refine ⟨before.reverse, after.reverse, ?_, by simpa using fresh⟩
  rw [← list.reverse_reverse, cut]
  simp

/-- There is only one last cut: what comes after it is the last piece. -/
theorem last_cut_unique {α : Type} [DecidableEq α] {item : α}
    {before before' after after' : List α} (fresh : item ∉ after) (fresh' : item ∉ after')
    (same : before ++ item :: after = before' ++ item :: after')
    : before = before' ∧ after = after' := by
  have pieces := congrArg (fun list => (Path.pieces item list).getLast?) same
  simp only [pieces_append_separator, pieces_of_not_mem fresh, pieces_of_not_mem fresh',
    List.getLast?_concat, Option.some.injEq] at pieces
  obtain rfl := pieces
  exact ⟨List.append_cancel_right same, rfl⟩

/-- Looking for a dot from the end, all of a name without dots is passed. -/
theorem takeWhile_reverse_append {name : Bytes} (plain : dot ∉ name) (before : Bytes)
    : (name.reverse ++ before).takeWhile (· != dot)
      = name.reverse ++ before.takeWhile (· != dot) := by
  refine List.takeWhile_append_of_pos ?_
  intro byte member
  have other : byte ≠ dot := fun same => plain (same ▸ List.mem_reverse.mp member)
  simpa using other

/-- Without a dot there is no extension. -/
theorem extensionOf_of_not_mem {name : Bytes} (plain : dot ∉ name)
    : extensionOf name = none := by
  have whole : name.reverse.takeWhile (· != dot) = name.reverse := by
    simpa using takeWhile_reverse_append plain []
  rw [extensionOf, whole, List.drop_length]

/-- The extension is what follows the last dot, unless nothing precedes that or the name is that of
the parent.
-/
theorem extensionOf_append {stem extension : Bytes} (plain : dot ∉ extension)
    : extensionOf (stem ++ dot :: extension)
      = if stem = [] ∨ stem ++ dot :: extension = [dot, dot] then none else some extension := by
  have backwards
      : (stem ++ dot :: extension).reverse = extension.reverse ++ dot :: stem.reverse := by
    simp
  have after : (stem ++ dot :: extension).reverse.takeWhile (· != dot) = extension.reverse := by
    rw [backwards, takeWhile_reverse_append plain]
    simp
  have before
      : (stem ++ dot :: extension).reverse.drop extension.reverse.length
        = dot :: stem.reverse := by
    rw [backwards, List.drop_left]
  rw [extensionOf, after, before]
  simp

end Path

-----------------------------------------------------------------------------------------
-- Formats of paths
-----------------------------------------------------------------------------------------

namespace Format

open PatternAudit.Path (names key extensionOf dot)

/-- A segment announces YAML: it is not the parent, and after its last dot, before which there is
something, it has `yaml` or `yml` in any letter case.
-/
def AnnouncesYaml (segment : List Char) : Prop :=
  segment ≠ ['.', '.']
  ∧ ∃ stem extension,
      segment = stem ++ '.' :: extension
      ∧ '.' ∉ extension
      ∧ stem ≠ []
      ∧ (extension.map Char.toLower = "yaml".toList ∨ extension.map Char.toLower = "yml".toList)

/-- The last segment of a key: what follows its last slash. -/
def lastSegment (key : String) : List Char :=
  (key.toList.splitOn '/').getLastD []

/-- A dot is decoded on its own. -/
theorem decodeLossy_append_dot (stem extension : Bytes)
    : decodeLossy (stem ++ dot :: extension)
      = decodeLossy stem ++ '.' :: decodeLossy extension :=
  Utf8.decodeLossy_append_ascii (by decide)

/-- A name has an extension that spells YAML exactly if the text that it decodes to announces it:
the last dot of the text is decoded from the last dot of the name.
-/
theorem announcesYaml_decodeLossy_iff (name : Bytes)
    : AnnouncesYaml (decodeLossy name)
      ↔ ∃ extension,
          extensionOf name = some extension
          ∧ (spells "yaml" extension = true ∨ spells "yml" extension = true) := by
  have isYaml := @spells_iff "yaml" rfl
  have isYml := @spells_iff "yml" rfl
  by_cases member : dot ∈ name
  · obtain ⟨stem, extension, rfl, plain⟩ := Path.exists_last_cut member
    have plainText : '.' ∉ decodeLossy extension := mt Path.dot_mem_of_decodeLossy plain
    have isParent := @Path.decodeLossy_eq_parent_iff (stem ++ dot :: extension)
    rw [Path.extensionOf_append plain, AnnouncesYaml, Ne, isParent, decodeLossy_append_dot]
    simp only [isYaml, isYml]
    constructor
    · rintro ⟨notParent, stem', extension', cut, plain', some, spelled⟩
      obtain ⟨rfl, rfl⟩ := Path.last_cut_unique plainText plain' cut
      have nonempty : stem ≠ [] := mt Utf8.decodeLossy_eq_nil_iff.mpr some
      exact ⟨extension, if_neg (not_or.mpr ⟨nonempty, notParent⟩), spelled⟩
    · rintro ⟨extension', found, spelled⟩
      split_ifs at found with excluded
      obtain rfl := Option.some.inj found
      obtain ⟨nonempty, notParent⟩ := not_or.mp excluded
      exact ⟨notParent, _, _, rfl, plainText, mt Utf8.decodeLossy_eq_nil_iff.mp nonempty, spelled⟩
  · rw [Path.extensionOf_of_not_mem member]
    constructor
    · rintro ⟨_, stem, extension, cut, _⟩
      exact absurd (Path.dot_mem_of_decodeLossy (by simp [cut])) member
    · rintro ⟨_, missing, _⟩
      cases missing

/-- The last of the pieces is what follows the last slash. -/
theorem getLastD_splitOn_append (before : List Char) {after : List Char} (whole : '/' ∉ after)
    : ((before ++ '/' :: after).splitOn '/').getLastD [] = after := by
  rw [List.splitOn_append_cons_self, List.splitOn_eq_singleton whole, List.getLastD_concat]

/-- A part that is put under a directory is the last segment. -/
theorem lastSegment_under (directory : String) {part : String} (whole : '/' ∉ part.toList)
    : lastSegment (Path.under directory [part]) = part.toList := by
  have alone : "/".intercalate [part] = part := by simp
  unfold Path.under lastSegment
  split_ifs with here root
  · rw [alone, List.splitOn_eq_singleton whole]
    rfl
  · rw [alone, String.toList_append]
    exact getLastD_splitOn_append [] whole
  · rw [alone, String.toList_append, String.toList_append, List.append_assoc]
    exact getLastD_splitOn_append directory.toList whole

/-- The last segment of a key is the last name, decoded. -/
theorem lastSegment_key {path name : Bytes} {before : List Bytes}
    (last : names path = before ++ [name])
    : lastSegment (key path) = decodeLossy name := by
  have isName : name ∈ names path := by simp [last]
  have isPart := Path.isSegment_decodeLossy (Path.isSegment_of_mem_segments isName)
  have named : ∀ part ∈ before.map decodeLossy, Path.IsSegment '/' '.' part := by
    intro part member
    refine @Path.isSegment_of_mem_names path part ?_
    rw [last, List.map_append]
    exact List.mem_append_left _ member
  have shown : key path
      = Path.under (Path.keyOf (Path.isAbsolute path) (before.map decodeLossy))
          [.ofList (decodeLossy name)] := by
    rw [key, last, List.map_append]
    exact Path.keyOf_append _ named (List.forall_mem_singleton.mpr isPart) (List.cons_ne_nil _ _)
  rw [shown, lastSegment_under, String.toList_ofList]
  simpa using isPart.whole

/-- What a path announces, by its extension. -/
theorem ofPath_eq_yaml_iff (path : Bytes)
    : ofPath path = .yaml
      ↔ ∃ extension,
          Path.extension? path = some extension
          ∧ (spells "yaml" extension = true ∨ spells "yml" extension = true) := by
  unfold ofPath
  cases Path.extension? path with
  | none => simp
  | some extension =>
      simp only [Option.some.injEq, exists_eq_left', ← Bool.or_eq_true, ite_eq_left_iff,
        reduceCtorEq, imp_false, not_not]

/-- A key without segments announces nothing. -/
theorem not_announcesYaml_of_names_eq_nil {path : Bytes} (nothing : names path = [])
    : ¬AnnouncesYaml (lastSegment (key path)) := by
  rw [key, nothing]
  rintro ⟨_, stem, extension, cut, _, some, _⟩
  cases absolute : Path.isAbsolute path with
  | true =>
      have root : lastSegment (Path.keyOf true []) = [] := by decide
      rw [absolute, List.map_nil, root] at cut
      simp at cut
  | false =>
      have here : lastSegment (Path.keyOf false []) = ['.'] := by decide
      rw [absolute, List.map_nil, here, List.singleton_eq_append_iff] at cut
      simp [some] at cut

/-- A path announces YAML if the last segment of its key does. -/
theorem ofPath_eq_yaml_iff_announcesYaml (path : Bytes)
    : ofPath path = .yaml ↔ AnnouncesYaml (lastSegment (key path)) := by
  rw [ofPath_eq_yaml_iff, Path.extension?]
  rcases List.eq_nil_or_concat' (names path) with nothing | ⟨before, name, last⟩
  · simp [nothing, not_announcesYaml_of_names_eq_nil nothing]
  · rw [lastSegment_key last, announcesYaml_decodeLossy_iff, last, List.getLast?_concat,
      Option.bind_some]

/-- Paths whose keys have the same last segment announce the same format. -/
theorem ofPath_congr {left right : Bytes}
    (same : lastSegment (key left) = lastSegment (key right))
    : ofPath left = ofPath right := by
  have both : ofPath left = .yaml ↔ ofPath right = .yaml := by
    rw [ofPath_eq_yaml_iff_announcesYaml, same, ← ofPath_eq_yaml_iff_announcesYaml]
  revert both
  cases ofPath left <;> cases ofPath right <;> decide

/-- The format that a path announces is that of its key, is settled by the last segment of the
key alone, and is YAML exactly if that segment is not the parent and has, after its last dot and
something before the dot, `yaml` or `yml` in any letter case.
-/
theorem ofPath_respects_keys
    : (∀ path : Bytes,
        ofPath path = ofPath (Utf8.ofString (key path))
        ∧ (ofPath path = .yaml ↔ AnnouncesYaml (lastSegment (key path))))
      ∧ ∀ left right : Bytes,
          lastSegment (key left) = lastSegment (key right) → ofPath left = ofPath right := by
  refine ⟨?_, fun _ _ => ofPath_congr⟩
  intro path
  refine ⟨ofPath_congr ?_, ofPath_eq_yaml_iff_announcesYaml path⟩
  rw [← Path.textKey_eq_key, Path.textKey_key]

/-- `./a//` before and `/.` after a name change nothing, nor does which byte is ill-formed. -/
theorem ofPath_respects_keys_sample
    : lastSegment (key [0x2E, 0x2F, 0x61, 0x2F, 0x2F, 0xFF, 0x2E, 0x59, 0x4D, 0x4C, 0x2F, 0x2E])
        = lastSegment (key [0xFE, 0x2E, 0x59, 0x4D, 0x4C])
      ∧ ofPath [0x2E, 0x2F, 0x61, 0x2F, 0x2F, 0xFF, 0x2E, 0x59, 0x4D, 0x4C, 0x2F, 0x2E]
        = ofPath [0xFE, 0x2E, 0x59, 0x4D, 0x4C]
      ∧ ofPath [0xFE, 0x2E, 0x59, 0x4D, 0x4C] = .yaml := by
  refine ⟨by decide, ofPath_respects_keys.2 _ _ (by decide), by decide⟩

end Format

end PatternAudit
