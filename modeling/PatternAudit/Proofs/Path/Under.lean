import PatternAudit.Proofs.Path.NormalForm

/-! Keys of what lies below a directory. Names that are put one by one behind the path of the
directory, however that is spelled, are put behind its key with single slashes.
-/

namespace PatternAudit.Path

/-- The key that parts have below the directory with a key. -/
def under (directory : String) (parts : List String) : String :=
  if directory = "." then "/".intercalate parts
  else if directory = "/" then "/" ++ "/".intercalate parts
  else directory ++ "/" ++ "/".intercalate parts

-----------------------------------------------------------------------------------------
-- More segments of a key
-----------------------------------------------------------------------------------------

/-- More segments are joined after a slash, by induction on the segments before them. -/
theorem join_append {before after : List (List Char)} (some : before ≠ []) (more : after ≠ [])
    : join (before ++ after) = join before ++ '/' :: join after := by
  induction before with
  | nil => exact absurd rfl some
  | cons first before ih =>
      cases before with
      | nil =>
          rw [List.singleton_append, join, join]
          exact more
      | cons next before =>
          have whole : join (first :: next :: before) = first ++ '/' :: join (next :: before) :=
            join.eq_3 first (next :: before) (List.cons_ne_nil _ _)
          rw [List.cons_append, join, ih (List.cons_ne_nil _ _), whole, List.append_assoc,
            List.cons_append]
          exact List.cons_ne_nil _ _

/-- A key with more segments lies under the key without them. -/
theorem keyOf_append (absolute : Bool) {before after : List (List Char)}
    (named : ∀ part ∈ before, IsSegment '/' '.' part)
    (named' : ∀ part ∈ after, IsSegment '/' '.' part) (more : after ≠ [])
    : keyOf absolute (before ++ after)
      = under (keyOf absolute before) (after.map String.ofList) := by
  have isHere : keyOf absolute before = "." ↔ absolute = false ∧ before = [] :=
    @keyOf_eq_keyOf_iff absolute false before [] named (by simp)
  have isRoot : keyOf absolute before = "/" ↔ absolute = true ∧ before = [] :=
    @keyOf_eq_keyOf_iff absolute true before [] named (by simp)
  have whole := List.forall_mem_append.mpr ⟨named, named'⟩
  cases before with
  | nil =>
      cases absolute with
      | true =>
          have root : keyOf true [] = "/" := rfl
          simp [under, root, keyOf_eq_written true named', written]
      | false =>
          have here : keyOf false [] = "." := rfl
          simp [under, here, keyOf_eq_written false named', written, more]
  | cons first before =>
      rw [under, if_neg (by simp [isHere]), if_neg (by simp [isRoot]),
        keyOf_eq_written absolute whole, keyOf_eq_written absolute named, if_neg (by simp),
        if_neg (by simp), written, written, ← ofList_join, ← ofList_join, ← ofList_join,
        join_append (List.cons_ne_nil _ _) more]
      refine String.toList_inj.mp ?_
      simp

-----------------------------------------------------------------------------------------
-- More names of a path
-----------------------------------------------------------------------------------------

section Paths

variable {path : Bytes} {location : List Bytes}

/-- Names put behind a path one by one are its last names, by induction on them. -/
theorem names_foldl_child (nonempty : path ≠ [])
    (named : ∀ name ∈ location, IsSegment slash dot name)
    : names (location.foldl child path) = names path ++ location := by
  induction location generalizing path with
  | nil => exact (List.append_nil _).symm
  | cons name location ih =>
      obtain ⟨isName, areNames⟩ := List.forall_mem_cons.mp named
      rw [List.foldl_cons, ih (child_ne_nil nonempty name) areNames, names_child nonempty isName,
        List.append_assoc, List.singleton_append]

/-- A path starts where it did when names are put behind it, by induction on them. -/
theorem isAbsolute_foldl_child (nonempty : path ≠ []) (location : List Bytes)
    : isAbsolute (location.foldl child path) = isAbsolute path := by
  induction location generalizing path with
  | nil => rfl
  | cons name location ih =>
      rw [List.foldl_cons, ih (child_ne_nil nonempty name), isAbsolute_child nonempty]

/-- The key of a path with names put behind it lies under the key of the path. -/
theorem key_foldl_child (nonempty : path ≠ [])
    (named : ∀ name ∈ location, IsSegment slash dot name) (more : location ≠ [])
    : key (location.foldl child path) = under (key path) (location.map display) := by
  have some : location.map Utf8.decodeLossy ≠ [] := mt List.map_eq_nil_iff.mp more
  have decoded : ∀ part ∈ location.map Utf8.decodeLossy, IsSegment '/' '.' part :=
    List.forall_mem_map.mpr fun name isName => isSegment_decodeLossy (named name isName)
  rw [key, names_foldl_child nonempty named, isAbsolute_foldl_child nonempty, List.map_append,
    keyOf_append _ (fun _ => isSegment_of_mem_names) decoded some, List.map_map]
  rfl

end Paths

end PatternAudit.Path
