/-! Finite sets of path keys, kept as strictly ascending lists, so that equal sets are equal
values and are always shown in the same order. The order of strings is that of their code
points, which is also the order of their UTF-8 bytes.
-/

namespace PatternAudit

/-- A set of path keys in ascending order. -/
@[ext]
structure KeySet where
  toList : List String
  ascending : toList.Pairwise (· < ·) := by simp
  deriving DecidableEq

namespace KeySet

instance : Membership String KeySet where
  mem keys key := key ∈ keys.toList

instance (key : String) (keys : KeySet) : Decidable (key ∈ keys) :=
  inferInstanceAs (Decidable (key ∈ keys.toList))

theorem mem_def {key : String} {keys : KeySet} : key ∈ keys ↔ key ∈ keys.toList :=
  .rfl

/-- The set without members. -/
def empty : KeySet where
  toList := []

instance : EmptyCollection KeySet := ⟨empty⟩

instance : Inhabited KeySet := ⟨empty⟩

/-- Adds a string to an ascending list, in its place and once. -/
def insertSorted (key : String) : List String → List String
  | [] => [key]
  | head :: tail =>
    if key < head then key :: head :: tail
    else if key = head then head :: tail
    else head :: insertSorted key tail

theorem mem_insertSorted {key other : String} {list : List String}
    : other ∈ insertSorted key list ↔ other = key ∨ other ∈ list := by
  induction list with
  | nil => simp [insertSorted]
  | cons head tail ih =>
    unfold insertSorted
    split
    · simp
    · split
      · next h => subst h; simp
      · simp only [List.mem_cons, ih]
        grind

theorem insertSorted_ascending {key : String} {list : List String}
    (h : list.Pairwise (· < ·))
    : (insertSorted key list).Pairwise (· < ·) := by
  induction list with
  | nil => simp [insertSorted]
  | cons head tail ih =>
    have hHead := (List.pairwise_cons.mp h).1
    have hTail := (List.pairwise_cons.mp h).2
    unfold insertSorted
    split
    · next hLt =>
      refine List.pairwise_cons.mpr ⟨fun other hMem => ?_, h⟩
      rcases List.mem_cons.mp hMem with rfl | hMem
      · exact hLt
      · exact String.lt_trans hLt (hHead other hMem)
    · split
      · exact h
      · next hLt hNe =>
        have hGt : head < key :=
          Classical.byContradiction fun hNot =>
            hNe (String.le_antisymm (String.not_lt.mp hNot) (String.not_lt.mp hLt))
        refine List.pairwise_cons.mpr ⟨fun other hMem => ?_, ih hTail⟩
        rcases mem_insertSorted.mp hMem with rfl | hMem
        · exact hGt
        · exact hHead other hMem

/-- Adds a key. -/
def insert (keys : KeySet) (key : String) : KeySet where
  toList := insertSorted key keys.toList
  ascending := insertSorted_ascending keys.ascending

/-- The set of a list's members. -/
def ofList (list : List String) : KeySet :=
  list.foldl insert empty

/-- The members that satisfy a test. -/
def filter (test : String → Bool) (keys : KeySet) : KeySet where
  toList := keys.toList.filter test
  ascending := keys.ascending.filter _

/-- The members that are not in the other set. -/
def difference (keys other : KeySet) : KeySet :=
  keys.filter fun key => !other.toList.contains key

instance : SDiff KeySet := ⟨difference⟩

/-- The members that are also in the other set. -/
def inter (keys other : KeySet) : KeySet :=
  keys.filter fun key => other.toList.contains key

instance : Inter KeySet := ⟨inter⟩

/-- The members of either set. -/
def union (keys other : KeySet) : KeySet :=
  other.toList.foldl insert keys

instance : Union KeySet := ⟨union⟩

/-- No member at all. -/
def isEmpty (keys : KeySet) : Bool :=
  keys.toList.isEmpty

/-! Each operation, seen through membership. -/

@[simp]
theorem not_mem_empty {key : String} : ¬key ∈ empty := by
  simp [mem_def, empty]

@[simp]
theorem mem_insert {keys : KeySet} {key other : String}
    : other ∈ keys.insert key ↔ other = key ∨ other ∈ keys :=
  mem_insertSorted

theorem mem_foldl_insert {list : List String} {keys : KeySet} {key : String}
    : key ∈ list.foldl insert keys ↔ key ∈ keys ∨ key ∈ list := by
  induction list generalizing keys with
  | nil => simp
  | cons head tail ih => simp [ih]; grind

@[simp]
theorem mem_ofList {list : List String} {key : String} : key ∈ ofList list ↔ key ∈ list := by
  simp [ofList, mem_foldl_insert]

@[simp]
theorem mem_filter {test : String → Bool} {keys : KeySet} {key : String}
    : key ∈ keys.filter test ↔ key ∈ keys ∧ test key = true := by
  simp [mem_def, filter]

@[simp]
theorem contains_toList {keys : KeySet} {key : String}
    : keys.toList.contains key = true ↔ key ∈ keys := by
  simp [mem_def]

@[simp]
theorem mem_sdiff {keys other : KeySet} {key : String}
    : key ∈ keys \ other ↔ key ∈ keys ∧ ¬key ∈ other := by
  show key ∈ keys.filter _ ↔ _
  rw [mem_filter, Bool.not_eq_true', ← Bool.not_eq_true, contains_toList]

@[simp]
theorem mem_inter {keys other : KeySet} {key : String}
    : key ∈ keys ∩ other ↔ key ∈ keys ∧ key ∈ other := by
  show key ∈ keys.filter _ ↔ _
  rw [mem_filter, contains_toList]

@[simp]
theorem mem_union {keys other : KeySet} {key : String}
    : key ∈ keys ∪ other ↔ key ∈ keys ∨ key ∈ other := by
  show key ∈ other.toList.foldl insert keys ↔ _
  exact mem_foldl_insert

/-- A set shows each of its members once. -/
theorem nodup_toList (keys : KeySet) : keys.toList.Nodup :=
  keys.ascending.imp fun hlt => String.ne_of_lt hlt

/-- A set is as long as any list that shows each of its members once. -/
theorem length_toList_of_nodup {keys : KeySet} {list : List String} (nodup : list.Nodup)
    (same : ∀ key, key ∈ keys ↔ key ∈ list)
    : keys.toList.length = list.length :=
  ((List.perm_ext_iff_of_nodup keys.nodup_toList nodup).mpr same).length_eq

/-- A set is determined by its members, because an ascending list is. -/
theorem ext_mem {left right : KeySet} (h : ∀ key, key ∈ left ↔ key ∈ right) : left = right := by
  have hPerm : left.toList.Perm right.toList :=
    (List.perm_ext_iff_of_nodup left.nodup_toList right.nodup_toList).mpr h
  exact KeySet.ext <|
    hPerm.eq_of_pairwise (fun a b _ _ hab hba => absurd hba (String.lt_asymm hab))
      left.ascending right.ascending

theorem isEmpty_iff {keys : KeySet} : keys.isEmpty = true ↔ ∀ key, ¬key ∈ keys := by
  simp [isEmpty, mem_def, List.eq_nil_iff_forall_not_mem]

theorem isEmpty_iff_eq_empty {keys : KeySet} : keys.isEmpty = true ↔ keys = ∅ := by
  rw [isEmpty, List.isEmpty_iff]
  exact ⟨fun nothing => KeySet.ext nothing, fun same => same ▸ rfl⟩

end KeySet

end PatternAudit
