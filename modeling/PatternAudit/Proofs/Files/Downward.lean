import PatternAudit.Proofs.Files.Leading

/-! Paths that lead downward from the working directory. What stands at the place that the names
of such a path spell, with no link on the way, is what the path opens, if it opens anything.
-/

namespace PatternAudit.Files

/-- A relative path without the segment that leads to a parent. -/
structure IsDownward (path : Bytes) : Prop where
  relative : Path.isAbsolute path = false
  noParent : [Path.dot, Path.dot] ∉ Path.names path

/-- A regular file stands at the place that the names of a path spell from the working directory.
Places know no links, so there is none on the way.
-/
def FileSystem.HoldsFile (files : FileSystem) (path : Bytes) : Prop :=
  ∃ content, files.root.at? (files.workingDirectory ++ Path.names path) = some (.file content)

-----------------------------------------------------------------------------------------
-- Names that count
-----------------------------------------------------------------------------------------

/-- A name that leads elsewhere: it is neither empty nor the single dot. -/
def leadsOn (name : Bytes) : Bool :=
  !(name.isEmpty || name == [Path.dot])

/-- The names of a path that lead elsewhere are its segments. -/
theorem filter_leadsOn_namesOf (path : Bytes)
    : (namesOf path).filter leadsOn = Path.names path := by
  have written : (writtenNames path).filter leadsOn = Path.names path := by
    rw [writtenNames, List.filter_filter, Path.names, Path.segments]
    refine List.filter_congr fun name _ => ?_
    cases empty : name.isEmpty <;> simp [leadsOn, empty]
  by_cases trailing : path.getLast? = some Path.slash
  · rw [namesOf_of_trailing trailing, List.filter_append, written]
    exact List.append_nil _
  · rw [namesOf_of_untrailing trailing, written]

/-- A name that does not lead elsewhere stays in a directory. -/
theorem move_of_not_leadsOn {name : Bytes} (stays : leadsOn name = false) (root : Node)
    (place : Location)
    : move root place name = .step place ∨ move root place name = .failed .notADirectory := by
  have idle : (name.isEmpty || name == [Path.dot]) = true :=
    (Bool.not_eq_eq_eq_not.mp stays).trans Bool.not_false
  unfold move
  cases root.at? place with
  | none => exact .inr rfl
  | some node =>
      cases node with
      | directory hindrance entries => exact .inl (if_pos idle)
      | file | special | link => exact .inr rfl

/-- A name on the way to a node that is no link leads to the next place, unless it is too long. -/
theorem move_of_at? {root node : Node} {place rest : Location} {name : Bytes}
    (found : root.at? (place ++ name :: rest) = some node)
    (notLink : ∀ target, node ≠ .link target) (leads : leadsOn name = true)
    (notParent : name ≠ [Path.dot, Path.dot])
    : move root place name = .step (place ++ [name])
      ∨ move root place name = .failed .nameTooLong := by
  have goes : (name.isEmpty || name == [Path.dot]) = false :=
    (Bool.not_eq_eq_eq_not.mp leads).trans Bool.not_true
  rw [Node.at?_append, Option.bind_eq_some_iff] at found
  obtain ⟨directory, here, below⟩ := found
  cases directory with
  | file | special | link => cases below
  | directory hindrance entries =>
      rw [Node.at?, Option.bind_eq_some_iff] at below
      obtain ⟨child, looked, reached⟩ := below
      -- A link has nothing below it, so it can only be the node itself.
      have childNotLink (target : Bytes) : child ≠ .link target := by
        rintro rfl
        cases rest with
        | nil => exact notLink target (Option.some.inj reached).symm
        | cons next rest => cases reached
      simp only [move, here, goes, beq_iff_eq, notParent, looked]
      by_cases long : nameLimit < name.length
      · simp [long]
      · cases child with
        | link target => exact absurd rfl (childNotLink target)
        | file | special | directory => simp [long]

-----------------------------------------------------------------------------------------
-- Descents
-----------------------------------------------------------------------------------------

/-- A descent to a node that is no link arrives there or fails, by induction on the names. -/
theorem descend_of_at? {root node : Node} {place : Location} {names : List Bytes}
    (found : root.at? (place ++ names.filter leadsOn) = some node)
    (notLink : ∀ target, node ≠ .link target) (noParent : [Path.dot, Path.dot] ∉ names)
    : descend root .target place names = .arrived (.existing (place ++ names.filter leadsOn))
      ∨ ∃ fault, descend root .target place names = .failed fault := by
  induction names generalizing place with
  | nil => simp [descend]
  | cons name names ih =>
      have notParent : name ≠ [Path.dot, Path.dot] := (List.ne_of_not_mem_cons noParent).symm
      have restNoParent := List.not_mem_of_not_mem_cons noParent
      rw [descend_cons (by decide)]
      cases leads : leadsOn name with
      | false =>
          rw [List.filter_cons_of_neg (by simp [leads])] at found ⊢
          rcases move_of_not_leadsOn leads root place with moved | moved
          · rw [moved]
            exact ih found restNoParent
          · exact .inr ⟨_, by rw [moved]⟩
      | true =>
          rw [List.filter_cons_of_pos leads] at found ⊢
          rcases move_of_at? found notLink leads notParent with moved | moved
          · rw [List.append_cons] at found
            rw [moved, List.append_cons place name (names.filter leadsOn)]
            exact ih found restNoParent
          · exact .inr ⟨_, by rw [moved]⟩

/-- A path that leads downward to a node that is no link leads there, if it leads anywhere. -/
theorem node_eq_of_at? {files : FileSystem} {path : Bytes} {node reached : Node}
    (downward : IsDownward path)
    (found : files.root.at? (files.workingDirectory ++ Path.names path) = some node)
    (notLink : ∀ target, node ≠ .link target) (leads : files.node .target path = .ok reached)
    : reached = node := by
  rw [← filter_leadsOn_namesOf] at found
  have noParent : [Path.dot, Path.dot] ∉ namesOf path := by
    intro member
    refine downward.noParent ?_
    rw [← filter_leadsOn_namesOf]
    exact List.mem_filter.mpr ⟨member, by decide⟩
  obtain ⟨location, resolved, here⟩ := FileSystem.node_eq_ok_iff.mp leads
  obtain ⟨_, follows⟩ := FileSystem.resolve_eq_ok_iff.mp resolved
  simp only [downward.relative, Bool.false_eq_true, if_false] at follows
  rw [resolveFrom] at follows
  rcases descend_of_at? found notLink noParent with arrives | ⟨fault, fails⟩
  · rw [arrives] at follows
    obtain rfl : files.workingDirectory ++ (namesOf path).filter leadsOn = location := by
      simpa using follows
    exact Option.some.inj (here.symm.trans found)
  · simp [fails] at follows

end PatternAudit.Files
