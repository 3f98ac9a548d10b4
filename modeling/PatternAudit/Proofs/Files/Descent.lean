import Mathlib.Tactic.SplitIfs
import PatternAudit.Files.Resolution

/-! Following names through a file tree. What one name leads to decides the whole descent, so a
path that leads to a directory can be followed further by the names in it.
-/

namespace PatternAudit.Files

-----------------------------------------------------------------------------------------
-- Single names
-----------------------------------------------------------------------------------------

/-- Places below places are found step by step. -/
theorem Node.at?_append (root : Node) (place names : Location)
    : root.at? (place ++ names) = (root.at? place).bind (·.at? names) := by
  induction place generalizing root with
  | nil => simp [at?]
  | cons name place ih =>
      cases root with
      | directory hindrance entries =>
          rw [List.cons_append, at?, at?]
          cases entries.lookup name with
          | none => rfl
          | some child => exact ih child
      | file | special | link => rfl

/-- What one name leads to from a place. -/
inductive Move where
  | step (place : Location)
  | link (target : Bytes)
  | absent
  | failed (fault : Fault)

/-- Follows one name from a place. -/
def move (root : Node) (place : Location) (name : Bytes) : Move :=
  match root.at? place with
  | some (.directory _ entries) =>
    if name.isEmpty || name == [Path.dot] then .step place
    else if name == [Path.dot, Path.dot] then .step place.dropLast
    else if nameLimit < name.length then .failed .nameTooLong
    else
      match entries.lookup name with
      | none => .absent
      | some (.link target) => .link target
      | some _ => .step (place ++ [name])
  | _ => .failed .notADirectory

/-- A descent that creates nothing makes one move for its first name. -/
theorem descend_cons {root : Node} {purpose : Purpose} (existing : purpose ≠ .creation)
    (place : Location) (name : Bytes) (names : List Bytes)
    : descend root purpose place (name :: names)
      = match move root place name with
        | .step next => descend root purpose next names
        | .link target =>
          if names.isEmpty ∧ purpose = .entry then .arrived (.existing (place ++ [name]))
          else .link place target names
        | .absent =>
          if names.isEmpty then .arrived (.absent (place ++ [name])) else .failed .notFound
        | .failed fault => .failed fault := by
  rw [descend, move]
  cases root.at? place with
  | none => rfl
  | some node =>
      cases node with
      | directory hindrance entries =>
          simp only [existing, false_and, if_false]
          -- The conditions of one name come first, those of the names after it once it is found.
          split
          · rfl
          · split
            · rfl
            · split
              · rfl
              · cases entries.lookup name with
                | none => rfl
                | some child => cases child <;> rfl
      | file | special | link => rfl

/-- An empty name stays in a directory. -/
theorem move_empty (root : Node) (place : Location)
    : move root place [] = .step place ∨ move root place [] = .failed .notADirectory := by
  unfold move
  cases root.at? place with
  | none => exact .inr rfl
  | some node =>
      cases node with
      | directory hindrance entries => exact .inl rfl
      | file | special | link => exact .inr rfl

/-- Where a move meets a link, a link stands. -/
theorem at?_of_move_link {root : Node} {place : Location} {name target : Bytes}
    (meets : move root place name = .link target)
    : root.at? (place ++ [name]) = some (.link target) := by
  rw [Node.at?_append]
  unfold move at meets
  cases found : root.at? place with
  | none => simp [found] at meets
  | some node =>
      cases node with
      | directory hindrance entries =>
          simp only [found] at meets
          split_ifs at meets
          cases looked : entries.lookup name with
          | none => simp [looked] at meets
          | some child =>
              cases child with
              | link other =>
                  obtain rfl : other = target := by simpa [looked] using meets
                  simp [Node.at?, looked]
              | file | special | directory => simp [looked] at meets
      | file | special | link => simp [found] at meets

-----------------------------------------------------------------------------------------
-- Descents
-----------------------------------------------------------------------------------------

/-- A descent that arrived can be taken further, by induction on its names. -/
theorem descend_append_of_arrived {root : Node} {place location : Location}
    {names : List Bytes} (more : List Bytes)
    (arrives : descend root .target place names = .arrived (.existing location))
    : descend root .target place (names ++ more) = descend root .target location more := by
  induction names generalizing place with
  | nil =>
      obtain rfl : place = location := by simpa [descend] using arrives
      rfl
  | cons name names ih =>
      rw [List.cons_append]
      rw [descend_cons (by decide)] at arrives ⊢
      cases moved : move root place name with
      | step next =>
          rw [moved] at arrives
          exact ih arrives
      | link target => simp [moved] at arrives
      | absent =>
          rw [moved] at arrives
          dsimp only at arrives
          split at arrives <;> simp at arrives
      | failed fault => simp [moved] at arrives

/-- More names wait behind a link, by induction on those before it. -/
theorem descend_append_of_link {root : Node} {place directory : Location} {target : Bytes}
    {names rest : List Bytes} (more : List Bytes)
    (meets : descend root .target place names = .link directory target rest)
    : descend root .target place (names ++ more) = .link directory target (rest ++ more) := by
  induction names generalizing place with
  | nil => simp [descend] at meets
  | cons name names ih =>
      rw [List.cons_append]
      rw [descend_cons (by decide)] at meets ⊢
      cases moved : move root place name with
      | step next =>
          rw [moved] at meets
          exact ih meets
      | link other =>
          obtain ⟨rfl, rfl, rfl⟩ : place = directory ∧ other = target ∧ names = rest := by
            simpa [moved] using meets
          simp
      | absent =>
          rw [moved] at meets
          dsimp only at meets
          split at meets <;> cases meets
      | failed fault => simp [moved] at meets

/-- A descent for an entry is one for its target, unless it stops at a link. -/
theorem descend_entry (root : Node) (place : Location) (names : List Bytes)
    : descend root .entry place names = descend root .target place names
      ∨ ∃ location target,
          descend root .entry place names = .arrived (.existing location)
          ∧ root.at? location = some (.link target) := by
  induction names generalizing place with
  | nil => exact .inl rfl
  | cons name names ih =>
      rw [descend_cons (by decide), descend_cons (by decide)]
      cases moved : move root place name with
      | step next => exact ih next
      | link target =>
          cases names with
          | nil => exact .inr ⟨place ++ [name], target, by simp, at?_of_move_link moved⟩
          | cons next names => exact .inl (by simp)
      | absent | failed => exact .inl rfl

/-- A descent that wants a directory at its end is one without that wish, unless it fails. -/
theorem descend_trailing (root : Node) (place : Location) (names : List Bytes)
    : (∃ location,
          descend root .target place (names ++ [[]]) = .arrived (.existing location)
          ∧ descend root .target place names = .arrived (.existing location))
      ∨ (∃ directory target rest,
          descend root .target place (names ++ [[]]) = .link directory target (rest ++ [[]])
          ∧ descend root .target place names = .link directory target rest)
      ∨ ∃ fault, descend root .target place (names ++ [[]]) = .failed fault := by
  induction names generalizing place with
  | nil =>
      rw [List.nil_append, descend_cons (by decide)]
      rcases move_empty root place with moved | moved
      · exact .inl ⟨place, by simp [moved, descend], rfl⟩
      · exact .inr (.inr ⟨.notADirectory, by simp [moved]⟩)
  | cons name names ih =>
      rw [List.cons_append, descend_cons (by decide), descend_cons (by decide)]
      cases moved : move root place name with
      | step next => exact ih next
      | link target => exact .inr (.inl ⟨place, target, names, by simp, by simp⟩)
      | absent => exact .inr (.inr ⟨.notFound, by simp⟩)
      | failed fault => exact .inr (.inr ⟨fault, rfl⟩)

end PatternAudit.Files
