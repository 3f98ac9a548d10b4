import PatternAudit.Toml.Document

/-! No TOML table is given a key twice. What a table has it keeps while statements are carried out,
and what has a value, a header or a header as an array stays that, so a key that is given again is
found there, and the document is refused.
-/

namespace PatternAudit.Toml

-----------------------------------------------------------------------------------------
-- Tables keep what they have
-----------------------------------------------------------------------------------------

/-- The table that an item is; of an array of tables it is the last. -/
def Item.table? : Item → Option Entries
  | .value _ => none
  | .table _ entries => some entries
  | .tables _ last => some last

/-- What a key is once and for all. -/
inductive Kind where
  | value
  /-- A table with its own header. -/
  | header
  /-- An array of tables. -/
  | tables
  deriving DecidableEq

/-- The kind of an item, unless a header may still decide it. -/
def Item.kind? : Item → Option Kind
  | .value _ => some .value
  | .table origin _ => if origin = .header then some .header else none
  | .tables .. => some .tables

namespace Entries

/-- What is put under a key is found there, and other keys keep what they have. -/
theorem lookup_put (key other : String) (item : Item) (entries : Entries)
    : (entries.put key item).lookup other
      = if other = key then some item else entries.lookup other := by
  induction entries with
  | nil => grind [put]
  | cons entry entries ih =>
      obtain ⟨first, old⟩ := entry
      grind [put]

/-- A key of a kind. -/
def Settles (key : String) (kind : Kind) (entries : Entries) : Prop :=
  (entries.lookup key).bind Item.kind? = some kind

/-- A key of the kind of values has a value. -/
theorem Settles.value {key : String} {entries : Entries} (settles : entries.Settles key .value)
    : ∃ value, entries.lookup key = some (.value value) := by
  obtain ⟨item, found, isKind⟩ := Option.bind_eq_some_iff.mp settles
  cases item with
  | value given => exact ⟨given, found⟩
  | table origin => cases origin <;> cases isKind
  | tables => cases isKind

/-- What a change of entries keeps: the keys that are there, and the kinds of keys. -/
structure Keeps (entries changed : Entries) : Prop where
  keys : ∀ key, (entries.lookup key).isSome → (changed.lookup key).isSome
  kinds : ∀ key kind, entries.Settles key kind → changed.Settles key kind

/-- A key may be given another item of its kind. -/
theorem keeps_put {key : String} {entries : Entries} {item : Item}
    (same : ∀ kind, entries.Settles key kind → item.kind? = some kind)
    : entries.Keeps (entries.put key item) where
  keys := by
    intro other has
    rw [lookup_put]
    split
    · rfl
    · exact has
  kinds := by
    intro other kind settles
    rw [Settles, lookup_put]
    split
    next isKey => exact same kind (isKey ▸ settles)
    next => exact settles

/-- A key that is defined was not there, and has its value then. -/
theorem define_eq_some {key : String} {value : Value} {entries changed : Entries}
    (defined : entries.define key value = some changed)
    : entries.lookup key = none ∧ changed = entries ++ [(key, .value value)] := by
  unfold define at defined
  split at defined
  · cases defined
  · exact ⟨Option.not_isSome_iff_eq_none.mp ‹_›, (Option.some.inj defined).symm⟩

/-- A key that is defined has its value. -/
theorem lookup_of_define {key : String} {value : Value} {entries changed : Entries}
    (defined : entries.define key value = some changed)
    : changed.lookup key = some (.value value) := by
  obtain ⟨absent, rfl⟩ := define_eq_some defined
  simp only [List.lookup_append, absent, Option.none_or, List.lookup_cons_self]

/-- What is added at the end changes nothing that is there. -/
theorem keeps_append (entries more : Entries) : entries.Keeps (entries ++ more) where
  keys := by
    intro key has
    obtain ⟨item, found⟩ := Option.isSome_iff_exists.mp has
    simp [List.lookup_append, found]
  kinds := by
    intro key kind settles
    obtain ⟨item, found, isKind⟩ := Option.bind_eq_some_iff.mp settles
    simp [Settles, List.lookup_append, found, isKind]

/-- A definition under a dotted key gives its first name an item, of the same kind if it had one. -/
theorem defineDotted_cons_eq_some {key : String} {value : Value} {name : String}
    {names : List String} {entries changed : Entries}
    (defined : entries.defineDotted key value (name :: names) = some changed)
    : ∃ item : Item,
        (∀ kind, entries.Settles name kind → item.kind? = some kind)
        ∧ entries.put name item = changed := by
  rw [defineDotted] at defined
  cases found : entries.lookup name with
  | none =>
      simp only [found] at defined
      obtain ⟨more, _, made⟩ := Option.bind_eq_some_iff.mp defined
      exact ⟨_, by simp [Settles, found], Option.some.inj made⟩
  | some item =>
      cases item with
      | value given => simp [found] at defined
      | table | tables =>
          simp only [found] at defined
          split at defined
          · cases defined
          · obtain ⟨more, _, made⟩ := Option.bind_eq_some_iff.mp defined
            exact ⟨_, by simp [Settles, found, Item.kind?], Option.some.inj made⟩

/-- A definition under a dotted key keeps what is there. -/
theorem keeps_of_defineDotted {key : String} {value : Value} {names : List String}
    {entries changed : Entries} (defined : entries.defineDotted key value names = some changed)
    : entries.Keeps changed := by
  cases names with
  | nil =>
      obtain ⟨_, rfl⟩ := define_eq_some defined
      exact keeps_append _ _
  | cons name names =>
      obtain ⟨item, same, rfl⟩ := defineDotted_cons_eq_some defined
      exact keeps_put same

-----------------------------------------------------------------------------------------
-- Tables within tables
-----------------------------------------------------------------------------------------

/-- The table that names lead to. -/
def tableAt? : List String → Entries → Option Entries
  | [], entries => some entries
  | name :: names, entries => ((entries.lookup name).bind Item.table?).bind (tableAt? names)

/-- An empty table has no tables in it. -/
theorem tableAt?_nil (names : List String) : (tableAt? names []).getD [] = [] := by
  cases names <;> rfl

/-- A change within a table gives the first name that leads to it an item, of the same kind if it
had one.
-/
theorem within_cons_eq_some {change : Entries → Option Entries} {name : String}
    {names : List String} {entries changed : Entries}
    (done : entries.within change (name :: names) = some changed)
    : ∃ more item,
        within change names (((entries.lookup name).bind Item.table?).getD []) = some more
        ∧ item.table? = some more
        ∧ (∀ kind, entries.Settles name kind → item.kind? = some kind)
        ∧ entries.put name item = changed := by
  rw [within] at done
  cases found : entries.lookup name with
  | none =>
      simp only [found] at done
      obtain ⟨more, doneBelow, made⟩ := Option.bind_eq_some_iff.mp done
      exact ⟨more, _, doneBelow, rfl, by simp [Settles, found], Option.some.inj made⟩
  | some item =>
      cases item with
      | value given => simp [found] at done
      | table | tables =>
          simp only [found] at done
          obtain ⟨more, doneBelow, made⟩ := Option.bind_eq_some_iff.mp done
          exact ⟨more, _, doneBelow, rfl, by simp [Settles, found, Item.kind?],
            Option.some.inj made⟩

/-- A change within a table changes that table, by induction on the names that lead to it. A table
that is not there yet is changed from an empty one.
-/
theorem tableAt?_within {change : Entries → Option Entries} {names : List String}
    {entries changed : Entries} (done : entries.within change names = some changed)
    : ∃ table,
        change ((tableAt? names entries).getD []) = some table
        ∧ tableAt? names changed = some table := by
  induction names generalizing entries changed with
  | nil => exact ⟨changed, by simpa [within, tableAt?] using done, rfl⟩
  | cons name names ih =>
      obtain ⟨more, item, doneBelow, inner, _, rfl⟩ := within_cons_eq_some done
      obtain ⟨table, made, there⟩ := ih doneBelow
      refine ⟨table, ?_, by simp [tableAt?, lookup_put, inner, there]⟩
      rw [tableAt?]
      cases below : (entries.lookup name).bind Item.table? with
      | none => simpa [below, tableAt?_nil] using made
      | some inner => simpa [below] using made

/-- A change within a table keeps what is there, if the change does where no names lead. -/
theorem keeps_of_within {change : Entries → Option Entries} {names : List String}
    {entries changed : Entries} (done : entries.within change names = some changed)
    (keeps : ∀ changed, change entries = some changed → entries.Keeps changed)
    : entries.Keeps changed := by
  cases names with
  | nil => exact keeps changed (by simpa [within] using done)
  | cons name names =>
      obtain ⟨_, item, _, _, same, rfl⟩ := within_cons_eq_some done
      exact keeps_put same

/-- A header of a table is that of a table that has none yet, and keeps what is there. -/
theorem openTable_eq_some {key : String} {entries changed : Entries}
    (opened : entries.openTable key = some changed)
    : (entries.lookup key).bind Item.kind? = none
      ∧ changed.Settles key .header
      ∧ entries.Keeps changed := by
  unfold openTable at opened
  split at opened
  next found =>
    obtain rfl := Option.some.inj opened
    exact ⟨by simp [found], by simp [Settles, lookup_put, Item.kind?],
      keeps_put (by simp [Settles, found])⟩
  next found =>
    obtain rfl := Option.some.inj opened
    exact ⟨by simp [found, Item.kind?], by simp [Settles, lookup_put, Item.kind?],
      keeps_put (by simp [Settles, found, Item.kind?])⟩
  next => cases opened

/-- A header of the next table of an array is that of an array, if there is something already, and
keeps what is there.
-/
theorem openNext_eq_some {key : String} {entries changed : Entries}
    (opened : entries.openNext key = some changed)
    : (∀ kind, entries.Settles key kind → kind = .tables)
      ∧ changed.Settles key .tables
      ∧ entries.Keeps changed := by
  unfold openNext at opened
  split at opened
  next found =>
    obtain rfl := Option.some.inj opened
    exact ⟨by simp [Settles, found], by simp [Settles, lookup_put, Item.kind?],
      keeps_put (by simp [Settles, found])⟩
  next found =>
    obtain rfl := Option.some.inj opened
    exact ⟨by simp [Settles, found, Item.kind?, eq_comm],
      by simp [Settles, lookup_put, Item.kind?], keeps_put (by simp [Settles, found, Item.kind?])⟩
  next => cases opened

end Entries

-----------------------------------------------------------------------------------------
-- Documents that give a key twice
-----------------------------------------------------------------------------------------

section Runs

variable {state item : Type} {step : state → item → Option state}

/-- A run keeps what every step of it keeps. -/
theorem foldlM_keeps {holds : state → Prop} {items : List item} {start final : state}
    (keeps
      : ∀ item ∈ items, ∀ {before after},
          holds before → step before item = some after → holds after)
    (begins : holds start) (run : items.foldlM step start = some final)
    : holds final := by
  induction items generalizing start with
  | nil =>
      obtain rfl : start = final := by simpa using run
      exact begins
  | cons item items ih =>
      rw [List.foldlM_cons] at run
      obtain ⟨middle, first, rest⟩ := Option.bind_eq_some_iff.mp run
      exact ih (fun item member => keeps item (List.mem_cons_of_mem _ member))
        (keeps item List.mem_cons_self begins first) rest

/-- A run is refused if one step establishes what those after it keep and a later one refuses. -/
theorem foldlM_eq_none (ready holds : state → Prop) {before between after : List item}
    {first second : item} {start : state} (begins : ready start)
    (stays
      : ∀ item ∈ before, ∀ {earlier later},
          ready earlier → step earlier item = some later → ready later)
    (gives : ∀ {earlier later}, ready earlier → step earlier first = some later → holds later)
    (keeps
      : ∀ item ∈ between, ∀ {earlier later},
          holds earlier → step earlier item = some later → holds later)
    (refuses : ∀ {earlier}, holds earlier → step earlier second = none)
    : (before ++ first :: (between ++ second :: after)).foldlM step start = none := by
  rw [List.foldlM_append]
  cases runBefore : before.foldlM step start with
  | none => rfl
  | some reached =>
      have ready := foldlM_keeps stays begins runBefore
      change (first :: (between ++ second :: after)).foldlM step reached = none
      rw [List.foldlM_cons]
      cases given : step reached first with
      | none => rfl
      | some next =>
          change (between ++ second :: after).foldlM step next = none
          rw [List.foldlM_append]
          cases runBetween : between.foldlM step next with
          | none => rfl
          | some last =>
              have holds := foldlM_keeps keeps (gives ready given) runBetween
              change (second :: after).foldlM step last = none
              rw [List.foldlM_cons, refuses holds]
              rfl

end Runs

namespace Draft

variable {draft next : Draft} {key : String}

/-- A statement keeps what the outermost table has. -/
theorem keeps_of_statement {statement : Statement} (applied : draft.apply? statement = some next)
    : draft.entries.Keeps next.entries := by
  cases statement with
  | entry names key value =>
      obtain ⟨entries, done, made⟩ := Option.bind_eq_some_iff.mp applied
      obtain rfl := Option.some.inj made
      exact Entries.keeps_of_within done fun _ defined => Entries.keeps_of_defineDotted defined
  | table names key =>
      obtain ⟨entries, done, made⟩ := Option.bind_eq_some_iff.mp applied
      obtain rfl := Option.some.inj made
      exact Entries.keeps_of_within done fun _ opened => (Entries.openTable_eq_some opened).2.2
  | next names key =>
      obtain ⟨entries, done, made⟩ := Option.bind_eq_some_iff.mp applied
      obtain rfl := Option.some.inj made
      exact Entries.keeps_of_within done fun _ opened => (Entries.openNext_eq_some opened).2.2

/-- The table that is added to has a key. -/
def Holds (key : String) (draft : Draft) : Prop :=
  ∃ table, Entries.tableAt? draft.current draft.entries = some table ∧ (table.lookup key).isSome

/-- An entry changes the table that is added to. -/
theorem tableAt?_of_entry {names : List String} {value : Value}
    (applied : draft.apply? (.entry names key value) = some next)
    : next.current = draft.current
      ∧ ∃ table,
          Entries.defineDotted key value names
              ((Entries.tableAt? draft.current draft.entries).getD [])
            = some table
          ∧ Entries.tableAt? next.current next.entries = some table := by
  obtain ⟨entries, done, made⟩ := Option.bind_eq_some_iff.mp applied
  obtain rfl := Option.some.inj made
  exact ⟨rfl, Entries.tableAt?_within done⟩

/-- A key that is given is there. -/
theorem holds_of_entry {value : Value}
    (applied : draft.apply? (.entry [] key value) = some next)
    : next.Holds key := by
  obtain ⟨_, table, defined, there⟩ := tableAt?_of_entry applied
  exact ⟨table, there, by rw [Entries.lookup_of_define defined]; rfl⟩

/-- It stays there while entries are added. -/
theorem Holds.entry {names : List String} {other : String} {value : Value}
    (holds : draft.Holds key) (applied : draft.apply? (.entry names other value) = some next)
    : next.Holds key := by
  obtain ⟨table, there, has⟩ := holds
  obtain ⟨_, changed, defined, thereNow⟩ := tableAt?_of_entry applied
  rw [there] at defined
  exact ⟨changed, thereNow, (Entries.keeps_of_defineDotted defined).keys key has⟩

/-- It is not given again. -/
theorem Holds.refuses {value : Value} (holds : draft.Holds key)
    : draft.apply? (.entry [] key value) = none := by
  obtain ⟨table, there, has⟩ := holds
  cases applied : draft.apply? (.entry [] key value) with
  | none => rfl
  | some next =>
      obtain ⟨_, changed, defined, _⟩ := tableAt?_of_entry applied
      obtain ⟨absent, _⟩ := Entries.define_eq_some defined
      rw [there, Option.getD_some] at absent
      rw [absent] at has
      cases has

/-- A value that is given outside of all tables is there. -/
theorem settles_of_entry {value : Value} (outermost : draft.current = [])
    (applied : draft.apply? (.entry [] key value) = some next)
    : next.entries.Settles key .value := by
  obtain ⟨stays, table, defined, there⟩ := tableAt?_of_entry applied
  rw [stays, outermost] at there
  obtain rfl := Option.some.inj there
  rw [Entries.Settles, Entries.lookup_of_define defined]
  rfl

/-- A table that has its header outside of all tables is there. -/
theorem settles_of_table (applied : draft.apply? (.table [] key) = some next)
    : next.entries.Settles key .header := by
  obtain ⟨entries, done, made⟩ := Option.bind_eq_some_iff.mp applied
  obtain rfl := Option.some.inj made
  exact (Entries.openTable_eq_some done).2.1

/-- An array of tables that has its header outside of all tables is there. -/
theorem settles_of_next (applied : draft.apply? (.next [] key) = some next)
    : next.entries.Settles key .tables := by
  obtain ⟨entries, done, made⟩ := Option.bind_eq_some_iff.mp applied
  obtain rfl := Option.some.inj made
  exact (Entries.openNext_eq_some done).2.1

/-- A key of any kind gets no header of a table. -/
theorem refuses_table {kind : Kind} (settles : draft.entries.Settles key kind)
    : draft.apply? (.table [] key) = none := by
  cases applied : draft.apply? (.table [] key) with
  | none => rfl
  | some next =>
      obtain ⟨entries, done, _⟩ := Option.bind_eq_some_iff.mp applied
      obtain ⟨free, _⟩ := Entries.openTable_eq_some done
      cases free.symm.trans settles

/-- A key of another kind gets no header of an array of tables. -/
theorem refuses_next {kind : Kind} (settles : draft.entries.Settles key kind)
    (other : kind ≠ .tables)
    : draft.apply? (.next [] key) = none := by
  cases applied : draft.apply? (.next [] key) with
  | none => rfl
  | some next =>
      obtain ⟨entries, done, _⟩ := Option.bind_eq_some_iff.mp applied
      exact absurd ((Entries.openNext_eq_some done).1 kind settles) other

end Draft

/-- The names in a header. -/
def Statement.header? : Statement → Option (List String)
  | .entry .. => none
  | .table names key => some (names ++ [key])
  | .next names key => some (names ++ [key])

/-- Without a header, entries go on to be added to the same table. -/
theorem Draft.current_of_statement {draft next : Draft} {statement : Statement}
    (entry : statement.header? = none) (applied : draft.apply? statement = some next)
    : next.current = draft.current := by
  cases statement with
  | entry names key value => exact (tableAt?_of_entry applied).1
  | table | next => cases entry

/-- No change is made in a table under a key that has a value. -/
theorem Entries.within_of_value {change : Entries → Option Entries} {key : String}
    {names : List String} {entries : Entries} (has : entries.Settles key .value)
    : entries.within change (key :: names) = none := by
  obtain ⟨value, found⟩ := has.value
  rw [within, found]

/-- Where a key has a value, no header leads through it. -/
theorem Draft.refuses_header {draft : Draft} {statement : Statement} {key : String}
    {names : List String} (leads : statement.header? = some (key :: names))
    (has : draft.entries.Settles key .value)
    : draft.apply? statement = none := by
  have refused {change : String → Entries → Option Entries} {path : List String} {last : String}
      (header : path ++ [last] = key :: names)
      (refuses : change key draft.entries = none)
      : draft.entries.within (change last) path = none := by
    cases path with
    | nil =>
        obtain ⟨rfl, _⟩ := List.cons.inj header
        exact refuses
    | cons first path =>
        obtain ⟨rfl, _⟩ := List.cons.inj header
        exact Entries.within_of_value has
  obtain ⟨value, found⟩ := has.value
  cases statement with
  | entry => cases leads
  | table path last =>
      have closed : draft.entries.within (Entries.openTable last) path = none :=
        refused (Option.some.inj leads) (by simp [Entries.openTable, found])
      unfold Draft.apply?
      dsimp only
      rw [closed]
      rfl
  | next path last =>
      have closed : draft.entries.within (Entries.openNext last) path = none :=
        refused (Option.some.inj leads) (by simp [Entries.openNext, found])
      unfold Draft.apply?
      dsimp only
      rw [closed]
      rfl

/-- A document gives a key twice: in one table; as a value and in a header; or in two headers, of
which one is that of a table.
-/
inductive Repeats (key : String) : List Statement → Prop
  | entries (before between after : List Statement) (value again : Value)
    (sameTable : ∀ statement ∈ between, statement.header? = none)
    : Repeats key (before ++ .entry [] key value :: (between ++ .entry [] key again :: after))
  | header (before between after : List Statement) (value : Value) (header : Statement)
    (names : List String) (outermost : ∀ statement ∈ before, statement.header? = none)
    (leads : header.header? = some (key :: names))
    : Repeats key (before ++ .entry [] key value :: (between ++ header :: after))
  | table (before between after : List Statement) (header : Statement)
    (again : header = .table [] key ∨ header = .next [] key)
    : Repeats key (before ++ .table [] key :: (between ++ header :: after))
  | tables (before between after : List Statement)
    : Repeats key (before ++ .next [] key :: (between ++ .table [] key :: after))

/-- Statements between keep the kind of a key. -/
theorem Draft.settles_of_statement {key : String} {kind : Kind} {draft next : Draft}
    {statement : Statement} (settles : draft.entries.Settles key kind)
    (applied : draft.apply? statement = some next)
    : next.entries.Settles key kind :=
  (keeps_of_statement applied).kinds key kind settles

/-- A document that gives a key twice describes no table. -/
theorem ofStatements?_of_repeats {key : String} {statements : List Statement}
    (repeats : Repeats key statements)
    : ofStatements? statements = none := by
  have refused : statements.foldlM Draft.apply? {} = none := by
    cases repeats with
    | entries before between after value again sameTable =>
        refine foldlM_eq_none (fun _ => True) (Draft.Holds key) trivial
          (fun _ _ _ _ _ _ => trivial) (fun _ => Draft.holds_of_entry) ?_ Draft.Holds.refuses
        intro statement member earlier later holds applied
        have entry := sameTable statement member
        cases statement with
        | entry names other value => exact holds.entry applied
        | table | next => cases entry
    | header before between after value header names outermost leads =>
        refine foldlM_eq_none (fun draft => draft.current = [])
          (fun draft => draft.entries.Settles key .value) rfl ?_ Draft.settles_of_entry
          (fun _ _ _ _ => Draft.settles_of_statement) (Draft.refuses_header leads)
        intro statement member earlier later ready applied
        exact (Draft.current_of_statement (outermost statement member) applied).trans ready
    | table before between after header again =>
        refine foldlM_eq_none (fun _ => True) (fun draft => draft.entries.Settles key .header)
          trivial (fun _ _ _ _ _ _ => trivial) (fun _ => Draft.settles_of_table)
          (fun _ _ _ _ => Draft.settles_of_statement) fun settles => ?_
        rcases again with rfl | rfl
        · exact Draft.refuses_table settles
        · exact Draft.refuses_next settles (by decide)
    | tables before between after =>
        exact foldlM_eq_none (fun _ => True) (fun draft => draft.entries.Settles key .tables)
          trivial (fun _ _ _ _ _ _ => trivial) (fun _ => Draft.settles_of_next)
          (fun _ _ _ _ => Draft.settles_of_statement) Draft.refuses_table
  rw [ofStatements?, refused]
  rfl

/-- An inline table that gives a key twice is refused. -/
theorem inlineTable?_of_repeats {key : String} {value again : Value}
    (before between after : List (List String × String × Value))
    : Reader.inlineTable?
          (before ++ ([], key, value) :: (between ++ ([], key, again) :: after))
        = none := by
  unfold Reader.inlineTable?
  rw [foldlM_eq_none (fun _ => True) (fun entries => (entries.lookup key).isSome) trivial]
  · rfl
  · exact fun _ _ _ _ _ _ => trivial
  · intro earlier later _ defined
    rw [Entries.lookup_of_define defined]
    rfl
  · intro pair _ earlier later has defined
    exact (Entries.keeps_of_defineDotted defined).keys key has
  · intro earlier has
    exact if_pos has

end PatternAudit.Toml
