import Mathlib.Data.List.Induction
import Mathlib.Data.List.Nodup
import TableStore.Catalog

/-!
# Tables and their names

The catalog keeps tables by identity and identities by name.  A table that is registered
takes the place of the one that has its name and of the one that has its identity, which
may be two, and their names go with them.  So at any time every name leads to a registered
table and every registered table has exactly one name, whatever was registered and taken
off before.
-/

set_option autoImplicit false

namespace TableStore.Catalog

inductive Call where
  | add (table : Table) (name : String)
  | remove (id : TableId)

def call (catalog : Catalog) : Call → Catalog
  | .add table name => catalog.add table name
  | .remove id => (catalog.remove id).2

def callAll (catalog : Catalog) (calls : List Call) : Catalog := calls.foldl call catalog

def lastAdded (id : TableId) (calls : List Call) : Option Table :=
  calls.foldl (fun last call =>
    match call with
    | .add table _ => if table.id = id then some table else last
    | .remove _ => last) none

variable {catalog : Catalog} {id : TableId} {name : String}

/-! ## The catalog after a call -/

theorem tables_add (catalog : Catalog) (table : Table) (name : String) (id : TableId) :
    (catalog.add table name).tables.get? id =
      if id = table.id then some table
      else if catalog.id? name = some id then none else catalog.tables.get? id := by
  unfold add
  dsimp only
  rw [SortedMap.get?_insert]
  split
  · rfl
  · cases found : catalog.names.get? name with
    | none =>
        have unnamed : catalog.id? name = none := found
        rw [unnamed, if_neg (Option.some_ne_none id).symm]
    | some old =>
        have named : catalog.id? name = some old := found
        dsimp only
        rw [named, SortedMap.get?_erase]
        by_cases here : id = old
        · rw [if_pos here, if_pos (congrArg some here.symm)]
        · rw [if_neg here, if_neg fun same => here (Option.some.inj same).symm]

theorem id?_add (catalog : Catalog) (table : Table) (name other : String) :
    (catalog.add table name).id? other =
      if other = name then some table.id
      else (catalog.id? other).filter (decide <| · ≠ table.id) := by
  rw [Catalog.id?, Catalog.add, SortedMap.get?_insert, SortedMap.get?_filter,
    SortedMap.get?_erase]
  split
  · rfl
  · rfl

theorem tables_remove (catalog : Catalog) (removed id : TableId) :
    (catalog.remove removed).2.tables.get? id =
      if id = removed then none else catalog.tables.get? id :=
  SortedMap.get?_erase catalog.tables removed id

theorem id?_remove (catalog : Catalog) (removed : TableId) (name : String) :
    (catalog.remove removed).2.id? name = (catalog.id? name).filter (decide <| · ≠ removed) :=
  SortedMap.get?_filter catalog.names _ name

theorem table_eq_ok_iff {table : Table} :
    catalog.table id = .ok table ↔ catalog.tables.get? id = some table := by
  rw [Catalog.table]
  cases catalog.tables.get? id <;> simp

/-! ## Names and tables go together -/

structure Paired (catalog : Catalog) : Prop where
  registered : ∀ name id, catalog.id? name = some id → ∃ table, catalog.tables.get? id = some table
  named : ∀ id table, catalog.tables.get? id = some table → ∃ name, catalog.id? name = some id
  apart : ∀ name other id, catalog.id? name = some id → catalog.id? other = some id → name = other

theorem paired_empty : ({} : Catalog).Paired :=
  ⟨fun _ _ => nofun, fun _ _ => nofun, fun _ _ _ => nofun⟩

theorem Paired.add (paired : catalog.Paired) (table : Table) (name : String) :
    (catalog.add table name).Paired := by
  -- a name other than the new one leads to a table other than the new one, as before
  have before {other : String} {id : TableId} (differs : other ≠ name)
      (leads : (catalog.add table name).id? other = some id) :
      catalog.id? other = some id ∧ id ≠ table.id := by
    rw [id?_add, if_neg differs, Option.filter_eq_some_iff] at leads
    exact ⟨leads.1, of_decide_eq_true leads.2⟩
  have own {id : TableId} (leads : (catalog.add table name).id? name = some id) :
      id = table.id := by
    rw [id?_add, if_pos rfl] at leads
    exact (Option.some.inj leads).symm
  constructor
  · intro other id leads
    rw [tables_add]
    by_cases same : other = name
    · subst same
      rw [if_pos (own leads)]
      exact ⟨table, rfl⟩
    · obtain ⟨known, differs⟩ := before same leads
      have unnamed : catalog.id? name ≠ some id := fun shared =>
        same (paired.apart _ _ id known shared)
      rw [if_neg differs, if_neg unnamed]
      exact paired.registered other id known
  · intro id other found
    rw [tables_add] at found
    split at found
    · next here =>
        refine ⟨name, ?_⟩
        rw [id?_add, if_pos rfl, here]
    · next differs =>
        split at found
        · cases found
        · next unnamed =>
            obtain ⟨old, known⟩ := paired.named id other found
            have apart : old ≠ name := by
              rintro rfl
              exact unnamed known
            refine ⟨old, ?_⟩
            rw [id?_add, if_neg apart, known, Option.filter_some, if_pos (decide_eq_true differs)]
  · intro first second id one two
    by_cases firstNew : first = name
    · by_cases secondNew : second = name
      · rw [firstNew, secondNew]
      · exact absurd (own (firstNew ▸ one)) (before secondNew two).2
    · by_cases secondNew : second = name
      · exact absurd (own (secondNew ▸ two)) (before firstNew one).2
      · exact paired.apart first second id (before firstNew one).1 (before secondNew two).1

theorem Paired.remove (paired : catalog.Paired) (removed : TableId) :
    (catalog.remove removed).2.Paired := by
  have before {name : String} {id : TableId}
      (leads : (catalog.remove removed).2.id? name = some id) :
      catalog.id? name = some id ∧ id ≠ removed := by
    rw [id?_remove, Option.filter_eq_some_iff] at leads
    exact ⟨leads.1, of_decide_eq_true leads.2⟩
  constructor
  · intro name id leads
    obtain ⟨known, differs⟩ := before leads
    rw [tables_remove, if_neg differs]
    exact paired.registered name id known
  · intro id table found
    rw [tables_remove] at found
    split at found
    · cases found
    · next differs =>
        obtain ⟨name, known⟩ := paired.named id table found
        refine ⟨name, ?_⟩
        rw [id?_remove, known, Option.filter_some, if_pos (decide_eq_true differs)]
  · intro first second id one two
    exact paired.apart first second id (before one).1 (before two).1

theorem Paired.callAll (paired : catalog.Paired) (calls : List Call) :
    (catalog.callAll calls).Paired := by
  induction calls generalizing catalog with
  | nil => exact paired
  | cons call calls ih =>
      cases call with
      | add table name => exact ih (paired.add table name)
      | remove id => exact ih (paired.remove id)

theorem Paired.name?_eq_some_iff (paired : catalog.Paired) :
    catalog.name? id = some name ↔ catalog.id? name = some id := by
  rw [name?, Option.map_eq_some_iff]
  constructor
  · rintro ⟨⟨own, other⟩, found, rfl⟩
    have same : other = id := by simpa using List.find?_some found
    exact same ▸ SortedMap.mem_entries_iff.mp (List.mem_of_find?_eq_some found)
  · intro leads
    have some : (catalog.names.entries.find? fun entry => decide (entry.2 = id)).isSome = true := by
      rw [List.find?_isSome]
      exact ⟨(name, id), SortedMap.mem_entries_iff.mpr leads, decide_eq_true rfl⟩
    obtain ⟨⟨own, other⟩, found⟩ := Option.isSome_iff_exists.mp some
    have same : other = id := by simpa using List.find?_some found
    have known : catalog.id? own = .some id :=
      same ▸ SortedMap.mem_entries_iff.mp (List.mem_of_find?_eq_some found)
    exact ⟨_, found, paired.apart own name id known leads⟩

theorem Paired.name?_isSome (paired : catalog.Paired) (listed : id ∈ catalog.ids) :
    (catalog.name? id).isSome = true := by
  obtain ⟨table, found⟩ := SortedMap.mem_keys_iff.mp listed
  obtain ⟨name, known⟩ := paired.named id table found
  rw [paired.name?_eq_some_iff.mpr known, Option.isSome_some]

/-! ## The table registered last -/

theorem lastAdded_snoc (id : TableId) (calls : List Call) (last : Call) :
    lastAdded id (calls ++ [last]) =
      match last with
      | .add table _ => if table.id = id then some table else lastAdded id calls
      | .remove _ => lastAdded id calls := by
  rw [lastAdded, List.foldl_append]
  rfl

theorem lastAdded_of_registered {calls : List Call} {table : Table}
    (found : (callAll {} calls).tables.get? id = some table) :
    table.id = id ∧ lastAdded id calls = some table := by
  induction calls using List.reverseRecOn with
  | nil => cases found
  | append_singleton calls last ih =>
      rw [callAll, List.foldl_append] at found
      rw [lastAdded_snoc]
      cases last with
      | add added name =>
          replace found := (tables_add (callAll {} calls) added name id).symm.trans found
          split at found
          · next here =>
              cases found
              exact ⟨here.symm, if_pos here.symm⟩
          · next differs =>
              split at found
              · cases found
              · exact ⟨(ih found).1, (if_neg (Ne.symm differs)).trans (ih found).2⟩
      | remove removed =>
          replace found := (tables_remove (callAll {} calls) removed id).symm.trans found
          split at found
          · cases found
          · exact ih found

/-! ## The correspondence -/

/-- Names and tables correspond one to one, and every table is the one registered last
under its identity. -/
structure Corresponds (catalog : Catalog) (calls : List Call) : Prop where
  registered : ∀ name id, catalog.id? name = some id → ∃ table, catalog.table id = .ok table
  named : ∀ id table, catalog.table id = .ok table →
    ∃ name, catalog.id? name = some id ∧ ∀ other, catalog.id? other = some id → other = name
  inverse : ∀ name id, catalog.id? name = some id ↔ catalog.name? id = some name
  /-- Each table has one of the listed names, and no name is listed that has no table. -/
  listed : catalog.listNames.Nodup ∧ catalog.listNames.length = catalog.ids.length ∧
    ∀ name, name ∈ catalog.listNames ↔ ∃ id, catalog.id? name = some id
  latest : ∀ id table, catalog.table id = .ok table →
    table.id = id ∧ lastAdded id calls = some table

structure Replaces (catalog : Catalog) (table : Table) (name : String) (after : Catalog) :
    Prop where
  leads : after.id? name = some table.id
  registered : after.table table.id = .ok table
  replaced : ∀ id, id ≠ table.id → catalog.id? name = some id →
    after.table id = .error (.noSuchTable id)
  others : ∀ id, id ≠ table.id → catalog.id? name ≠ some id →
    after.table id = catalog.table id ∧ after.name? id = catalog.name? id

theorem Paired.listed (paired : catalog.Paired) :
    catalog.listNames.Nodup ∧ catalog.listNames.length = catalog.ids.length ∧
      ∀ name, name ∈ catalog.listNames ↔ ∃ id, catalog.id? name = some id := by
  have order : catalog.listNames.Perm (catalog.ids.filterMap catalog.name?) :=
    List.mergeSort_perm _ _
  refine ⟨?_, ?_, ?_⟩
  · rw [order.nodup_iff]
    refine List.Nodup.filterMap ?_ catalog.tables.nodup_keys
    intro id other name one two
    have known := paired.name?_eq_some_iff.mp one
    exact Option.some.inj (known.symm.trans (paired.name?_eq_some_iff.mp two))
  · rw [order.length_eq, List.filterMap_length_eq_length]
    exact fun id listed => paired.name?_isSome listed
  · intro name
    rw [order.mem_iff, List.mem_filterMap]
    constructor
    · rintro ⟨id, -, known⟩
      exact ⟨id, paired.name?_eq_some_iff.mp known⟩
    · rintro ⟨id, leads⟩
      exact ⟨id, SortedMap.mem_keys_iff.mpr (paired.registered name id leads),
        paired.name?_eq_some_iff.mpr leads⟩

theorem Paired.corresponds {calls : List Call} (paired : (Catalog.callAll {} calls).Paired) :
    (Catalog.callAll {} calls).Corresponds calls where
  registered name id leads := by
    simp only [table_eq_ok_iff]
    exact paired.registered name id leads
  named id table found := by
    obtain ⟨name, leads⟩ := paired.named id table (table_eq_ok_iff.mp found)
    exact ⟨name, leads, fun other shared => paired.apart other name id shared leads⟩
  inverse name id := paired.name?_eq_some_iff.symm
  listed := paired.listed
  latest id table found := lastAdded_of_registered (table_eq_ok_iff.mp found)

theorem Paired.replaces (paired : catalog.Paired) (table : Table) (name : String) :
    Replaces catalog table name (catalog.add table name) where
  leads := by rw [id?_add, if_pos rfl]
  registered := by rw [table_eq_ok_iff, tables_add, if_pos rfl]
  replaced id differs leads := by
    rw [Catalog.table, tables_add, if_neg differs, if_pos leads]
  others id differs unnamed := by
    refine ⟨?_, ?_⟩
    · rw [Catalog.table, Catalog.table, tables_add, if_neg differs, if_neg unnamed]
    · apply Option.ext
      intro other
      rw [(paired.add table name).name?_eq_some_iff, paired.name?_eq_some_iff, id?_add]
      split
      · next same =>
          rw [same]
          exact ⟨fun own => absurd (Option.some.inj own).symm differs, fun own => absurd own unnamed⟩
      · rw [Option.filter_eq_some_iff]
        exact and_iff_left (decide_eq_true differs)

/-- Whatever was registered and taken off, names and tables correspond one to one, each
table is the one registered last under its identity, and one that is registered next takes
the place of those that have its name or its identity, and of no others. -/
theorem names_and_tables_correspond (calls : List Call) :
    let catalog := callAll {} calls
    catalog.Corresponds calls ∧
      ∀ table name, Replaces catalog table name (catalog.add table name) := by
  have paired := paired_empty.callAll calls
  exact ⟨paired.corresponds, fun table name => paired.replaces table name⟩

end TableStore.Catalog
