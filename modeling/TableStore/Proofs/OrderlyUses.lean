import TableStore.Proofs.Registrations
import TableStore.Proofs.TableEvictions

/-!
# Databases whose tables are kept apart

A database is used with care if no table is opened under an identity, with a file or under
a name of another one, tables are closed while no transaction is active, and single pages
are not flushed.  Then its store stays sound, every page can leave the cache and come
back, and what a rollback would take back has an owner.
-/

set_option autoImplicit false

namespace TableStore

namespace Table

variable {table : Table} {disk : Disk}

/-- A file that is opened is there afterwards, with the bytes that it had. -/
theorem pages_touched (file : String) :
    table.pages (disk.insert file ((disk.get? file).getD ∅)) = table.pages disk := by
  rw [pages, pages, SortedMap.get?_insert]
  split
  · next here => rw [here, Option.getD_some]
  · rfl

theorem readPage_touched (file : String) (id : PageId) :
    table.readPage (disk.insert file ((disk.get? file).getD ∅)) id = table.readPage disk id := by
  rw [readPage, readPage, pageCount, pageCount, pages_touched]

theorem wholePages_touched (file : String) :
    table.wholePages (disk.insert file ((disk.get? file).getD ∅)) = table.wholePages disk := by
  rw [wholePages, wholePages, pages_touched]

end Table

namespace Store

variable {store after : Store} {id : PageId} {table : TableId} {handles : List Handle}

theorem stored_of_table
    (tables : after.catalog.tables.get? id.table = store.catalog.tables.get? id.table)
    (read : ∀ own : Table, own.readPage after.disk id = own.readPage store.disk id) :
    after.stored id = store.stored id := by
  apply stored_congr
  cases found : store.catalog.tables.get? id.table with
  | none => rw [readPage_of_unregistered found, readPage_of_unregistered (tables.trans found)]
  | some own =>
      rw [readPage_of_table found, readPage_of_table (tables.trans found)]
      exact read own

/-! ## A table is taken off the catalog -/

theorem tables_unregister (store : Store) (table other : TableId) :
    (store.unregister table).2.catalog.tables.get? other =
      if other = table then none else store.catalog.tables.get? other :=
  Catalog.tables_remove store.catalog table other

theorem id?_unregister (store : Store) (table : TableId) (name : String) :
    (store.unregister table).2.catalog.id? name =
      (store.catalog.id? name).filter (decide <| · ≠ table) :=
  Catalog.id?_remove store.catalog table name

theorem pageState_unregister (other : id.table ≠ table) :
    (store.unregister table).2.pageState id = store.pageState id := by
  have tables := tables_unregister store table id.table
  rw [if_neg other] at tables
  have same : (store.unregister table).2.stored id = store.stored id :=
    stored_of_table tables fun _ => rfl
  rw [pageState, pageState, same]
  rfl

section

variable (empties : Empties store after table)

include empties

theorem Empties.cached (id : PageId) (cached : after.cached? id ≠ none) : id.table ≠ table := by
  intro own
  exact cached (cached?_of_missing (empties.own id own).1)

theorem Empties.pageState (id : PageId) :
    (after.unregister table).2.pageState id = after.pageState id ∨
      ((after.unregister table).2.pageState id).cached = none := by
  by_cases own : id.table = table
  · exact .inr (copy_of_uncached (cached?_of_missing (empties.own id own).1))
  · exact .inl (pageState_unregister own)

/-- The store stays sound without a table that has no page in the cache. -/
theorem Empties.unregistered (addressable : store.Addressable) :
    (after.unregister table).2.Sound ∧ (after.unregister table).2.Addressable ∧
      (after.unregister table).2.Backed ∧ (after.unregister table).2.outline.Owned := by
  have known (other : TableId) (own : Table)
      (found : (after.unregister table).2.catalog.tables.get? other = some own) :
      after.catalog.tables.get? other = some own := by
    rw [tables_unregister] at found
    split at found
    · cases found
    · exact found
  have numbered : after.Addressable := empties.toContinues.addressable addressable
  refine ⟨⟨⟨?_, ?_⟩, empties.sound.locks, ?_⟩, ?_, ?_, ?_⟩
  · intro other own found
    exact empties.sound.catalog.identity other own (known other own found)
  · intro a b s t first second
    exact empties.sound.catalog.files a b s t (known a s first) (known b t second)
  · intro id page cached
    have here : after.cached? id = some page := cached
    have other : id.table ≠ table :=
      empties.cached id (by rw [here]; exact Option.some_ne_none page)
    obtain ⟨⟨own, found, fits⟩, -⟩ := empties.sound.page id page here
    obtain ⟨contents, stored⟩ := empties.sound.filed numbered here
    refine ⟨⟨own, ?_, fits⟩, .inl ⟨contents, ?_⟩⟩
    · rw [tables_unregister, if_neg other]
      exact found
    · exact (congrArg PageState.stored (pageState_unregister other)).trans stored
  · intro other own found
    exact numbered other own (known other own found)
  · intro id
    rcases empties.pageState id with same | absent
    · rw [same]
      exact empties.backed id
    · exact PageState.backed_of_absent absent
  · apply Resolved.owned
    intro id copy cached
    rcases empties.pageState id with same | absent
    · exact empties.resolved id copy (same ▸ cached)
    · cases absent.symm.trans cached

end

end Store

namespace Usage

variable (usage : Usage)

/-! ## Use with care -/

/-- No transaction is active: none is in an operation, and none holds a page. -/
def Quiet : Prop :=
  (∀ txn, usage.pending.get? txn = none) ∧ ∀ txn id, usage.store.locks.mode? txn id = none

/-- No table has the identity, the file or the name, and the pages of the file can be
numbered. -/
structure Unused (file : String) (id : TableId) (name : String) : Prop where
  unnamed : usage.store.catalog.id? name = none
  unregistered : usage.store.catalog.tables.get? id = none
  apart : ∀ other table, usage.store.catalog.tables.get? other = some table → table.file ≠ file
  addressable : ((usage.store.disk.get? file).getD ∅).length /
    usage.database.settings.pageSize < 2 ^ 32

/-- An errand keeps the tables apart. -/
def Careful : Errand → Prop
  | .openTable file id _ name => '/' ∈ file.toList ∨ usage.Unused file id name
  | .closeTable _ => usage.Quiet
  | .begin => True
  | .act action => action.flushes = false ∧ System.Numbered usage.system action

def AllCareful : Usage → List Errand → Prop
  | _, [] => True
  | usage, errand :: errands => usage.Careful errand ∧ AllCareful (usage.perform errand) errands

instance : Decidable usage.Quiet :=
  decidable_of_iff
    (usage.pending.keys = [] ∧
      ∀ entry ∈ usage.store.locks.locks.entries, entry.2.holders = []) <| by
    refine and_congr ?_ ?_
    · rw [List.eq_nil_iff_forall_not_mem]
      refine forall_congr' fun txn => ?_
      rw [SortedMap.mem_keys_iff_contains, SortedMap.contains, Bool.not_eq_true,
        Option.isSome_eq_false_iff, Option.isNone_iff_eq_none]
    · constructor
      · intro nobody txn id
        cases found : usage.store.locks.locks.get? id with
        | none => simp [LockTable.mode?, found]
        | some lock =>
            have free := nobody (id, lock) (SortedMap.mem_entries_iff.mpr found)
            simp [LockTable.mode?, found, Lock.modeOf?, free]
      · rintro nobody ⟨id, lock⟩ listed
        have found := SortedMap.mem_entries_iff.mp listed
        rw [List.eq_nil_iff_forall_not_mem]
        intro txn holds
        have free := nobody txn id
        simp [LockTable.mode?, found, Lock.modeOf?, holds] at free

instance (file : String) (id : TableId) (name : String) : Decidable (usage.Unused file id name) :=
  decidable_of_iff
    ((usage.store.catalog.id? name).isNone ∧ (usage.store.catalog.tables.get? id).isNone ∧
      (∀ entry ∈ usage.store.catalog.tables.entries, entry.2.file ≠ file) ∧
      ((usage.store.disk.get? file).getD ∅).length /
        usage.database.settings.pageSize < 2 ^ 32) <| by
    rw [Option.isNone_iff_eq_none, Option.isNone_iff_eq_none]
    constructor
    · rintro ⟨unnamed, unregistered, apart, addressable⟩
      refine ⟨unnamed, unregistered, fun other table found => ?_, addressable⟩
      exact apart (other, table) (SortedMap.mem_entries_iff.mpr found)
    · rintro ⟨unnamed, unregistered, apart, addressable⟩
      refine ⟨unnamed, unregistered, fun entry listed => ?_, addressable⟩
      exact apart entry.1 entry.2 (SortedMap.mem_entries_iff.mp listed)

instance : (errand : Errand) → Decidable (usage.Careful errand)
  | .openTable .. => inferInstanceAs (Decidable (_ ∨ _))
  | .closeTable _ => inferInstanceAs (Decidable usage.Quiet)
  | .begin => .isTrue trivial
  | .act _ => inferInstanceAs (Decidable (_ ∧ _))

instance AllCareful.decidable :
    (usage : Usage) → (errands : List Errand) → Decidable (AllCareful usage errands)
  | _, [] => .isTrue trivial
  | usage, errand :: errands =>
      have := decidable (usage.perform errand) errands
      inferInstanceAs (Decidable (_ ∧ _))

/-- What holds of every database that is used with care. -/
structure Orderly : Prop where
  system : usage.system.Sound
  addressable : usage.store.Addressable
  backed : usage.store.Backed
  owned : usage.store.outline.Owned
  accounted : usage.store.Accounted usage.handles
  spacious : 0 < usage.store.capacity
  consistent : usage.Consistent
  named : ∀ name id, usage.store.catalog.id? name = some id →
    ∃ table, usage.store.catalog.tables.get? id = some table
  plain : ∀ id table, usage.store.catalog.tables.get? id = some table → '/' ∉ table.file.toList

variable {usage} {file name : String} {id : TableId} {table : Table}

theorem Orderly.sound (orderly : usage.Orderly) : usage.store.Sound := orderly.system.store

theorem Orderly.resolved (orderly : usage.Orderly) (quiet : usage.Quiet) :
    usage.store.Resolved :=
  Store.resolved_of_owned orderly.owned quiet.2

/-! ## A table is opened -/

section

variable (unused : usage.Unused table.file table.id name)

include unused

theorem tables_opened (id : TableId) : (usage.opened table name).store.catalog.tables.get? id =
    if id = table.id then some table else usage.store.catalog.tables.get? id := by
  refine (Catalog.tables_add usage.store.catalog table name id).trans ?_
  rw [unused.unnamed]
  exact if_congr Iff.rfl rfl (if_neg nofun)

theorem tables_opened_of_some {id : TableId} {other : Table}
    (found : usage.store.catalog.tables.get? id = some other) :
    (usage.opened table name).store.catalog.tables.get? id = some other := by
  rw [tables_opened unused, if_neg]
  · exact found
  · rintro rfl
    cases unused.unregistered.symm.trans found

theorem pageState_opened {id : PageId} (other : id.table ≠ table.id) :
    (usage.opened table name).store.pageState id = usage.store.pageState id := by
  have tables := tables_opened unused id.table
  rw [if_neg other] at tables
  have same : (usage.opened table name).store.stored id = usage.store.stored id :=
    Store.stored_of_table tables fun _ => Table.readPage_touched table.file id
  rw [Store.pageState, Store.pageState, same]
  rfl

theorem Orderly.pageState_opened (orderly : usage.Orderly) (id : PageId) :
    (usage.opened table name).store.pageState id = usage.store.pageState id ∨
      ((usage.opened table name).store.pageState id).cached = none := by
  by_cases own : id.table = table.id
  · right
    apply Store.copy_of_uncached
    cases cached : usage.store.cached? id with
    | none => exact cached
    | some page =>
        obtain ⟨⟨other, found, -⟩, -⟩ := orderly.sound.page id page cached
        rw [own, unused.unregistered] at found
        cases found
  · exact .inl (Usage.pageState_opened unused own)

theorem Orderly.addressable_opened (orderly : usage.Orderly)
    (size : table.pageSize = usage.database.settings.pageSize) :
    (usage.opened table name).store.Addressable := by
  intro id other found
  have counted : other.wholePages (usage.opened table name).store.disk =
      other.wholePages usage.store.disk := Table.wholePages_touched table.file
  rw [counted]
  rw [tables_opened unused] at found
  split at found
  · cases found
    have inside := unused.addressable
    rw [← size] at inside
    exact inside
  · exact orderly.addressable id other found

theorem Orderly.sound_opened (orderly : usage.Orderly) :
    (usage.opened table name).store.Sound := by
  have sound := orderly.sound
  refine ⟨⟨?_, ?_⟩, sound.locks, ?_⟩
  · intro id other found
    rw [tables_opened unused] at found
    split at found
    · next here =>
        cases found
        exact here.symm
    · exact sound.catalog.identity id other found
  · intro a b s t first second same
    rw [tables_opened unused] at first second
    split at first
    · next here =>
        cases first
        split at second
        · next again => exact here.trans again.symm
        · exact absurd same.symm (unused.apart b t second)
    · split at second
      · cases second
        exact absurd same (unused.apart a s first)
      · exact sound.catalog.files a b s t first second same
  · intro id page cached
    obtain ⟨⟨own, found, fits⟩, -⟩ := sound.page id page cached
    obtain ⟨contents, stored⟩ := sound.filed orderly.addressable cached
    refine ⟨⟨own, tables_opened_of_some unused found, fits⟩, .inl ⟨contents, ?_⟩⟩
    have other : id.table ≠ table.id := by
      intro same
      rw [same, unused.unregistered] at found
      cases found
    exact (congrArg PageState.stored (Usage.pageState_opened unused other)).trans stored

theorem Orderly.opened (orderly : usage.Orderly)
    (size : table.pageSize = usage.database.settings.pageSize)
    (plain : '/' ∉ table.file.toList) : (usage.opened table name).Orderly where
  system := by
    refine ⟨orderly.sound_opened unused, fun txn operation found => ?_⟩
    exact (orderly.system.ready txn operation found).of_tables
      (fun _ _ known => tables_opened_of_some unused known) fun _ => rfl
  addressable := orderly.addressable_opened unused size
  backed id := by
    rcases orderly.pageState_opened unused id with same | absent
    · rw [same]
      exact orderly.backed id
    · exact PageState.backed_of_absent absent
  owned id := by
    rcases orderly.pageState_opened unused id with same | absent
    · have before := orderly.owned id
      rw [show usage.store.outline.page id = _ from same.symm] at before
      exact before
    · apply PageState.owned_of_resolved
      intro copy cached
      cases absent.symm.trans cached
  accounted := orderly.accounted.around _ _ _
  spacious := orderly.spacious
  consistent := orderly.consistent.opened name size
  named other id found := by
    have known := (Catalog.id?_add usage.store.catalog table name other).symm.trans found
    split at known
    · cases known
      exact ⟨table, (tables_opened unused table.id).trans (if_pos rfl)⟩
    · obtain ⟨own, registered⟩ := orderly.named other id (Option.filter_eq_some_iff.mp known).1
      exact ⟨own, tables_opened_of_some unused registered⟩
  plain id other found := by
    rw [tables_opened unused] at found
    split at found
    · cases found
      exact plain
    · exact orderly.plain id other found

end

/-! ## A table is closed -/

def evicted (usage : Usage) (id : TableId) : Usage :=
  { usage with database := { usage.database with store := (usage.store.evictTable id).2 } }

def closed (usage : Usage) (id : TableId) : Usage :=
  { usage with database := { usage.database with
    store := ((usage.store.evictTable id).2.unregister id).2 } }

/-- What comes of closing a table while no transaction is active: there is none of the
name; or it leaves the cache and the catalog; or a stuck page of it is in the way. -/
theorem Orderly.closeTable_cases (orderly : usage.Orderly) (quiet : usage.Quiet)
    (name : String) :
    (usage.store.catalog.id? name = none ∧
      (usage.database.closeTable name).1 = .error (.noSuchName name) ∧
      usage.perform (.closeTable name) = usage) ∨
    ∃ id table, usage.store.catalog.id? name = some id ∧
      usage.store.catalog.tables.get? id = some table ∧
      ((Store.Empties usage.store (usage.evicted id).store id ∧
        (usage.database.closeTable name).1 = .ok () ∧
        usage.perform (.closeTable name) = usage.closed id) ∨
      ∃ page fault, page.table = id ∧ usage.store.stuck page = true ∧
        usage.store.unwritable.get? page = some fault ∧
        Store.Flushes usage.store (usage.evicted id).store (usage.store.pagesOfTable id) ∧
        (usage.database.closeTable name).1 = .error (.flushing name (.io (.other fault))) ∧
        usage.perform (.closeTable name) = usage.evicted id) := by
  rw [perform]
  unfold Database.closeTable
  cases named : usage.store.catalog.id? name with
  | none => exact .inl ⟨rfl, rfl, rfl⟩
  | some id =>
      obtain ⟨table, registered⟩ := orderly.named name id named
      refine .inr ⟨id, table, rfl, registered, ?_⟩
      have result := (orderly.resolved quiet).evictTable orderly.sound orderly.addressable
        orderly.backed orderly.accounted id
      rcases run : usage.store.evictTable id with ⟨answer, after⟩
      simp only [evicted, closed, run] at result ⊢
      rcases result with ⟨done, empties⟩ | ⟨page, fault, own, stuck, refused, failed, flushes⟩
      · obtain rfl : answer = .ok () := done
        exact .inl ⟨empties, rfl, rfl⟩
      · obtain rfl : answer = .error _ := failed
        exact .inr ⟨page, fault, own, stuck, refused, flushes, rfl, rfl⟩

theorem Orderly.accounted_evicted (orderly : usage.Orderly) (id : TableId) :
    (usage.evicted id).store.Accounted usage.handles ∧
      (usage.evicted id).store.capacity = usage.store.capacity := by
  have steps := orderly.sound.fitting.evictTable id usage.handles
  exact ⟨(orderly.accounted.steps orderly.sound.fitting steps).2,
    (Store.CacheSteps.lasts steps).capacity⟩

theorem tables_closed (empties : Store.Empties usage.store (usage.evicted id).store id)
    (other : TableId) : (usage.closed id).store.catalog.tables.get? other =
      if other = id then none else usage.store.catalog.tables.get? other := by
  rw [← empties.catalog]
  exact Store.tables_unregister (usage.evicted id).store id other

theorem tables_of_closed (empties : Store.Empties usage.store (usage.evicted id).store id)
    {other : TableId} (found : (usage.closed id).store.catalog.tables.get? other = some table) :
    other ≠ id ∧ usage.store.catalog.tables.get? other = some table := by
  rw [tables_closed empties] at found
  split at found
  · cases found
  · next different => exact ⟨different, found⟩

theorem id?_closed (empties : Store.Empties usage.store (usage.evicted id).store id)
    (name : String) : (usage.closed id).store.catalog.id? name =
      (usage.store.catalog.id? name).filter (decide <| · ≠ id) := by
  rw [← empties.catalog]
  exact Store.id?_unregister (usage.evicted id).store id name

theorem Orderly.closeTable (orderly : usage.Orderly) (quiet : usage.Quiet) (name : String) :
    (usage.perform (.closeTable name)).Orderly := by
  have consistent := orderly.consistent.perform (.closeTable name)
  have idle {after : Store} (sound : after.Sound) :
      (⟨after, usage.pending, usage.handles, usage.history⟩ : System).Sound := by
    refine ⟨sound, fun txn operation found => ?_⟩
    cases (quiet.1 txn).symm.trans found
  rcases orderly.closeTable_cases quiet name with
    ⟨-, -, same⟩ | ⟨id, table, named, registered, ⟨empties, -, same⟩ |
      ⟨page, fault, -, -, -, flushes, -, same⟩⟩
  · rw [same]
    exact orderly
  · obtain ⟨accounted, capacity⟩ := orderly.accounted_evicted id
    obtain ⟨sound, addressable, backed, owned⟩ := empties.unregistered orderly.addressable
    rw [same] at consistent ⊢
    refine ⟨idle sound, addressable, backed, owned, accounted.around _ _ _, capacity ▸ orderly.spacious,
      consistent, ?_, fun other own found =>
        orderly.plain other own (tables_of_closed empties found).2⟩
    intro other kept found
    rw [id?_closed empties] at found
    obtain ⟨before, different⟩ := Option.filter_eq_some_iff.mp found
    obtain ⟨own, there⟩ := orderly.named other kept before
    refine ⟨own, ?_⟩
    rw [tables_closed empties, if_neg (of_decide_eq_true different)]
    exact there
  · obtain ⟨accounted, capacity⟩ := orderly.accounted_evicted id
    rw [same] at consistent ⊢
    refine ⟨idle flushes.sound, flushes.addressable orderly.addressable, flushes.backed,
      flushes.resolved.owned, accounted, capacity ▸ orderly.spacious, consistent, ?_, ?_⟩
    · rw [flushes.catalog]
      exact orderly.named
    · rw [flushes.catalog]
      exact orderly.plain

/-! ## Transactions act -/

theorem Orderly.act (orderly : usage.Orderly) {action : Action}
    (unflushed : action.flushes = false) (numbered : System.Numbered usage.system action) :
    (usage.act action).Orderly := by
  have follows := orderly.system.perform (System.Permits.any usage.system action)
  have catalog : (usage.act action).store.catalog = usage.store.catalog := follows.catalog
  refine ⟨follows.sound, numbered,
    orderly.system.backed_perform orderly.backed orderly.addressable unflushed numbered,
    Outline.Owned.path orderly.owned follows.path, ?_, ?_, orderly.consistent.act action, ?_, ?_⟩
  -- The cache goes through steps of its own, unless the faults of the disk are changed.
  · rcases System.perform_cases orderly.system.store.fitting action with
      steps | ⟨unwritable, same⟩
    · exact (orderly.accounted.steps orderly.system.store.fitting steps).2
    · have kept : (usage.system.perform action).cache.1.Accounted
          (usage.system.perform action).cache.2 := by
        rw [same]
        exact orderly.accounted.around _ _ _
      exact kept
  · rw [show (usage.act action).store.capacity = usage.store.capacity from
      (System.perform_lasts orderly.system.store.fitting action).capacity]
    exact orderly.spacious
  · rw [catalog]
    exact orderly.named
  · rw [catalog]
    exact orderly.plain

/-! ## All errands -/

theorem Orderly.perform (orderly : usage.Orderly) {errand : Errand}
    (careful : usage.Careful errand) : (usage.perform errand).Orderly := by
  cases errand with
  | openTable file id schema name =>
      rcases openTable_cases usage file id schema name with ⟨-, same⟩ | ⟨plain, same⟩
      · rw [same]
        exact orderly
      · rw [same]
        exact orderly.opened (careful.resolve_left plain) rfl plain
  | closeTable name => exact orderly.closeTable careful name
  | begin =>
      exact ⟨orderly.system, orderly.addressable, orderly.backed, orderly.owned, orderly.accounted, orderly.spacious,
        orderly.consistent.perform .begin, orderly.named, orderly.plain⟩
  | act action => exact orderly.act careful.1 careful.2

theorem Orderly.run (orderly : usage.Orderly) {errands : List Errand}
    (careful : usage.AllCareful errands) : (usage.run errands).Orderly := by
  induction errands generalizing usage with
  | nil => exact orderly
  | cons errand errands ih =>
      obtain ⟨here, later⟩ := careful
      exact ih (orderly.perform here) later

theorem orderly_start {settings : Settings} (valid : settings.validate = .ok ()) (disk : Disk) :
    (start settings disk).Orderly := by
  have fresh : System.Fresh (start settings disk).system := by
    refine ⟨⟨⟨⟨nofun, nofun⟩, rfl, rfl, rfl, ?_⟩, nofun⟩, rfl, rfl, rfl⟩
    intro queue known
    exact (EvictionPolicy.leastRecent.inj known).symm
  have spacious : 0 < settings.poolPages := by
    unfold Settings.validate Settings.fault? at valid
    split at valid
    · cases valid
    · next sound =>
        split at sound
        · cases sound
        · split at sound
          · cases sound
          · next some => exact Nat.pos_of_ne_zero some
  refine ⟨fresh.unused.sound, fresh.store.addressable, fresh.backed, ?_, ?_, spacious, consistent_start settings disk, nofun,
    nofun⟩
  · intro id
    apply PageState.owned_of_resolved
    intro copy cached
    cases (Store.copy_of_uncached (fresh.store.uncached id)).symm.trans cached
  · exact Store.accounted_new disk {} settings.poolPages

end Usage

end TableStore
