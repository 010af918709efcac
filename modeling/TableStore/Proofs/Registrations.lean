import Mathlib.Data.List.Induction
import TableStore.Database
import TableStore.Proofs.CacheRuns
import TableStore.Proofs.CatalogNames

/-!
# Cached pages and the tables that are open

Tables are opened, replaced and closed while pages of them are cached.  A cached page
agrees with the catalog if its table is open, has rows of the same types, and lies in
the file that the page was read from; the page then can go back to its place in this file.
Work of transactions and closing a table keep this.  Opening a table looks at the catalog
only, and keeps it exactly if no cached page belongs to another table of that name, and
those of the table itself were read from the same file with rows of the same types.
-/

set_option autoImplicit false

namespace TableStore

/-- Where a cached page comes from: the serial number under which it was loaded, and
the file that its table had then. -/
structure Origin where
  serial : Nat
  file : Option String
deriving DecidableEq

/-- A database in use, with notes on where its cached pages come from. -/
structure Usage where
  database : Database
  pending : SortedMap TxnId Operation := ∅
  handles : List Handle := []
  history : List Event := []
  origins : SortedMap PageId Origin := ∅

/-- What is done with a database: tables are opened and closed, transactions begin,
and they act. -/
inductive Errand where
  | openTable (file : String) (id : TableId) (schema : Schema) (name : String)
  | closeTable (name : String)
  | begin
  | act (action : Action)

namespace Usage

variable (usage : Usage)

abbrev store : Store := usage.database.store

def system : System := ⟨usage.store, usage.pending, usage.handles, usage.history⟩

def origin (id : PageId) (frame : Frame) : Origin :=
  let read := ⟨frame.serial, (usage.store.catalog.tables.get? id.table).map (·.file)⟩
  match usage.origins.get? id with
  | some origin => if origin.serial = frame.serial then origin else read
  | none => read

def act (action : Action) : Usage :=
  let after := usage.system.perform action
  { database := { usage.database with store := after.store }
    pending := after.pending
    handles := after.handles
    history := after.history
    origins := after.store.frames.map usage.origin }

def perform : Errand → Usage
  | .openTable file id schema name =>
      match usage.database.openTable file id schema name with
      | .ok (_, database) => { usage with database }
      | .error _ => usage
  | .closeTable name => { usage with database := (usage.database.closeTable name).2 }
  | .begin => { usage with database := usage.database.begin.2 }
  | .act action => usage.act action

def run (errands : List Errand) : Usage := errands.foldl perform usage

/-- Every cached page belongs to a table that is open, with rows of the same types, and
was read from the file of this table. -/
def Agrees : Prop :=
  ∀ id frame, usage.store.frames.get? id = some frame → ∃ table,
    usage.store.catalog.tables.get? id.table = some table ∧
    frame.page.schema.alike table.schema = true ∧
    usage.origins.get? id = some ⟨frame.serial, some table.file⟩

/-- Every cached page can go back: it can be written to the file that it was read from,
and what is then read at its place, in the layout of its table, has the same rows.  If
this file takes the page, a write back succeeds and does so. -/
def Returns : Prop :=
  ∀ id frame, usage.store.frames.get? id = some frame → ∃ table disk,
    usage.store.catalog.tables.get? id.table = some table ∧
    usage.origins.get? id = some ⟨frame.serial, some table.file⟩ ∧
    table.writePage usage.store.disk frame.page = .ok disk ∧
    (∃ bytes again, (table.pages disk).read id.number table.pageSize = .ok bytes ∧
      Page.decode id table.schema table.pageSize bytes = .ok again ∧
      again.contents = frame.page.contents) ∧
    (usage.store.unwritable.get? id = none → ∃ clean after,
      usage.store.writeBack frame.page = .ok (clean, after) ∧
      (frame.page.dirtiedBy ≠ none → after.disk = disk))

/-- An errand disturbs no cached page.  Only an opening could: one that succeeds
replaces the table that had the identity, and the one that had the name. -/
def Spares : Errand → Prop
  | .openTable file table schema name => '/' ∈ file.toList ∨
      ∀ id page, usage.store.cached? id = some page →
        if id.table = table then
          page.schema.alike schema = true ∧ ∃ old,
            usage.store.catalog.tables.get? table = some old ∧ old.file = file
        else usage.store.catalog.id? name ≠ some id.table
  | _ => True

structure Consistent : Prop where
  fitting : usage.store.Fitting
  sized : ∀ id frame, usage.store.frames.get? id = some frame →
    frame.page.size = usage.database.settings.pageSize
  tables : ∀ id table, usage.store.catalog.tables.get? id = some table →
    table.id = id ∧ table.pageSize = usage.database.settings.pageSize
  numbered : ∀ id frame, usage.store.frames.get? id = some frame →
    frame.serial < usage.store.nextSerial
  noted : ∀ id frame, usage.store.frames.get? id = some frame →
    ∃ file, usage.origins.get? id = some ⟨frame.serial, file⟩
  past : ∀ id origin, usage.origins.get? id = some origin →
    origin.serial < usage.store.nextSerial
  placed : ∀ id frame file, usage.store.frames.get? id = some frame →
    usage.origins.get? id = some ⟨frame.serial, some file⟩ →
    (id.number.toNat + 1) * usage.database.settings.pageSize ≤
      ((usage.store.disk.get? file).getD ∅).length

variable {usage} {after : Usage}

/-! ## Pages that stay -/

structure Keeps (usage after : Usage) : Prop where
  settings : after.database.settings = usage.database.settings
  frame : ∀ id frame, after.store.frames.get? id = some frame → usage.store.Had id frame
  nextSerial : usage.store.nextSerial ≤ after.store.nextSerial
  disk : usage.store.disk.GrowsTo after.store.disk
  origins : after.origins = usage.origins

theorem Consistent.frame (consistent : usage.Consistent) {id : PageId} {old frame : Frame}
    (found : usage.store.frames.get? id = some old)
    (fits : ∀ table, old.page.Fits table id → frame.page.Fits table id) :
    (∃ table, frame.page.Fits table id) ∧ frame.page.schema = old.page.schema ∧
      frame.page.size = old.page.size := by
  obtain ⟨table, fitted⟩ := consistent.fitting id old.page (Store.cached?_of_frame found)
  have later := fits table fitted
  exact ⟨⟨table, later⟩, later.schema.trans fitted.schema.symm, later.size.trans fitted.size.symm⟩

theorem Consistent.keeps (consistent : usage.Consistent) (keeps : Keeps usage after)
    (tables : ∀ id table, after.store.catalog.tables.get? id = some table →
      table.id = id ∧ table.pageSize = usage.database.settings.pageSize) : after.Consistent where
  fitting := by
    intro id page cached
    obtain ⟨frame, found, rfl⟩ := Option.map_eq_some_iff.mp cached
    obtain ⟨old, known, -, fits⟩ := keeps.frame id frame found
    exact (consistent.frame known fits).1
  sized := by
    intro id frame found
    obtain ⟨old, known, -, fits⟩ := keeps.frame id frame found
    rw [(consistent.frame known fits).2.2, keeps.settings]
    exact consistent.sized id old known
  tables := by
    rw [keeps.settings]
    exact tables
  numbered := by
    intro id frame found
    obtain ⟨old, known, serial, -⟩ := keeps.frame id frame found
    rw [← serial]
    exact Nat.lt_of_lt_of_le (consistent.numbered id old known) keeps.nextSerial
  noted := by
    intro id frame found
    obtain ⟨old, known, serial, -⟩ := keeps.frame id frame found
    rw [keeps.origins, ← serial]
    exact consistent.noted id old known
  past := by
    intro id origin known
    rw [keeps.origins] at known
    exact Nat.lt_of_lt_of_le (consistent.past id origin known) keeps.nextSerial
  placed := by
    intro id frame file found known
    obtain ⟨old, present, serial, -⟩ := keeps.frame id frame found
    rw [keeps.origins, ← serial] at known
    rw [keeps.settings]
    exact Nat.le_trans (consistent.placed id old file present known) (keeps.disk file)

theorem Agrees.keeps (agrees : usage.Agrees) (consistent : usage.Consistent)
    (keeps : Keeps usage after)
    (tables : ∀ id frame table, after.store.frames.get? id = some frame →
      usage.store.catalog.tables.get? id.table = some table →
      after.store.catalog.tables.get? id.table = some table) : after.Agrees := by
  intro id frame found
  obtain ⟨old, known, serial, fits⟩ := keeps.frame id frame found
  obtain ⟨table, registered, alike, origin⟩ := agrees id old known
  refine ⟨table, tables id frame table found registered, ?_, ?_⟩
  · rw [(consistent.frame known fits).2.1]
    exact alike
  · rw [keeps.origins, ← serial]
    exact origin

theorem keeps_of_store (settings : after.database.settings = usage.database.settings)
    (store : after.store = usage.store) (origins : after.origins = usage.origins) :
    Keeps usage after where
  settings := settings
  frame _ _ found := .here (store ▸ found)
  nextSerial := Nat.le_of_eq (congrArg Store.nextSerial store.symm)
  disk := store ▸ .refl _
  origins := origins

/-! ## Closing a table -/

theorem keeps_closeTable (fitting : usage.store.Fitting) (name : String) :
    Keeps usage (usage.perform (.closeTable name)) := by
  rw [perform, Database.closeTable]
  split
  · exact keeps_of_store rfl rfl rfl
  · next id known =>
      have lasts : Store.Lasts usage.store (usage.store.evictTable id).2 :=
        Store.CacheSteps.lasts (fitting.evictTable id [])
      have frame (place : PageId) (frame : Frame)
          (found : (usage.store.evictTable id).2.frames.get? place = some frame) :
          usage.store.Had place frame := (fitting.evictTable_frame found).1
      split <;> next run =>
        rw [run] at lasts frame
        exact ⟨rfl, frame, lasts.nextSerial, lasts.disk, rfl⟩

/-- The tables that are open after one was closed, or could not be: they were open
before, and those of the cached pages still are. -/
theorem tables_closeTable (fitting : usage.store.Fitting) (name : String) :
    (∀ id table,
      (usage.perform (.closeTable name)).store.catalog.tables.get? id = some table →
        usage.store.catalog.tables.get? id = some table) ∧
    ∀ id frame table,
      (usage.perform (.closeTable name)).store.frames.get? id = some frame →
      usage.store.catalog.tables.get? id.table = some table →
      (usage.perform (.closeTable name)).store.catalog.tables.get? id.table = some table := by
  rw [perform, Database.closeTable]
  split
  · exact ⟨fun _ _ found => found, fun _ _ _ _ found => found⟩
  · next closed known =>
      have catalog : (usage.store.evictTable closed).2.catalog = usage.store.catalog :=
        (Store.CacheSteps.lasts (fitting.evictTable closed [])).catalog
      have gone (id : PageId) (frame : Frame)
          (found : (usage.store.evictTable closed).2.frames.get? id = some frame)
          (done : (usage.store.evictTable closed).1 = .ok ()) : id.table ≠ closed :=
        (fitting.evictTable_frame found).2 done
      split
      · next error flushed run =>
          rw [run] at catalog
          have same : flushed.catalog = usage.store.catalog := catalog
          refine ⟨?_, ?_⟩
          · intro id table found
            rw [← same]
            exact found
          · intro id frame table _ found
            rw [← same] at found
            exact found
      · next flushed run =>
          rw [run] at catalog gone
          have rest (id : TableId) : (flushed.catalog.tables.erase closed).get? id =
              if id = closed then none else usage.store.catalog.tables.get? id := by
            rw [SortedMap.get?_erase, show flushed.catalog = usage.store.catalog from catalog]
          refine ⟨?_, ?_⟩
          · intro id table found
            have left := (rest id).symm.trans found
            split at left
            · cases left
            · exact left
          · intro id frame table found registered
            exact (rest id.table).trans ((if_neg (gone id frame found rfl)).trans registered)

/-! ## Work of transactions -/

theorem origins_act (action : Action) (id : PageId) : (usage.act action).origins.get? id =
    ((usage.act action).store.frames.get? id).map (usage.origin id) :=
  SortedMap.get?_map _ _ id

theorem origin_of_kept {id : PageId} {frame : Frame} {file : Option String}
    (known : usage.origins.get? id = some ⟨frame.serial, file⟩) :
    usage.origin id frame = ⟨frame.serial, file⟩ := by
  simp [origin, known]

theorem serial_origin (usage : Usage) (id : PageId) (frame : Frame) :
    (usage.origin id frame).serial = frame.serial := by
  unfold origin
  dsimp only
  split
  · split
    · next same => exact same
    · rfl
  · rfl

theorem Consistent.origin_of_read (consistent : usage.Consistent) {id : PageId} {frame : Frame}
    (fresh : usage.store.nextSerial ≤ frame.serial) : usage.origin id frame =
      ⟨frame.serial, (usage.store.catalog.tables.get? id.table).map (·.file)⟩ := by
  unfold origin
  dsimp only
  split
  · next origin known =>
      have before := consistent.past id origin known
      rw [if_neg]
      omega
  · rfl

theorem Consistent.act (consistent : usage.Consistent) (action : Action) :
    (usage.act action).Consistent := by
  have fitting : usage.system.store.Fitting := consistent.fitting
  have lasts : Store.Lasts usage.store (usage.act action).store :=
    System.perform_lasts fitting action
  have origin (id : PageId) (frame : Frame)
      (found : (usage.act action).store.frames.get? id = some frame) :
      (usage.act action).origins.get? id = some (usage.origin id frame) := by
    rw [origins_act, found]
    rfl
  have number (id : PageId) (frame : Frame)
      (found : (usage.act action).store.frames.get? id = some frame) :
      frame.serial < (usage.act action).store.nextSerial := by
    rcases System.perform_frame fitting found with ⟨old, known, serial, -⟩ | ⟨-, -, taken⟩
    · rw [← serial]
      exact Nat.lt_of_lt_of_le (consistent.numbered id old known) lasts.nextSerial
    · exact taken
  constructor
  · intro id page cached
    obtain ⟨frame, found, rfl⟩ := Option.map_eq_some_iff.mp cached
    rcases System.perform_frame fitting found with ⟨old, known, -, fits⟩ |
      ⟨⟨table, -, fits, -⟩, -⟩
    · exact (consistent.frame known fits).1
    · exact ⟨table, fits⟩
  · intro id frame found
    rcases System.perform_frame fitting found with ⟨old, known, -, fits⟩ |
      ⟨⟨table, registered, fits, -⟩, -⟩
    · rw [(consistent.frame known fits).2.2]
      exact consistent.sized id old known
    · rw [fits.size]
      exact (consistent.tables id.table table registered).2
  · rw [lasts.catalog]
    exact consistent.tables
  · exact number
  · intro id frame found
    refine ⟨(usage.origin id frame).file, ?_⟩
    rw [origin id frame found, ← serial_origin usage id frame]
  · intro id note known
    rw [origins_act, Option.map_eq_some_iff] at known
    obtain ⟨frame, found, rfl⟩ := known
    rw [serial_origin]
    exact number id frame found
  · intro id frame file found known
    have same := Option.some.inj ((origin id frame found).symm.trans known)
    rcases System.perform_frame fitting found with ⟨old, present, serial, -⟩ |
      ⟨⟨table, registered, fits, inside⟩, fresh, -⟩
    · obtain ⟨before, noted⟩ := consistent.noted id old present
      rw [serial] at noted
      rw [origin_of_kept noted] at same
      cases same
      rw [← serial] at noted
      exact Nat.le_trans (consistent.placed id old file present noted) (lasts.disk file)
    · have own : usage.store.catalog.tables.get? id.table = some table := registered
      rw [consistent.origin_of_read fresh, own] at same
      cases same
      rw [(consistent.tables id.table table own).2] at inside
      exact inside

/-- Work of transactions keeps the agreement: a page that it reads is in the file of its
table, with its types. -/
theorem Agrees.act (agrees : usage.Agrees) (consistent : usage.Consistent) (action : Action) :
    (usage.act action).Agrees := by
  have fitting : usage.system.store.Fitting := consistent.fitting
  have lasts : Store.Lasts usage.store (usage.act action).store :=
    System.perform_lasts fitting action
  intro id frame found
  rw [origins_act, found, Option.map_some, lasts.catalog]
  rcases System.perform_frame fitting found with ⟨old, known, serial, fits⟩ |
    ⟨⟨table, registered, fits, -⟩, fresh, -⟩
  · obtain ⟨table, registered, alike, origin⟩ := agrees id old known
    refine ⟨table, registered, ?_, ?_⟩
    · rw [(consistent.frame known fits).2.1]
      exact alike
    · rw [serial] at origin
      rw [origin_of_kept origin]
  · have own : usage.store.catalog.tables.get? id.table = some table := registered
    refine ⟨table, own, ?_, ?_⟩
    · rw [fits.schema, Schema.alike_iff]
    · rw [consistent.origin_of_read fresh, own]
      rfl

/-! ## Opening a table -/

def opened (usage : Usage) (table : Table) (name : String) : Usage :=
  { usage with database := { usage.database with store := { usage.store with
    disk := usage.store.disk.insert table.file ((usage.store.disk.get? table.file).getD ∅)
    catalog := usage.store.catalog.add table name } } }

theorem openTable_cases (usage : Usage) (file : String) (id : TableId) (schema : Schema)
    (name : String) :
    ('/' ∈ file.toList ∧ usage.perform (.openTable file id schema name) = usage) ∨
    '/' ∉ file.toList ∧ usage.perform (.openTable file id schema name) =
      usage.opened ⟨id, file, schema, usage.database.settings.pageSize⟩ name := by
  by_cases slash : '/' ∈ file.toList
  · refine .inl ⟨slash, ?_⟩
    simp only [perform, Database.openTable, Store.openTable, if_pos slash]
  · refine .inr ⟨slash, ?_⟩
    simp only [perform, Database.openTable, Store.openTable, if_neg slash]
    rfl

theorem Consistent.opened (consistent : usage.Consistent) {table : Table} (name : String)
    (size : table.pageSize = usage.database.settings.pageSize) :
    (usage.opened table name).Consistent := by
  have keeps : Keeps usage (usage.opened table name) := by
    refine ⟨rfl, fun _ _ found => .here found, Nat.le_refl _, ?_, rfl⟩
    intro file
    have content := SortedMap.get?_insert usage.store.disk table.file file
      ((usage.store.disk.get? table.file).getD ∅)
    rw [show (usage.opened table name).store.disk.get? file = _ from content]
    split
    · next here =>
        rw [here]
        exact Nat.le_refl _
    · exact Nat.le_refl _
  apply consistent.keeps keeps
  intro id other found
  have registered := (Catalog.tables_add usage.store.catalog table name id).symm.trans found
  split at registered
  · next here =>
      cases registered
      exact ⟨here.symm, size⟩
  · split at registered
    · cases registered
    · exact consistent.tables id other registered

/-- A table that is opened disturbs no cached page exactly if the agreement holds then. -/
theorem Agrees.opened_iff (agrees : usage.Agrees) (table : Table) (name : String) :
    (usage.opened table name).Agrees ↔ ∀ id page, usage.store.cached? id = some page →
      if id.table = table.id then
        page.schema.alike table.schema = true ∧ ∃ old,
          usage.store.catalog.tables.get? table.id = some old ∧ old.file = table.file
      else usage.store.catalog.id? name ≠ some id.table := by
  have tables (id : TableId) : (usage.opened table name).store.catalog.tables.get? id = _ :=
    Catalog.tables_add usage.store.catalog table name id
  constructor
  · intro later id page cached
    obtain ⟨frame, found, rfl⟩ := Option.map_eq_some_iff.mp cached
    obtain ⟨new, registered, alike, origin⟩ := later id frame found
    obtain ⟨old, known, -, before⟩ := agrees id frame found
    rw [tables] at registered
    split
    · next here =>
        rw [if_pos here] at registered
        cases registered
        have file : old.file = table.file := by simpa using before.symm.trans origin
        exact ⟨alike, old, here ▸ known, file⟩
    · next other =>
        intro named
        rw [if_neg other, if_pos named] at registered
        cases registered
  · intro spares id frame found
    obtain ⟨old, known, alike, origin⟩ := agrees id frame found
    have spared := spares id frame.page (Store.cached?_of_frame found)
    rw [tables]
    split at spared
    · next here =>
        obtain ⟨types, own, registered, file⟩ := spared
        rw [← here, known] at registered
        cases registered
        refine ⟨table, if_pos here, types, ?_⟩
        rw [← file]
        exact origin
    · next other =>
        refine ⟨old, ?_, alike, origin⟩
        rw [if_neg other, if_neg spared]
        exact known

/-! ## All errands -/

theorem Consistent.perform (consistent : usage.Consistent) (errand : Errand) :
    (usage.perform errand).Consistent := by
  cases errand with
  | openTable file id schema name =>
      rcases openTable_cases usage file id schema name with ⟨-, same⟩ | ⟨-, same⟩
      · rw [same]
        exact consistent
      · rw [same]
        exact consistent.opened name rfl
  | closeTable name =>
      apply consistent.keeps (keeps_closeTable consistent.fitting name)
      intro id table found
      have registered := (tables_closeTable consistent.fitting name).1 id table found
      exact consistent.tables id table registered
  | begin => exact consistent.keeps (keeps_of_store rfl rfl rfl) consistent.tables
  | act action => exact consistent.act action

theorem Agrees.perform_iff (agrees : usage.Agrees) (consistent : usage.Consistent)
    (errand : Errand) : (usage.perform errand).Agrees ↔ usage.Spares errand := by
  cases errand with
  | openTable file id schema name =>
      rcases openTable_cases usage file id schema name with ⟨slash, same⟩ | ⟨plain, same⟩
      · rw [same]
        exact ⟨fun _ => .inl slash, fun _ => agrees⟩
      · rw [same, agrees.opened_iff]
        exact ⟨.inr, fun spares => spares.resolve_left plain⟩
  | closeTable name =>
      have kept := agrees.keeps consistent (keeps_closeTable consistent.fitting name)
        (tables_closeTable consistent.fitting name).2
      exact ⟨fun _ => trivial, fun _ => kept⟩
  | begin => exact ⟨fun _ => trivial, fun _ => agrees⟩
  | act action => exact ⟨fun _ => trivial, fun _ => agrees.act consistent action⟩

theorem Consistent.run (consistent : usage.Consistent) (errands : List Errand) :
    (usage.run errands).Consistent := by
  induction errands generalizing usage with
  | nil => exact consistent
  | cons errand errands ih => exact ih (consistent.perform errand)

theorem run_snoc (usage : Usage) (errands : List Errand) (errand : Errand) :
    usage.run (errands ++ [errand]) = (usage.run errands).perform errand := by
  rw [run, List.foldl_append]
  rfl

theorem Agrees.run_iff (agrees : usage.Agrees) (consistent : usage.Consistent)
    (errands : List Errand) :
    (∀ earlier, earlier <+: errands → (usage.run earlier).Agrees) ↔
      ∀ earlier errand, earlier ++ [errand] <+: errands → (usage.run earlier).Spares errand := by
  constructor
  · intro always earlier errand inside
    have before := always earlier ((List.prefix_append earlier [errand]).trans inside)
    have after := always (earlier ++ [errand]) inside
    rw [run_snoc] at after
    exact (before.perform_iff (consistent.run earlier) errand).mp after
  · intro spares earlier inside
    induction earlier using List.reverseRecOn with
    | nil => exact agrees
    | append_singleton earlier errand ih =>
        have before := ih ((List.prefix_append earlier [errand]).trans inside)
        rw [run_snoc]
        exact (before.perform_iff (consistent.run earlier) errand).mpr
          (spares earlier errand inside)

/-! ## Pages that go back -/

theorem Agrees.returns (agrees : usage.Agrees) (consistent : usage.Consistent) :
    usage.Returns := by
  intro id frame found
  obtain ⟨table, registered, alike, origin⟩ := agrees id frame found
  obtain ⟨_, fits⟩ := consistent.fitting id frame.page (Store.cached?_of_frame found)
  obtain ⟨own, width⟩ := consistent.tables id.table table registered
  have size : frame.page.size = table.pageSize :=
    (consistent.sized id frame found).trans width.symm
  obtain ⟨bytes, encoded, length, again, decoded, contents⟩ := fits.sound.encode_decode_alike alike
  rw [fits.id, size] at decoded
  have inside : (table.pages usage.store.disk).offset id.number ≤
      (table.pages usage.store.disk).content.length := by
    have reached := consistent.placed id frame table.file found origin
    rw [← width, Nat.succ_mul] at reached
    exact Nat.le_trans (Nat.le_add_right _ _) reached
  obtain ⟨file, run⟩ : ∃ file, (table.pages usage.store.disk).write id.number bytes = .ok file :=
    ⟨_, PageFile.write_eq_ok_iff.mpr ⟨length.trans size, inside, rfl⟩⟩
  have written : table.writePage usage.store.disk frame.page =
      .ok (usage.store.disk.insert table.file file.content) := by
    refine Table.writePage_eq_ok_iff.mpr ⟨?_, bytes, file, encoded, ?_, rfl⟩
    · rw [fits.id, own]
    · rw [fits.id]
      exact run
  refine ⟨table, _, registered, origin, written, ⟨bytes, again, ?_, decoded, contents⟩, ?_⟩
  · have same : (⟨table.pageSize, file.content⟩ : PageFile) = file := by
      obtain ⟨-, -, rfl⟩ := PageFile.write_eq_ok_iff.mp run
      rfl
    rw [Table.pages_insert_same, same]
    exact PageFile.read_write_same run
  · intro writable
    cases dirty : frame.page.dirtiedBy with
    | none =>
        refine ⟨frame.page, usage.store, ?_, fun changed => absurd rfl changed⟩
        rw [Store.writeBack, dirty]
    | some txn =>
        have known : usage.store.catalog.table frame.page.id.table = .ok table := by
          rw [Catalog.table, fits.id, registered]
        refine ⟨frame.page.mark false txn, { usage.store with
          disk := usage.store.disk.insert table.file file.content
          unflushed := usage.store.unflushed.erase frame.page.id }, ?_, fun _ => rfl⟩
        rw [← fits.id] at writable
        simp only [Store.writeBack, dirty, known, written, writable, bind, Except.bind, pure,
          Except.pure]

/-! ## Databases from their start -/

def start (settings : Settings) (disk : Disk) : Usage :=
  { database := Database.ofSettings settings disk }

theorem consistent_start (settings : Settings) (disk : Disk) :
    (start settings disk).Consistent where
  fitting _ _ cached := nomatch cached
  sized _ _ found := nomatch found
  tables _ _ found := nomatch found
  numbered _ _ found := nomatch found
  noted _ _ found := nomatch found
  past _ _ found := nomatch found
  placed _ _ _ found := nomatch found

theorem agrees_start (settings : Settings) (disk : Disk) : (start settings disk).Agrees :=
  fun _ _ found => nomatch found

/-- At every moment at which the cached pages agree with the catalog they can go back to
the files that they were read from.  They agree with it all along exactly if no table
is opened in the place of one that has pages in the cache, except as it was before. -/
theorem pages_agree_iff_openings_spare (settings : Settings) (disk : Disk)
    (errands : List Errand) :
    (((start settings disk).run errands).Agrees → ((start settings disk).run errands).Returns) ∧
    ((∀ earlier, earlier <+: errands → ((start settings disk).run earlier).Agrees) ↔
      ∀ earlier errand, earlier ++ [errand] <+: errands →
        ((start settings disk).run earlier).Spares errand) := by
  have consistent := consistent_start settings disk
  exact ⟨fun agrees => agrees.returns (consistent.run errands),
    (agrees_start settings disk).run_iff consistent errands⟩

/-- A table is opened, a transaction inserts a row into it, and another file is opened
under the same name. -/
def nameTakenOver : List Errand :=
  [.openTable "a" ⟨1⟩ Table.numbers.schema "t",
    .act (.call ⟨1⟩ (.insert ⟨1⟩ (.ofNumber 5))), .act (.advance ⟨1⟩),
    .openTable "b" ⟨2⟩ Table.numbers.schema "t"]

/-- The page with the row is in the cache without a table, and the transaction cannot
commit. -/
theorem page_without_table_after_opening :
    let usage := (start { pageSize := 8 } ∅).run nameTakenOver
    ¬ usage.Agrees ∧ ¬ usage.Returns ∧
      (usage.store.cached? ⟨⟨1⟩, 0⟩).map Page.contents = some [some [.int 5]] ∧
      (usage.store.commit ⟨1⟩).1 = .error (.noSuchTable ⟨1⟩) := by
  intro usage
  have unknown : usage.store.catalog.tables.get? ⟨1⟩ = none := by decide +kernel
  have shown : (usage.store.cached? ⟨⟨1⟩, 0⟩).map Page.contents = some [some [.int 5]] := by
    decide +kernel
  have refused : (usage.store.commit ⟨1⟩).1 = .error (.noSuchTable ⟨1⟩) := by decide +kernel
  obtain ⟨page, cached, -⟩ := Option.map_eq_some_iff.mp shown
  obtain ⟨frame, found, -⟩ := Option.map_eq_some_iff.mp cached
  refine ⟨?_, ?_, shown, refused⟩
  · intro agrees
    obtain ⟨table, registered, -⟩ := agrees ⟨⟨1⟩, 0⟩ frame found
    rw [unknown] at registered
    cases registered
  · intro returns
    obtain ⟨table, _, registered, -⟩ := returns ⟨⟨1⟩, 0⟩ frame found
    rw [unknown] at registered
    cases registered

end Usage

end TableStore
