import TableStore.Proofs.Commands
import TableStore.Proofs.PackedTables
import TableStore.Schema.Parser

/-!
# Invocations of the command line

Between two invocations there is nothing but the file of the table.  Each opens
the file, works in a transaction of its own and ends it, so that the next one
finds all that was committed and nothing else, whatever room they have for pages.
-/

set_option autoImplicit false

namespace TableStore

/-! ## What a file keeps -/

namespace Table

variable {table : Table} {disk after : Disk}

def filed (table : Table) (disk : Disk) : Tables where
  page id := (table.readPage disk id).map Page.contents
  settled id := (table.readPage disk id).map Page.contents
  count _ := table.wholePages disk

/-- The file of the table has the rows of the inventory, on pages that a page
number can tell apart. -/
structure Keeps (table : Table) (disk : Disk) (inventory : Inventory) : Prop where
  addressable : table.wholePages disk < 2 ^ 32
  holds : (table.filed disk).Holds table inventory

def opened (table : Table) (capacity : Nat) (disk : Disk) : Store where
  disk := disk.insert table.file ((disk.get? table.file).getD ∅)
  catalog := ({} : Catalog).add table "main"
  capacity

theorem pages_opened (table : Table) (capacity : Nat) (disk : Disk) :
    table.pages (table.opened capacity disk).disk = table.pages disk :=
  pages_insert_same

theorem registered_opened (table : Table) (capacity : Nat) (disk : Disk) (id : TableId) :
    (table.opened capacity disk).catalog.tables.get? id = if id = table.id then some table else none :=
  SortedMap.get?_insert ∅ table.id id table

theorem registered_opened_self (table : Table) (capacity : Nat) (disk : Disk) :
    (table.opened capacity disk).catalog.tables.get? table.id = some table :=
  (registered_opened table capacity disk table.id).trans (if_pos rfl)

theorem roomy_opened (capacity : Nat) (room : table.wholePages disk + 1 < 2 ^ 32) :
    (table.opened capacity disk).Roomy := by
  intro id other found
  rw [registered_opened] at found
  split at found
  · cases found
    rw [wholePages, pages_opened]
    exact room
  · cases found

theorem filed_congr (same : table.pages after = table.pages disk) :
    table.filed after = table.filed disk := by
  have read (id : PageId) : table.readPage after id = table.readPage disk id := by
    rw [readPage, readPage, pageCount, pageCount, same]
  simp only [filed, read, wholePages, same]

theorem wholePages_of_missing (absent : disk.get? table.file = none) :
    table.wholePages disk = 0 := by
  rw [wholePages, pages, absent, PageFile.wholePages]
  exact Nat.zero_div _

theorem Keeps.missing (absent : disk.get? table.file = none)
    (slots : ∃ count, Page.slotCount table.schema table.pageSize = .ok count) :
    table.Keeps disk ∅ := by
  have none := wholePages_of_missing absent
  refine ⟨by omega, ⟨slots, fun number inside => ?_⟩, fun place => ?_⟩
  · change number < table.wholePages disk at inside
    omega
  · rw [Tables.row?, if_neg]
    · rfl
    · rintro ⟨-, inside⟩
      change _ < table.wholePages disk at inside
      omega

variable {capacity : Nat} {inventory : Inventory}

theorem unused_opened (table : Table) (capacity : Nat) (disk : Disk) :
    (table.opened capacity disk).Unused where
  catalog := by
    refine ⟨fun id other found => ?_, fun a b s t first second _ => ?_⟩
    · rw [registered_opened] at found
      split at found
      · next same =>
          cases found
          exact same.symm
      · cases found
    · rw [registered_opened] at first second
      split at first
      · next here =>
          split at second
          · next there => exact here.trans there.symm
          · cases second
      · cases first
  locks := rfl
  frames := rfl
  unflushed := rfl
  policy queue known := by
    cases known
    rfl

theorem fresh_opened (capacity : Nat) (small : table.wholePages disk < 2 ^ 32) :
    (table.opened capacity disk).Fresh := by
  refine ⟨unused_opened table capacity disk, fun id other found => ?_⟩
  rw [registered_opened] at found
  split at found
  · cases found
    rw [wholePages, pages_opened]
    exact small
  · cases found

end Table

namespace Store

variable {store : Store} {tables : Tables} {table : Table} {inventory : Inventory}

theorem stored_of_own (registered : store.catalog.tables.get? table.id = some table) {id : PageId}
    (own : id.table = table.id) : store.stored id = (table.filed store.disk).page id := by
  have known : store.catalog.table id.table = .ok table := by
    rw [Catalog.table, own, registered]
  rw [stored, readPage, known]
  rfl

theorem Rested.filed (rested : Rested store tables)
    (registered : store.catalog.tables.get? table.id = some table) :
    (∀ id, id.table = table.id → (table.filed store.disk).page id = tables.page id) ∧
      (table.filed store.disk).count table.id = tables.count table.id := by
  refine ⟨fun id own => ?_, (rested.serial ⟨0⟩).count _ _ registered⟩
  rw [← stored_of_own registered own, rested.stored]

theorem Rested.keeps (rested : Rested store tables)
    (registered : store.catalog.tables.get? table.id = some table)
    (holds : tables.Holds table inventory) : table.Keeps store.disk inventory where
  addressable := (rested.serial ⟨0⟩).addressable _ _ registered
  holds := holds.congr (rested.filed registered).1 (rested.filed registered).2

end Store

theorem Table.rested_opened {table : Table} {disk : Disk} {capacity : Nat}
    (small : table.wholePages disk < 2 ^ 32) (room : 0 < capacity) :
    ∃ tables, Store.Rested (table.opened capacity disk) tables ∧
      (∀ id, id.table = table.id → tables.page id = (table.filed disk).page id) ∧
      tables.count table.id = (table.filed disk).count table.id := by
  have rested := (fresh_opened capacity small).rested ⟨_, rfl⟩ rfl room
  obtain ⟨pages, count⟩ := rested.filed (table.registered_opened_self capacity disk)
  rw [filed_congr (table.pages_opened capacity disk)] at pages count
  exact ⟨_, rested, fun id own => (pages id own).symm, count.symm⟩

theorem Table.packed_opened {table : Table} {disk : Disk} {capacity count : Nat}
    {values : List Value} (packed : (table.filed disk).Packed table values count)
    (small : count < 2 ^ 32) (room : 0 < capacity) :
    ∃ tables, Store.Rested (table.opened capacity disk) tables ∧
      tables.Packed table values count := by
  have counted : table.wholePages disk = count := packed.counted
  obtain ⟨tables, rested, pages, same⟩ := Table.rested_opened (counted ▸ small) room
  exact ⟨tables, rested, packed.congr pages same⟩

/-! ## Schemas in words -/

theorem Schema.rowWidth_pos {schema : Schema} (some : schema.columns ≠ []) :
    0 < schema.rowWidth := by
  obtain ⟨first, others, listed⟩ := List.exists_cons_of_ne_nil some
  rw [rowWidth, types, listed]
  cases type : first.type with
  | int => simp [type, ColumnType.width]
  | text => simp [type, ColumnType.width]

theorem Schema.columns_of_parse {text : String} {schema : Schema} (read : parse text = .ok schema) :
    schema.columns ≠ [] := by
  cases columns : readColumns 0 (pieces ',' text.toList) with
  | error fault =>
      rw [parse, columns] at read
      cases read
  | ok columns =>
      rw [parse, columns] at read
      cases read
      rw [← List.length_pos_iff, length_readColumns columns, List.length_pos_iff]
      exact pieces_ne_nil ',' text.toList

namespace CommandLine

/-! ## Transactions -/

section

variable {tables : Tables} {table : Table} {inventory : Inventory} {path : String} {command : Command}
  {database : Database}

theorem transact_of_success {run : Run}
    (ran : command.run path table database.begin.1 database.store = run) (succeeded : run.error = none)
    (committed : (run.store.commit database.begin.1).1 = .ok ()) :
    transact command path table database = (run.outcome, (run.store.commit database.begin.1).2) := by
  have ended : run.store.commit database.begin.1 =
      (.ok (), (run.store.commit database.begin.1).2) := Prod.ext committed rfl
  simp only [transact, Run.outcome]
  rw [show command.run path table database.begin.1 database.begin.2.store = run from ran, succeeded]
  simp only
  rw [ended]

theorem transact_of_failure {run : Run} {chain : List String}
    (ran : command.run path table database.begin.1 database.store = run)
    (failed : run.error = some chain) :
    transact command path table database = (run.outcome, (run.store.abort database.begin.1).2) := by
  simp only [transact, Run.outcome]
  rw [show command.run path table database.begin.1 database.begin.2.store = run from ran, failed]

/-- The transaction of a command ends, and the file keeps the rows that the command left
behind. -/
theorem transact_of_works (rested : Store.Rested database.store tables)
    (unused : database.store.frames = ∅)
    (registered : database.store.catalog.tables.get? table.id = some table)
    (works : (command.run path table database.begin.1 database.store).Works command path
      database.begin.1 database.store tables table inventory) :
    ∃ rest, Answers path table inventory command (transact command path table database).1 rest ∧
      table.Keeps (transact command path table database).2.disk rest := by
  obtain ⟨later, rest, answers, leads, holds⟩ := works
  generalize ran : command.run path table database.begin.1 database.store = run at *
  have known : run.store.catalog.tables.get? table.id = some table := leads.catalog ▸ registered
  refine ⟨rest, ?_⟩
  cases failed : run.error with
  | none =>
      obtain ⟨committed, settled⟩ := leads.serial.commit
      rw [transact_of_success ran failed committed]
      refine ⟨answers, settled.keeps ?_ (holds.congr (fun _ _ => rfl) rfl)⟩
      rw [(leads.serial.sound.commit _).1.still.catalog]
      exact known
  | some chain =>
      obtain ⟨rfl, served⟩ := leads.failed (by rw [failed]; simp)
      have retains : Store.Retains database.begin.1 database.store run.store := by
        intro id frame found
        rw [unused] at found
        cases found
      obtain ⟨-, settled⟩ := served.serial.abort (served.returns rested.returns retains)
      rw [transact_of_failure ran failed]
      refine ⟨answers, settled.keeps ?_ (holds.congr (fun id _ => ?_) rfl)⟩
      · rw [(served.serial.sound.abort _).1.still.catalog]
        exact known
      · exact congrFun rested.settled id

theorem works_of_serial {txn : TxnId} {store : Store} (serial : store.Serial txn [] tables)
    (registered : store.catalog.tables.get? table.id = some table)
    (holds : tables.Holds table inventory)
    (roomy : ∀ values, command = .insert values → store.Roomy) :
    (command.run path table txn store).Works command path txn store tables table inventory := by
  cases command with
  | insert values => exact insert_works serial registered holds path values (roomy values rfl)
  | delete page slot => exact delete_works serial registered holds path page slot
  | scan => exact scan_works serial registered holds path
  | stats => exact stats_works serial registered holds path

end

/-! ## Invocations -/

def Command.inserts : Command → Bool
  | .insert _ => true
  | _ => false

structure Invocation where
  options : Options
  command : Command

namespace Invocation

/-- The invocation is about rows of the schema on pages of the size, and has room
for a page. -/
structure Fits (invocation : Invocation) (schema : Schema) (pageSize : Nat) : Prop where
  schema : invocation.options.schema = schema
  pageSize : invocation.options.settings.pageSize = pageSize
  pool : 0 < invocation.options.settings.poolPages

instance (invocation : Invocation) (schema : Schema) (pageSize : Nat) :
    Decidable (invocation.Fits schema pageSize) :=
  decidable_of_iff
    (invocation.options.schema = schema ∧
      invocation.options.settings.pageSize = pageSize ∧
      0 < invocation.options.settings.poolPages)
    ⟨fun all => ⟨all.1, all.2.1, all.2.2⟩, fun fits => ⟨fits.schema, fits.pageSize, fits.pool⟩⟩

def database (invocation : Invocation) (table : Table) (disk : Disk) : Database where
  settings := invocation.options.settings
  store := table.opened invocation.options.settings.poolPages disk

end Invocation

def Target.table (target : Target) (schema : Schema) (pageSize : Nat) : Table :=
  ⟨target.id, target.file, schema, pageSize⟩

section

variable {target : Target} {schema : Schema} {pageSize : Nat} {disk : Disk}
  {invocation : Invocation} {inventory : Inventory}

theorem openTable_eq (plain : '/' ∉ target.file.toList) (settings : Settings)
    (size : settings.pageSize = pageSize) :
    (Database.ofSettings settings disk).openTable target.file target.id schema "main" =
      .ok (target.table schema pageSize,
        { settings, store := (target.table schema pageSize).opened settings.poolPages disk }) := by
  subst size
  simp only [Database.openTable, Database.ofSettings, Store.openTable, if_neg plain]
  rfl

theorem invoke_eq (plain : '/' ∉ target.file.toList) (fits : invocation.Fits schema pageSize)
    (sized : 0 < pageSize) (disk : Disk) :
    invoke invocation.options target invocation.command disk =
      (transact invocation.command invocation.options.path (target.table schema pageSize)
        (invocation.database (target.table schema pageSize) disk)).map id Store.disk := by
  have unsized : ¬invocation.options.settings.pageSize = 0 := by
    rw [fits.pageSize]
    exact Nat.ne_of_gt sized
  have pooled : ¬invocation.options.settings.poolPages = 0 := Nat.ne_of_gt fits.pool
  have valid : invocation.options.settings.validate = .ok () := by
    rw [Settings.validate, Settings.fault?, if_neg unsized, if_neg pooled]
  simp only [invoke, valid, fits.schema, openTable_eq plain _ fits.pageSize, Invocation.database]
  rfl

/-- An invocation answers by the rows that the file keeps, and the file then keeps
those that there should be. -/
theorem invoke_answers (plain : '/' ∉ target.file.toList) (fits : invocation.Fits schema pageSize)
    (keeps : (target.table schema pageSize).Keeps disk inventory)
    (roomy : invocation.command.inserts = true →
      (target.table schema pageSize).wholePages disk + 1 < 2 ^ 32) :
    ∃ rest, Answers invocation.options.path (target.table schema pageSize) inventory
        invocation.command (invoke invocation.options target invocation.command disk).1 rest ∧
      (target.table schema pageSize).Keeps
        (invoke invocation.options target invocation.command disk).2 rest := by
  obtain ⟨tables, rested, pages, count⟩ := Table.rested_opened keeps.addressable fits.pool
  have holds := keeps.holds.congr pages count
  let database := invocation.database (target.table schema pageSize) disk
  rw [invoke_eq plain fits keeps.holds.sized disk]
  have registered : database.store.catalog.tables.get? target.id =
      some (target.table schema pageSize) :=
    (target.table schema pageSize).registered_opened_self _ disk
  have room (values : List String) (inserts : invocation.command = .insert values) :
      database.store.Roomy :=
    Table.roomy_opened _ (roomy (by rw [inserts, Command.inserts]))
  obtain ⟨rest, answers, kept⟩ : ∃ rest, Answers _ _ inventory invocation.command
      (transact invocation.command invocation.options.path _ database).1 rest ∧ _ :=
    transact_of_works rested rfl registered
      (works_of_serial (rested.serial _) registered holds room)
  exact ⟨rest, answers, kept⟩

end

/-! ## Sequences of invocations -/

def invokeEach (target : Target) : List Invocation → Disk → List Outcome × Disk
  | [], disk => ([], disk)
  | invocation :: invocations, disk =>
      let (outcome, disk) := invoke invocation.options target invocation.command disk
      let (outcomes, disk) := invokeEach target invocations disk
      (outcome :: outcomes, disk)

/-- Every invocation answers by the rows that those before it left behind. -/
inductive AnswersEach (table : Table) :
    Inventory → List Invocation → List Outcome → Inventory → Prop
  | done {inventory : Inventory} : AnswersEach table inventory [] [] inventory
  | next {inventory middle rest : Inventory} {invocation : Invocation} {outcome : Outcome}
      {invocations : List Invocation} {outcomes : List Outcome}
      (first : Answers invocation.options.path table inventory invocation.command outcome middle)
      (others : AnswersEach table middle invocations outcomes rest) :
      AnswersEach table inventory (invocation :: invocations) (outcome :: outcomes) rest

/-- Every insertion finds the file with room for a page that can be numbered. -/
def RoomyEach (target : Target) (table : Table) : List Invocation → Disk → Prop
  | [], _ => True
  | invocation :: invocations, disk =>
      (invocation.command.inserts = true → table.wholePages disk + 1 < 2 ^ 32) ∧
        RoomyEach target table invocations
          (invoke invocation.options target invocation.command disk).2

instance RoomyEach.decidable (target : Target) (table : Table) :
    ∀ (invocations : List Invocation) (disk : Disk),
      Decidable (RoomyEach target table invocations disk)
  | [], _ => .isTrue trivial
  | invocation :: invocations, disk =>
      have := decidable target table invocations
        (invoke invocation.options target invocation.command disk).2
      inferInstanceAs (Decidable (_ ∧ _))

section

variable {target : Target} {schema : Schema} {pageSize : Nat} {disk : Disk}
  {invocations : List Invocation} {inventory : Inventory}

theorem invokeEach_answers (plain : '/' ∉ target.file.toList)
    (fits : ∀ invocation ∈ invocations, invocation.Fits schema pageSize)
    (keeps : (target.table schema pageSize).Keeps disk inventory)
    (roomy : RoomyEach target (target.table schema pageSize) invocations disk) :
    ∃ rest, AnswersEach (target.table schema pageSize) inventory invocations
        (invokeEach target invocations disk).1 rest ∧
      (target.table schema pageSize).Keeps (invokeEach target invocations disk).2 rest := by
  induction invocations generalizing disk inventory with
  | nil => exact ⟨inventory, .done, keeps⟩
  | cons invocation invocations ih =>
      obtain ⟨room, later⟩ := roomy
      obtain ⟨middle, first, kept⟩ :=
        invoke_answers plain (fits invocation List.mem_cons_self) keeps room
      obtain ⟨rest, others, kept⟩ :=
        ih (fun other member => fits other (List.mem_cons_of_mem _ member)) kept later
      exact ⟨rest, .next first others, kept⟩

/-- The command line is a persistent table.  If a page has some slots, and no more
than a place can tell apart, then a sequence of invocations on a file that does not
exist at first answers as an inventory, as long as the 32 bits of a page number are
enough for the pages of the file: whatever room each invocation has for pages, a
scan prints the rows that were inserted and not deleted since, once each, at their
places and in the order of these; a deletion succeeds if such a row is there, and
takes away only that; and invocations that fail change no row. -/
theorem file_is_a_persistent_table {text : String} (parsed : Schema.parse text = .ok schema)
    (some : 0 < Page.slotsPerPage pageSize schema.rowWidth)
    (few : Page.slotsPerPage pageSize schema.rowWidth ≤ Page.addressableSlots)
    (plain : '/' ∉ target.file.toList) (missing : disk.get? target.file = none)
    (fits : ∀ invocation ∈ invocations, invocation.Fits schema pageSize)
    (roomy : RoomyEach target (target.table schema pageSize) invocations disk) :
    ∃ rest, AnswersEach (target.table schema pageSize) ∅ invocations
      (invokeEach target invocations disk).1 rest := by
  cases invocations with
  | nil => exact ⟨∅, .done⟩
  | cons invocation invocations =>
      have width := Schema.rowWidth_pos (Schema.columns_of_parse parsed)
      have slots : ∃ count, Page.slotCount schema pageSize = .ok count := by
        refine ⟨Page.slotsPerPage pageSize schema.rowWidth, ?_⟩
        rw [Page.slotCount, if_neg (by omega), if_neg (by omega), if_neg (by omega)]
      obtain ⟨rest, answers, -⟩ := invokeEach_answers plain fits (.missing missing slots) roomy
      exact ⟨rest, answers⟩

end

/-! ## A file whose page numbers run out -/

theorem invokeEach_pair {target : Target} {first second : Invocation} {one two : Outcome}
    {disk after : Disk} (before : invoke first.options target first.command disk = (one, after))
    (last : (invoke second.options target second.command after).1 = two) :
    (invokeEach target [first, second] disk).1 = [one, two] := by
  simp only [invokeEach, before, last]

theorem invokeEach_append {target : Target} {first second : List Invocation} {disk : Disk} :
    invokeEach target (first ++ second) disk =
      ((invokeEach target first disk).1 ++
          (invokeEach target second (invokeEach target first disk).2).1,
        (invokeEach target second (invokeEach target first disk).2).2) := by
  induction first generalizing disk with
  | nil => rfl
  | cons invocation first ih =>
      simp only [List.cons_append, invokeEach, ih]

section

variable {target : Target} {schema : Schema} {pageSize count : Nat} {disk : Disk}
  {invocation : Invocation} {words : List String} {row : Row}
  (plain : '/' ∉ target.file.toList) (fits : invocation.Fits schema pageSize)
  (sized : 0 < pageSize)

include plain fits sized

section

variable (inserts : invocation.command = .insert words) (read : readRow schema words = .ok row)
  (alike : row.schema.alike schema = true)
  (packed : ((target.table schema pageSize).filed disk).Packed (target.table schema pageSize)
    row.values count)

include inserts read alike packed

/-- An insertion into a file without a free slot puts the row onto a new page. -/
theorem invoke_of_packed (small : count + 1 < 2 ^ 32) (slots : Page.slotCount schema pageSize = .ok 1)
    (buffered : pageSize < PageFile.bufferLimit) :
    (invoke invocation.options target invocation.command disk).1 = .output ("inserted at " ++
        place ⟨(target.table schema pageSize).page (UInt32.ofNat count), 0⟩ ++ "\n") ∧
      ((target.table schema pageSize).filed
        (invoke invocation.options target invocation.command disk).2).Packed
          (target.table schema pageSize) row.values (count + 1) := by
  let database := invocation.database (target.table schema pageSize) disk
  have registered : database.store.catalog.tables.get? (target.table schema pageSize).id = _ :=
    (target.table schema pageSize).registered_opened_self _ disk
  let location : Location := ⟨(target.table schema pageSize).page (UInt32.ofNat count), 0⟩
  have counted : (target.table schema pageSize).wholePages disk = count := packed.counted
  obtain ⟨tables, rested, full⟩ := Table.packed_opened packed (by omega) fits.pool
  obtain ⟨result, after, run, entry, served⟩ := (rested.serial database.begin.1).insert registered
    (Table.roomy_opened _ (by omega)) row
  obtain ⟨later, put, more⟩ := full.insert sized slots (by omega)
    (fun unbuffered => absurd buffered (Nat.not_lt_of_le unbuffered.1)) alike
  rw [put] at entry served
  cases result with
  | error error => cases entry
  | ok inserted =>
      have done := insert_of_success read registered run
        (congrArg Prod.fst (Except.ok.inj entry))
      have ran : invocation.command.run invocation.options.path (target.table schema pageSize)
          database.begin.1 database.store = ⟨"inserted at " ++ place location ++ "\n", none, after⟩ := by
        rw [inserts]
        exact done
      obtain ⟨committed, settled⟩ := served.serial.commit
      have known : (after.commit database.begin.1).2.catalog.tables.get?
          (target.table schema pageSize).id = some (target.table schema pageSize) := by
        rw [(served.serial.sound.commit _).1.still.catalog, served.catalog]
        exact registered
      obtain ⟨filed, total⟩ := settled.filed known
      rw [invoke_eq plain fits sized disk, transact_of_success ran rfl committed]
      exact ⟨rfl, more.congr filed total⟩

/-- The insertion that appends the page with the last number fails. -/
theorem invoke_of_last (last : count + 1 = 2 ^ 32) :
    ∃ chain after, invoke invocation.options target invocation.command disk =
        (.failure "" chain, after) ∧
      (target.table schema pageSize).wholePages after = 2 ^ 32 := by
  let database := invocation.database (target.table schema pageSize) disk
  have registered : database.store.catalog.tables.get? (target.table schema pageSize).id = _ :=
    (target.table schema pageSize).registered_opened_self _ disk
  obtain ⟨tables, rested, full⟩ := Table.packed_opened packed (by omega) fits.pool
  obtain ⟨error, after, run, spilled⟩ :=
    (rested.serial database.begin.1).spills registered full (by omega) alike last
  have ran : invocation.command.run invocation.options.path (target.table schema pageSize)
      database.begin.1 database.store = ⟨"", some error.chain, after⟩ := by
    rw [inserts]
    exact insert_of_failure read registered run
  refine ⟨error.chain, (after.abort database.begin.1).2.disk, ?_, ?_⟩
  · rw [invoke_eq plain fits sized disk, transact_of_failure ran rfl]
    rfl
  · rw [(spilled.sound.abort _).1.still.counts _ _ spilled.registered]
    exact spilled.whole

end

/-- A scan of a file with more pages than numbers prints nothing. -/
theorem invoke_scan_of_lost (scans : invocation.command = .scan)
    (whole : (target.table schema pageSize).wholePages disk = 2 ^ 32) :
    (invoke invocation.options target invocation.command disk).1 = .output "" := by
  let database := invocation.database (target.table schema pageSize) disk
  have registered : database.store.catalog.tables.get? (target.table schema pageSize).id = _ :=
    (target.table schema pageSize).registered_opened_self _ disk
  have unused : database.store.Unused := Table.unused_opened _ _ disk
  have lost : database.store.Lost (target.table schema pageSize).id := by
    refine ⟨_, registered, ?_⟩
    change (target.table schema pageSize).wholePages (Table.opened _ _ disk).disk = _
    rw [Table.wholePages, Table.pages_opened]
    exact whole
  have ran : invocation.command.run invocation.options.path (target.table schema pageSize)
      database.begin.1 database.store = ⟨"", none, database.store⟩ := by
    rw [scans]
    simp only [Command.run, scan, items, lost.scan registered]
    rfl
  have committed : (database.store.commit database.begin.1).1 = .ok () := by
    rw [(unused.sound.commit _).2.2]
    intro id copy cached
    cases cached.symm.trans (Store.copy_of_uncached (unused.uncached id))
  rw [invoke_eq plain fits sized disk, transact_of_success ran rfl committed]
  rfl

end

def onNumbers (poolPages : Nat) (command : Command) : Invocation :=
  ⟨{ path := "numbers", schema := ⟨[⟨"n", .int⟩]⟩, settings := { pageSize := 8, poolPages } },
    command⟩

def numbersFile : Target := ⟨"numbers", ⟨1⟩⟩

def numbersTable : Table := numbersFile.table ⟨[⟨"n", .int⟩]⟩ 8

theorem fits_onNumbers {poolPages : Nat} (room : 0 < poolPages) (command : Command) :
    (onNumbers poolPages command).Fits ⟨[⟨"n", .int⟩]⟩ 8 :=
  ⟨rfl, rfl, room⟩

theorem readRow_five : ∃ row, readRow ⟨[⟨"n", .int⟩]⟩ ["5"] = .ok row ∧ row.values = [.int 5] ∧
    row.schema.alike ⟨[⟨"n", .int⟩]⟩ = true :=
  ⟨⟨⟨[⟨"n", .int⟩]⟩, [.int 5], none, rfl⟩, by rfl, rfl, rfl⟩

theorem insertions_of_five {count : Nat} (small : count < 2 ^ 32) :
    let insertions := List.replicate count (onNumbers 1 (.insert ["5"]))
    (invokeEach numbersFile insertions ∅).1 = (List.range count).map (fun number =>
        .output ("inserted at " ++ place ⟨numbersTable.page (UInt32.ofNat number), 0⟩ ++ "\n")) ∧
      (numbersTable.filed (invokeEach numbersFile insertions ∅).2).Packed numbersTable [.int 5]
        count := by
  intro insertions
  induction count with
  | zero =>
      have none : numbersTable.wholePages ∅ = 0 := Table.wholePages_of_missing rfl
      exact ⟨rfl, none, fun number inside => absurd inside (Nat.not_lt_zero number)⟩
  | succ count ih =>
      obtain ⟨answers, packed⟩ := ih (by omega)
      obtain ⟨row, read, values, alike⟩ := readRow_five
      rw [← values] at packed
      obtain ⟨answer, more⟩ := invoke_of_packed (by decide) (fits_onNumbers Nat.one_pos _) (by decide)
        rfl read alike packed small (by decide) (by decide)
      simp only [insertions, List.replicate_succ', invokeEach_append, invokeEach, List.range_succ,
        List.map_append, answers, answer]
      exact ⟨rfl, values ▸ more⟩

/-- If the numbers of pages run out, an insertion fails, and no row is printed any more. -/
theorem scan_beside_last_page_number :
    let insertion := onNumbers 1 (.insert ["5"])
    let invocations := List.replicate (2 ^ 32 - 1) insertion ++ [insertion, onNumbers 1 .scan]
    (∀ invocation ∈ invocations, invocation.Fits ⟨[⟨"n", .int⟩]⟩ 8) ∧
      ∃ chain, (invokeEach numbersFile invocations ∅).1 =
        (List.range (2 ^ 32 - 1)).map (fun number =>
          .output ("inserted at " ++ place ⟨numbersTable.page (UInt32.ofNat number), 0⟩ ++ "\n")) ++
        [.failure "" chain, .output ""] := by
  generalize last : 2 ^ 32 - 1 = count
  intro insertion invocations
  obtain ⟨answers, packed⟩ := insertions_of_five (show count < 2 ^ 32 by omega)
  obtain ⟨row, read, values, alike⟩ := readRow_five
  rw [← values] at packed
  obtain ⟨chain, after, failed, whole⟩ := invoke_of_last (by decide)
    (fits_onNumbers Nat.one_pos (.insert ["5"])) (by decide) rfl read alike packed (by omega)
  have scanned := invoke_scan_of_lost (by decide) (fits_onNumbers Nat.one_pos .scan) (by decide) rfl
    whole
  refine ⟨?_, chain, ?_⟩
  · intro invocation member
    simp only [invocations, List.mem_append, List.mem_replicate, List.mem_cons,
      List.not_mem_nil, or_false] at member
    rcases member with ⟨-, rfl⟩ | rfl | rfl <;> exact fits_onNumbers Nat.one_pos _
  · have ends := invokeEach_pair failed scanned
    rw [invokeEach_append]
    exact congrArg₂ (· ++ ·) answers ends

/-- Two numbers go into a file, a word that is none does not, and one of the numbers
is taken out again. -/
def onTwoNumbers : List Invocation :=
  [onNumbers 1 (.insert ["5"]), onNumbers 2 (.insert ["x"]), onNumbers 1 (.insert ["7"]),
    onNumbers 3 (.delete 0 0), onNumbers 1 .scan, onNumbers 1 .stats]

theorem file_of_two_numbers_is_a_persistent_table :
    let outcomes := [
      .output "inserted at 0:0\n",
      .failure "" ["'x' is not an int", "invalid digit found in string"],
      .output "inserted at 1:0\n", .output "deleted 0:0\n", .output "1:0\t7\n",
      .output (statistics "numbers" numbersTable 2 1 1)]
    (invokeEach numbersFile onTwoNumbers ∅).1 = outcomes ∧
      ∃ rest, AnswersEach numbersTable ∅ onTwoNumbers
        outcomes rest := by
  intro outcomes
  have printed : (invokeEach numbersFile onTwoNumbers ∅).1 = outcomes := by decide +kernel
  have parsed : Schema.parse "n:int" = .ok ⟨[⟨"n", .int⟩]⟩ := by decide +kernel
  refine ⟨printed, ?_⟩
  rw [← printed]
  exact file_is_a_persistent_table parsed (by decide) (by decide) (by decide) rfl
    (by decide +kernel) (by decide +kernel)

end CommandLine

end TableStore
