import TableStore.Proofs.LoneScans
import TableStore.Proofs.OrderlyUses

/-!
# Tables that are closed and opened again

A database is used with care, and a table is closed when no transaction is active and no
page is pinned.  If its pages can be written, they leave the cache, those of other tables
stay in it, and after the file is opened again a scan answers the rows that a scan before
would have answered.  If one of them cannot be written, the table stays open, and its
pages stay in the cache with their rows.
-/

set_option autoImplicit false

namespace TableStore

namespace Table

variable {table : Table} {schema : Schema}

def relaid (table : Table) (schema : Schema) : Table := { table with schema }

theorem readPage_relaid (alike : schema.alike table.schema = true) (disk : Disk) (id : PageId) :
    ((table.relaid schema).readPage disk id).map Page.contents =
      (table.readPage disk id).map Page.contents := by
  have check : (table.relaid schema).checkPage id = table.checkPage id := rfl
  have count : (table.relaid schema).pageCount disk = table.pageCount disk := rfl
  have pages : (table.relaid schema).pages disk = table.pages disk := rfl
  have size : (table.relaid schema).pageSize = table.pageSize := rfl
  simp only [readPage, check, count, pages, size, bind, Except.bind]
  cases table.checkPage id with
  | error error => rfl
  | ok =>
      cases table.pageCount disk with
      | error error => rfl
      | ok count =>
          by_cases inside : id.number < count
          · simp only [inside, if_true]
            cases (table.pages disk).read id.number table.pageSize with
            | error fault => rfl
            | ok data => exact Page.decode_alike alike table.pageSize data
          · simp only [inside, if_false]

end Table

namespace Tables

variable {tables others : Tables} {table other : Table} {id : PageId} {left number : Nat}

theorem mem_pagesRead (listed : id ∈ tables.pagesRead table left number) :
    ∃ place, number ≤ place ∧ place < number + left ∧ id = table.page (UInt32.ofNat place) := by
  induction left generalizing number with
  | zero => cases listed
  | succ left ih =>
      rw [pagesRead] at listed
      split at listed
      · cases listed
      · rcases List.mem_cons.mp listed with here | later
        · exact ⟨number, Nat.le_refl _, by omega, here⟩
        · obtain ⟨place, behind, within, same⟩ := ih later
          exact ⟨place, by omega, by omega, same⟩

theorem nodup_pagesRead (within : number + left ≤ 2 ^ 32) :
    (tables.pagesRead table left number).Nodup := by
  induction left generalizing number with
  | zero => exact List.nodup_nil
  | succ left ih =>
      rw [pagesRead]
      split
      · exact List.nodup_nil
      · refine List.nodup_cons.mpr ⟨fun listed => ?_, ih (by omega)⟩
        obtain ⟨place, behind, inside, same⟩ := mem_pagesRead listed
        have here := Table.page_ofNat_inj (by omega) (by omega) same
        omega

theorem mem_pagesScanned (listed : id ∈ tables.pagesScanned table) : id.table = table.id := by
  rw [pagesScanned] at listed
  split at listed
  · cases listed
  · obtain ⟨place, -, -, rfl⟩ := mem_pagesRead listed
    rfl

theorem nodup_pagesScanned (small : tables.count table.id < 2 ^ 32) :
    (tables.pagesScanned table).Nodup := by
  rw [pagesScanned]
  split
  · exact List.nodup_nil
  · exact nodup_pagesRead (by omega)

section

variable (same : other.id = table.id)
  (look : ∀ number, others.page (table.page number) = tables.page (table.page number))

include same

theorem page_congr (number : UInt32) : other.page number = table.page number := by
  rw [Table.page, same]
  rfl

include look

theorem pagesRead_congr (left number : Nat) :
    others.pagesRead other left number = tables.pagesRead table left number := by
  induction left generalizing number with
  | zero => rfl
  | succ left ih => rw [pagesRead, pagesRead, page_congr same, look, ih]

theorem rowsFrom_congr (left number : Nat) :
    others.rowsFrom other left number = tables.rowsFrom table left number := by
  induction left generalizing number with
  | zero => rfl
  | succ left ih => rw [rowsFrom, rowsFrom, page_congr same, look, ih]

theorem scan_congr (size : other.pageSize = table.pageSize)
    (count : others.count table.id = tables.count table.id) :
    others.pagesScanned other = tables.pagesScanned table ∧
      others.scan other = tables.scan table := by
  constructor
  · rw [pagesScanned, pagesScanned, size, same, count, pagesRead_congr same look]
  · rw [scan, scan, size, same, count, rowsFrom_congr same look]

end

end Tables

/-! ## Two scans -/

def Scanned.answer (scanned : Scanned) : List Entry × Option StoreError :=
  (scanned.rows.map Row.entry, scanned.error)

def Scan.answer (table : Table) (txn : TxnId) (store : Store) :
    Option (List Entry × Option StoreError) :=
  match (Scan.run table txn store).1 with
  | .finished scanned => some scanned.answer
  | .waiting _ => none

/-- The second answer is the first, or the first failed for a page that its file does not
take, after some of the rows of the second. -/
def Repeats (unwritable : SortedMap PageId String)
    (before after : List Entry × Option StoreError) : Prop :=
  after = before ∨
    (∃ place fault, unwritable.get? place = some fault ∧
      before.2 = some (.io (.other fault))) ∧ before.1 <+: after.1

theorem Repeats.of_ok {unwritable : SortedMap PageId String}
    {before after : List Entry × Option StoreError} (repeats : Repeats unwritable before after)
    (ok : before.2 = none) : after = before := by
  rcases repeats with same | ⟨⟨place, fault, -, failed⟩, -⟩
  · exact same
  · exact absurd (ok.symm.trans failed) nofun

namespace Store

variable {store after : Store} {table : Table} {schema : Schema} {txn later : TxnId}
  {line other : Line} {pages : List PageId} {last : Option StoreError} {scanned repeated : Scanned}

/-- If the second scan visits as many pages as the first, it answers as the first, or the
first was kept from its end. -/
theorem Scans.repeats (first : Scans store line pages last [] scanned)
    (second : Scans after other pages last [] repeated)
    (further : Line.visited store.stuck pages line <+: Line.visited after.stuck pages other)
    (rows : ∀ id ∈ pages, after.seen.rowsOf id = store.seen.rowsOf id) :
    Repeats store.unwritable scanned.answer repeated.answer := by
  have within : Line.visited after.stuck pages other <+: pages := Line.visited_prefix pages other
  have same : (Line.visited after.stuck pages other).flatMap after.seen.rowsOf =
      (Line.visited after.stuck pages other).flatMap store.seen.rowsOf :=
    List.flatMap_congr fun id visited => rows id (within.subset visited)
  have rowsOfFirst := first.rows
  have rowsOfSecond := second.rows
  rw [List.nil_append] at rowsOfFirst rowsOfSecond
  rw [same] at rowsOfSecond
  have errorOfFirst := first.error
  have errorOfSecond := second.error
  by_cases whole : Line.visited store.stuck pages line = pages
  · have also : Line.visited after.stuck pages other = pages :=
      within.eq_of_length_le (Nat.le_trans (congrArg List.length whole).ge further.length_le)
    rw [if_pos whole] at errorOfFirst
    rw [if_pos also] at errorOfSecond
    left
    rw [Scanned.answer, Scanned.answer, rowsOfFirst, rowsOfSecond, whole, also, errorOfFirst,
      errorOfSecond]
  · rw [if_neg whole] at errorOfFirst
    right
    refine ⟨errorOfFirst, ?_⟩
    obtain ⟨rest, more⟩ := further
    rw [Scanned.answer, Scanned.answer, rowsOfFirst, rowsOfSecond, ← more, List.flatMap_append]
    exact List.prefix_append _ _

/-- No scan of the table answers less after its pages have left the cache, if they look
as before. -/
theorem Lone.repeats (lone : store.Lone txn) (left : after.Lone later)
    (registered : store.catalog.tables.get? table.id = some table)
    (again : after.catalog.tables.get? table.id = some (table.relaid schema))
    (stuck : after.stuck = store.stuck)
    (line : after.line = store.line.without (decide <| ·.table = table.id))
    (moves : ∀ id, id.table = table.id → store.stuck id = false)
    (look : ∀ id, id.table = table.id → (after.pageState id).look = (store.pageState id).look)
    (count : table.wholePages after.disk = table.wholePages store.disk) :
    ∃ first second, Scan.answer table txn store = some first ∧
      Scan.answer (table.relaid schema) later after = some second ∧
      Repeats store.unwritable first second := by
  obtain ⟨scanned, got, run, scans⟩ := lone.scan registered
  have there : after.catalog.tables.get? (table.relaid schema).id = some (table.relaid schema) :=
    again
  obtain ⟨repeated, last, rerun, rescans⟩ := left.scan there
  refine ⟨scanned.answer, repeated.answer, by rw [Scan.answer, run], by rw [Scan.answer, rerun], ?_⟩
  have counts : after.seen.count table.id = store.seen.count table.id := by
    rw [count_seen registered, ← count]
    exact (count_seen there :)
  have same : after.seen.pagesScanned (table.relaid schema) = store.seen.pagesScanned table ∧
      after.seen.scan (table.relaid schema) = store.seen.scan table :=
    Tables.scan_congr rfl (fun number => look (table.page number) rfl) rfl counts
  rw [same.1, same.2] at rescans
  apply scans.repeats rescans
  -- The line without the table has more free places, so the second scan gets as far.
  · rw [stuck, line]
    apply Line.visited_without
    · apply Tables.nodup_pagesScanned
      rw [count_seen registered]
      exact lone.addressable _ _ registered
    · intro id listed
      exact decide_eq_true (Tables.mem_pagesScanned listed)
    · intro id own
      exact moves id (of_decide_eq_true own)
    · have spacious := lone.spacious
      simp only [Store.line]
      omega
  · intro id listed
    rw [Tables.rowsOf, Tables.rowsOf,
      show after.seen.page id = store.seen.page id from look id (Tables.mem_pagesScanned listed)]

end Store

namespace Usage

variable {usage : Usage} {id : TableId} {table : Table} {name other : String} {schema : Schema}
  {txn later : TxnId}

theorem Orderly.lone (orderly : usage.Orderly) (quiet : usage.Quiet) (dropped : usage.handles = [])
    (txn : TxnId) : usage.store.Lone txn where
  sound := orderly.sound
  addressable := orderly.addressable
  backed := orderly.backed
  accounted := dropped ▸ orderly.accounted
  spacious := orderly.spacious
  alone other id _ := quiet.2 other id

theorem line_of_empties {store after : Store} (accounted : store.Accounted [])
    (empties : Store.Empties store after id) :
    after.line = store.line.without (decide <| ·.table = id) := by
  have bounded : store.policy.order.length ≤ store.capacity := by
    rw [accounted.length_order]
    exact accounted.bounded
  have length := Line.length_without (decide <| ·.table = id) store.line
  have order : after.policy.order = (store.line.without (decide <| ·.table = id)).order := by
    rw [empties.order]
    refine List.filter_congr fun page _ => ?_
    simp only [ne_eq, decide_not]
  rw [Store.line, order, empties.capacity]
  simp only [Line.without, Store.line, Line.mk.injEq, and_true] at length ⊢
  omega

section

variable (orderly : usage.Orderly)
  (registered : usage.store.catalog.tables.get? table.id = some table)
  (empties : Store.Empties usage.store (usage.evicted table.id).store table.id)

include orderly registered empties

theorem Orderly.unused_closed
    (unnamed : (usage.closed table.id).store.catalog.id? other = none) (schema : Schema) :
    (usage.closed table.id).Unused (table.relaid schema).file (table.relaid schema).id other where
  unnamed := unnamed
  unregistered := (tables_closed empties table.id).trans (if_pos rfl)
  apart id own found := by
    obtain ⟨different, before⟩ := tables_of_closed empties found
    exact fun file => different (orderly.sound.catalog.files _ _ _ _ before registered file)
  addressable := by
    have numbered := empties.toContinues.addressable orderly.addressable
    have inside := numbered table.id table (empties.catalog ▸ registered)
    have size : table.pageSize = (usage.closed table.id).database.settings.pageSize :=
      (orderly.consistent.tables table.id table registered).2
    rw [← size]
    exact inside

theorem Orderly.look_reopened (alike : schema.alike table.schema = true)
    (unnamed : (usage.closed table.id).store.catalog.id? other = none) (id : PageId)
    (own : id.table = table.id) :
    (((usage.closed table.id).opened (table.relaid schema) other).store.pageState id).look =
      (usage.store.pageState id).look := by
  have unused := orderly.unused_closed registered empties unnamed schema
  have there := (tables_opened unused id.table).trans (if_pos own)
  have uncached := Store.cached?_of_missing (empties.own id own).1
  have absent : ((usage.closed table.id).opened (table.relaid schema) other).store.cached? id =
      none := uncached
  have before : (usage.evicted table.id).store.catalog.tables.get? id.table = some table := by
    rw [own, empties.catalog]
    exact registered
  rw [← empties.look, PageState.look_of_absent (Store.copy_of_uncached absent),
    PageState.look_of_absent (Store.copy_of_uncached uncached)]
  change Store.stored _ id = Store.stored _ id
  rw [Store.stored, Store.stored, Store.readPage_of_table there, Store.readPage_of_table before,
    ← Table.readPage_relaid alike]
  exact congrArg (Except.map Page.contents) (Table.readPage_touched table.file id)

theorem Orderly.reopens (quiet : usage.Quiet) (dropped : usage.handles = [])
    (later : (usage.closed table.id).Orderly) (alike : schema.alike table.schema = true)
    (unnamed : (usage.closed table.id).store.catalog.id? other = none) (txn next : TxnId) :
    ∃ first second, Scan.answer table txn usage.store = some first ∧
      Scan.answer (table.relaid schema) next
        ((usage.closed table.id).opened (table.relaid schema) other).store = some second ∧
      Repeats usage.store.unwritable first second := by
  have unused := orderly.unused_closed registered empties unnamed schema
  have again := later.opened unused (orderly.consistent.tables table.id table registered).2
    (orderly.plain table.id table registered)
  have calm : ((usage.closed table.id).opened (table.relaid schema) other).Quiet := by
    refine ⟨quiet.1, fun txn id => ?_⟩
    exact (congrArg (LockTable.mode? · txn id) empties.locks).trans (quiet.2 txn id)
  apply (orderly.lone quiet dropped txn).repeats (again.lone calm dropped next) registered
  · exact (tables_opened unused table.id).trans (if_pos rfl)
  · rw [← empties.stuck]
    funext id
    exact Store.stuck_congr rfl rfl
  · exact (line_of_empties (dropped ▸ orderly.accounted) empties :)
  · exact fun id own => (empties.own id own).2
  · exact orderly.look_reopened registered empties alike unnamed
  · rw [← empties.counts table.id table registered]
    exact Table.wholePages_touched table.file

end

/-- A table was closed.  Its pages have left the cache, and all others are in it as they
were.  When its file is opened again with rows of the same types, under whatever name, a
scan answers as one before. -/
structure Closes (usage : Usage) (name : String) (id : TableId) (table : Table)
    (after : Usage) : Prop where
  freed : after.store.catalog.id? name = none
  unregistered : after.store.catalog.tables.get? id = none
  dropped : ∀ page, page.table = id → after.store.frames.get? page = none
  kept : ∀ page, page.table ≠ id → after.store.frames.get? page = usage.store.frames.get? page
  reopens : ∀ schema other, schema.alike table.schema = true →
    after.store.catalog.id? other = none →
    let again := after.perform (.openTable table.file id schema other)
    again.store.catalog.tables.get? id = some (table.relaid schema) ∧
      ∀ txn later, ∃ first second, Scan.answer table txn usage.store = some first ∧
        Scan.answer (table.relaid schema) later again.store = some second ∧
        Repeats usage.store.unwritable first second

theorem Closes.repeated {usage after : Usage} {name other : String} {id : TableId} {table : Table}
    {schema : Schema} {txn : TxnId} {rows : List Entry}
    (closes : Closes usage name id table after) (alike : schema.alike table.schema = true)
    (unnamed : after.store.catalog.id? other = none)
    (ok : Scan.answer table txn usage.store = some (rows, none)) (later : TxnId) :
    Scan.answer (table.relaid schema) later
      (after.perform (.openTable table.file id schema other)).store = some (rows, none) := by
  obtain ⟨-, scans⟩ := closes.reopens schema other alike unnamed
  obtain ⟨first, second, one, two, repeats⟩ := scans txn later
  cases one.symm.trans ok
  rw [two, repeats.of_ok rfl]

/-- A table could not be closed: there is none of the name, or its file does not take one
of its pages.  All tables are still open, and the same pages are cached with the same
rows. -/
structure StaysOpen (usage : Usage) (name : String) (error : DatabaseError)
    (after : Usage) : Prop where
  catalog : after.store.catalog = usage.store.catalog
  pages : ∀ id, (after.store.cached? id).map Page.contents =
    (usage.store.cached? id).map Page.contents
  reason : (usage.store.catalog.id? name = none ∧ error = .noSuchName name) ∨
    ∃ page fault, usage.store.catalog.id? name = some page.table ∧
      usage.store.stuck page = true ∧ usage.store.unwritable.get? page = some fault ∧
      error = .flushing name (.io (.other fault))

theorem Orderly.perform_openTable (orderly : usage.Orderly)
    (registered : usage.store.catalog.tables.get? table.id = some table) (schema : Schema)
    (other : String) :
    (usage.closed table.id).perform (.openTable table.file table.id schema other) =
      (usage.closed table.id).opened (table.relaid schema) other := by
  have size := (orderly.consistent.tables table.id table registered).2
  rcases openTable_cases (usage.closed table.id) table.file table.id schema other with
    ⟨slash, -⟩ | ⟨-, opened⟩
  · exact absurd slash (orderly.plain table.id table registered)
  · rw [opened, Table.relaid, size]
    rfl

theorem Orderly.closes (orderly : usage.Orderly) (quiet : usage.Quiet)
    (dropped : usage.handles = []) (named : usage.store.catalog.id? name = some table.id)
    (registered : usage.store.catalog.tables.get? table.id = some table)
    (empties : Store.Empties usage.store (usage.evicted table.id).store table.id)
    (later : (usage.closed table.id).Orderly) :
    Closes usage name table.id table (usage.closed table.id) where
  freed := by
    rw [id?_closed empties, named]
    simp
  unregistered := (tables_closed empties table.id).trans (if_pos rfl)
  dropped page own := (empties.own page own).1
  kept := empties.frames
  reopens schema other alike unnamed := by
    have unused := orderly.unused_closed registered empties unnamed schema
    dsimp only
    rw [orderly.perform_openTable registered]
    exact ⟨(tables_opened unused table.id).trans (if_pos rfl),
      orderly.reopens registered empties quiet dropped later alike unnamed⟩

/-- A database is used with care, until no transaction is active and no page is pinned.
Then a table that is closed keeps its rows, and one that cannot be closed stays as it is. -/
theorem closed_table_keeps_its_rows {settings : Settings} (valid : settings.validate = .ok ())
    (disk : Disk) (errands : List Errand) (careful : (start settings disk).AllCareful errands)
    (quiet : ((start settings disk).run errands).Quiet)
    (dropped : ((start settings disk).run errands).handles = []) (name : String) :
    let usage := (start settings disk).run errands
    let after := usage.perform (.closeTable name)
    ((usage.database.closeTable name).1 = .ok () → ∃ id table,
      usage.store.catalog.id? name = some id ∧ usage.store.catalog.tables.get? id = some table ∧
        Closes usage name id table after) ∧
    ∀ error, (usage.database.closeTable name).1 = .error error →
      StaysOpen usage name error after := by
  intro usage after
  have orderly : usage.Orderly := (orderly_start valid disk).run careful
  have later : after.Orderly := orderly.closeTable quiet name
  rcases orderly.closeTable_cases quiet name with
    ⟨unnamed, answer, same⟩ | ⟨id, table, named, registered, ⟨empties, answer, same⟩ |
      ⟨page, fault, rfl, stuck, refused, flushes, answer, same⟩⟩
  · change after = _ at same
    rw [answer, same]
    refine ⟨nofun, fun error failed => ?_⟩
    cases failed
    exact ⟨rfl, fun _ => rfl, .inl ⟨unnamed, rfl⟩⟩
  · obtain ⟨rfl, -⟩ := orderly.consistent.tables id table registered
    change after = _ at same
    rw [answer, same]
    rw [same] at later
    exact ⟨fun _ => ⟨table.id, table, named, registered,
      orderly.closes quiet dropped named registered empties later⟩, nofun⟩
  · change after = _ at same
    rw [answer, same]
    refine ⟨nofun, fun error failed => ?_⟩
    cases failed
    exact ⟨flushes.catalog, flushes.contents, .inr ⟨page, fault, named, stuck, refused, rfl⟩⟩

/-- Two tables are open.  The row of a transaction could not be written when the
transaction committed, and could be now. -/
def rowLeftInCache : List Errand :=
  [.openTable "a" ⟨1⟩ Table.numbers.schema "t", .openTable "b" ⟨2⟩ Table.numbers.schema "u",
    .act (.call ⟨1⟩ (.insert ⟨1⟩ (.ofNumber 5))), .act (.advance ⟨1⟩),
    .act (.fault ((∅ : SortedMap PageId String).insert ⟨⟨1⟩, 0⟩ "full")), .act (.commit ⟨1⟩),
    .act (.fault ∅)]

theorem row_left_in_cache_is_kept :
    let usage := (start { pageSize := 8 } ∅).run rowLeftInCache
    let after := usage.perform (.closeTable "t")
    ({ pageSize := 8 } : Settings).validate = .ok () ∧
      (start { pageSize := 8 } ∅).AllCareful rowLeftInCache ∧ usage.Quiet ∧ usage.handles = [] ∧
      (usage.store.cached? ⟨⟨1⟩, 0⟩).map Page.dirtiedBy = some (some ⟨1⟩) ∧
      (usage.database.closeTable "t").1 = .ok () ∧
      ∃ id table, usage.store.catalog.id? "t" = some id ∧
        usage.store.catalog.tables.get? id = some table ∧ Closes usage "t" id table after := by
  intro usage after
  have valid : ({ pageSize := 8 } : Settings).validate = .ok () := by decide
  have careful : (start { pageSize := 8 } ∅).AllCareful rowLeftInCache := by decide +kernel
  have quiet : usage.Quiet := by decide +kernel
  have dropped : usage.handles = [] := by decide +kernel
  have dirty : (usage.store.cached? ⟨⟨1⟩, 0⟩).map Page.dirtiedBy = some (some ⟨1⟩) := by
    decide +kernel
  have done : (usage.database.closeTable "t").1 = .ok () := by decide +kernel
  exact ⟨valid, careful, quiet, dropped, dirty, done,
    (closed_table_keeps_its_rows valid ∅ rowLeftInCache careful quiet dropped "t").1 done⟩

/-- A file gets a row and is closed.  Another file, whose table has the same identity,
gets another row and stays open, and the first file is opened again. -/
def identityTakenOver : List Errand :=
  [.openTable "b" ⟨1⟩ Table.numbers.schema "u",
    .act (.call ⟨1⟩ (.insert ⟨1⟩ (.ofNumber 6))), .act (.advance ⟨1⟩), .act (.commit ⟨1⟩),
    .closeTable "u", .openTable "a" ⟨1⟩ Table.numbers.schema "t",
    .act (.call ⟨2⟩ (.insert ⟨1⟩ (.ofNumber 5))), .act (.advance ⟨2⟩), .act (.commit ⟨2⟩),
    .openTable "b" ⟨1⟩ Table.numbers.schema "u"]

/-- A scan before the table is closed answers the row of the other file, and one after it
is opened again that of its own. -/
theorem row_of_other_file_before_closing :
    let usage := (start { pageSize := 8 } ∅).run identityTakenOver
    let after := usage.perform (.closeTable "u")
    let again := after.perform (.openTable "b" ⟨1⟩ Table.numbers.schema "u")
    let table : Table := ⟨⟨1⟩, "b", Table.numbers.schema, 8⟩
    usage.Quiet ∧ usage.handles = [] ∧ usage.store.catalog.tables.get? ⟨1⟩ = some table ∧
      (usage.database.closeTable "u").1 = .ok () ∧
      Scan.answer table ⟨3⟩ usage.store =
        some ([(some ⟨⟨⟨1⟩, 0⟩, 0⟩, [.int 5])], none) ∧
      Scan.answer table ⟨4⟩ again.store = some ([(some ⟨⟨⟨1⟩, 0⟩, 0⟩, [.int 6])], none) ∧
      ¬ Closes usage "u" ⟨1⟩ table after := by
  intro usage after again table
  have before : Scan.answer table ⟨3⟩ usage.store =
      some ([(some ⟨⟨⟨1⟩, 0⟩, 0⟩, [.int 5])], none) := by decide +kernel
  have later : Scan.answer table ⟨4⟩ again.store =
      some ([(some ⟨⟨⟨1⟩, 0⟩, 0⟩, [.int 6])], none) := by decide +kernel
  refine ⟨by decide +kernel, by decide +kernel, by decide +kernel, by decide +kernel, before,
    later, fun closes => ?_⟩
  have alike : Table.numbers.schema.alike table.schema = true := by decide +kernel
  have laid : table.relaid Table.numbers.schema = table := rfl
  have reopened : again = after.perform (.openTable table.file ⟨1⟩ Table.numbers.schema "u") :=
    rfl
  -- The rest is not about how the database came to its state.
  clear_value usage after again table
  have repeated := closes.repeated alike closes.freed before ⟨4⟩
  rw [laid, ← reopened, later] at repeated
  exact absurd repeated (by decide)

end Usage

end TableStore
