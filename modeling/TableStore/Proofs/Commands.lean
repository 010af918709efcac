import TableStore.Proofs.Seeks

/-!
# Commands of an invocation

What an invocation prints, and what it does to the rows of its table, follows from
the inventory of the table alone.  A command that fails changes no row.
-/

set_option autoImplicit false

namespace TableStore

namespace CommandLine

/-! ## Rows in words -/

/-- The words stand for the values: a text for itself, unless it is too long, and
digits for a number. -/
inductive Spells : List ColumnType → List String → List Value → Prop
  | nil : Spells [] [] []
  | text {word : String} {types : List ColumnType} {words : List String} {values : List Value}
      (short : word.utf8ByteSize ≤ textLimit) (others : Spells types words values) :
      Spells (.text :: types) (word :: words) (.text word :: values)
  | int {word : String} {number : Int} {types : List ColumnType} {words : List String}
      {values : List Value}
      (read : Text.readDecimal (UInt32.size / 2) (UInt32.size / 2 - 1) word = .ok number)
      (others : Spells types words values) :
      Spells (.int :: types) (word :: words) (.int (Int32.ofInt number) :: values)

def allFit (types : List ColumnType) (values : List Value) : Bool :=
  values.length = types.length && (values.zip types).all fun (value, type) => value.fits type

theorem Spells.read {types : List ColumnType} {words : List String} {values : List Value}
    (spells : Spells types words values) :
    words.length = types.length ∧ readValues types words = .ok values ∧
      allFit types values = true := by
  induction spells with
  | nil => exact ⟨rfl, rfl, rfl⟩
  | text short others ih =>
      obtain ⟨length, read, fit⟩ := ih
      refine ⟨by simp [length], ?_, ?_⟩
      · simp only [readValues, readValue, read, bind, Except.bind, pure, Except.pure]
      · simp_all [allFit, Value.fits]
  | int number others ih =>
      obtain ⟨length, read, fit⟩ := ih
      refine ⟨by simp [length], ?_, ?_⟩
      · simp only [readValues, readValue, number, read, bind, Except.bind, pure, Except.pure]
      · simp_all [allFit, Value.fits]

theorem spells_of_read {types : List ColumnType} {words : List String} {values : List Value}
    (length : words.length = types.length) (read : readValues types words = .ok values)
    (fit : allFit types values = true) : Spells types words values := by
  induction types generalizing words values with
  | nil =>
      cases List.eq_nil_of_length_eq_zero length
      cases read
      exact .nil
  | cons type types ih =>
      obtain ⟨word, words, rfl⟩ := List.exists_cons_of_length_eq_add_one length
      simp only [readValues, bind, Except.bind] at read
      split at read
      · cases read
      · next value first =>
          split at read
          · cases read
          · next values others =>
              cases read
              have rest : allFit types values = true := by simp_all [allFit]
              have later := ih (by simpa using length) others rest
              cases type with
              | text =>
                  cases first
                  refine .text ?_ later
                  simp_all [allFit, Value.fits]
              | int =>
                  simp only [readValue] at first
                  split at first
                  · next number parsed =>
                      cases first
                      exact .int parsed later
                  · cases first

section

variable {schema : Schema} {words : List String} {row : Row} {values : List Value}

theorem readRow_ok (read : readRow schema words = .ok row) :
    row.schema = schema ∧ Spells schema.types words row.values := by
  rw [readRow] at read
  split at read
  · cases read
  · next length =>
      have columns : words.length = schema.types.length := by
        rw [Schema.types, List.length_map]
        exact Decidable.not_not.mp length
      simp only [bind, Except.bind] at read
      split at read
      · cases read
      · next values parsed =>
          rw [Row.make] at read
          split at read
          · next made =>
              split at made
              · next accepted =>
                  cases made
                  cases read
                  exact ⟨rfl, spells_of_read columns parsed accepted⟩
              · cases made
          · cases read

theorem readRow_error {chain : List String} (read : readRow schema words = .error chain) :
    ¬Spells schema.types words values := by
  intro spells
  obtain ⟨length, parsed, fit⟩ := spells.read
  have columns : ¬words.length ≠ schema.columns.length := by
    rw [length, Schema.types, List.length_map]
    exact fun wrong => wrong rfl
  have accepted : schema.accepts values = true := fit
  rw [readRow, if_neg columns] at read
  simp only [parsed, bind, Except.bind, Row.make, accepted, dif_pos] at read
  cases read

end

/-! ## What a command answers -/

def named (table : Table) (page : UInt32) (slot : UInt16) : Location := ⟨table.page page, slot⟩

def listing (inventory : Inventory) : String :=
  String.join (inventory.entries.map fun (location, values) =>
    place location ++ "\t" ++ "\t".intercalate (values.map Value.render) ++ "\n")

def statistics (path : String) (table : Table) (pages rows cached : Nat) : String :=
  "table:          " ++ path ++ "\n" ++
    "schema:         " ++ table.schema.text ++ "\n" ++
    "row width:      " ++ toString table.schema.rowWidth ++ " bytes\n" ++
    "pages:          " ++ toString pages ++ "\n" ++
    "slots per page: " ++
      toString (Page.slotsPerPage table.pageSize table.schema.rowWidth) ++ "\n" ++
    "rows:           " ++ toString rows ++ "\n" ++
    "cached pages:   " ++ toString cached ++ "\n"

/-- What a command answers on a table with the rows of an inventory, and which rows
the table has then. -/
inductive Answers (path : String) (table : Table) (inventory : Inventory) :
    Command → Outcome → Inventory → Prop
  | inserted {words : List String} {values : List Value} {location : Location}
      (spells : Spells table.schema.types words values)
      (own : location.page.table = table.id) (free : inventory.get? location = none) :
      Answers path table inventory (.insert words)
        (.output ("inserted at " ++ place location ++ "\n"))
        (inventory.insert location values)
  | rejected {words chain : List String}
      (wrong : ∀ values, ¬Spells table.schema.types words values)
      (read : readRow table.schema words = .error chain) :
      Answers path table inventory (.insert words) (.failure "" chain) inventory
  /-- No page of such a table fits into memory. -/
  | unbuffered {words : List String} (long : PageFile.bufferLimit ≤ table.pageSize) :
      Answers path table inventory (.insert words)
        (.failure "" (StoreError.io .noBuffer).chain) inventory
  | deleted {page : UInt32} {slot : UInt16} {values : List Value}
      (found : inventory.get? (named table page slot) = some values) :
      Answers path table inventory (.delete page slot)
        (.output ("deleted " ++ place (named table page slot) ++ "\n"))
        (inventory.erase (named table page slot))
  | missing {page : UInt32} {slot : UInt16} (free : inventory.get? (named table page slot) = none) :
      Answers path table inventory (.delete page slot)
        (.failure "" ["no row at " ++ place (named table page slot)]) inventory
  | scanned : Answers path table inventory .scan (.output (listing inventory)) inventory
  | counted (pages cached : Nat) :
      Answers path table inventory .stats
        (.output (statistics path table pages inventory.size cached)) inventory

def Run.outcome (run : Run) : Outcome :=
  match run.error with
  | none => .output run.text
  | some chain => .failure run.text chain

/-- A command leads to a store that sees the later tables.  If it fails, these are the
tables from before, and a rollback returns to them. -/
structure Run.Leads (run : Run) (txn : TxnId) (store : Store) (tables later : Tables) : Prop where
  serial : run.store.Serial txn [] later
  catalog : run.store.catalog = store.catalog
  failed : run.error ≠ none → later = tables ∧ Store.Served txn store tables run.store tables

def Run.Works (run : Run) (command : Command) (path : String) (txn : TxnId) (store : Store)
    (tables : Tables) (table : Table) (inventory : Inventory) : Prop :=
  ∃ later rest, Answers path table inventory command run.outcome rest ∧
    run.Leads txn store tables later ∧ later.Holds table rest

variable {store : Store} {txn : TxnId} {tables : Tables} {table : Table} {inventory : Inventory}

theorem Run.leads_of_same {run : Run} (served : Store.Served txn store tables run.store tables) :
    run.Leads txn store tables tables :=
  ⟨served.serial, served.catalog, fun _ => ⟨rfl, served⟩⟩

theorem Run.leads_of_success {run : Run} {later : Tables} (succeeded : run.error = none)
    (serial : run.store.Serial txn [] later) (catalog : run.store.catalog = store.catalog) :
    run.Leads txn store tables later :=
  ⟨serial, catalog, fun failed => absurd succeeded failed⟩

/-! ## Listings -/

theorem listing_of_rows {rows : List Row} (same : rows.map Row.entry = inventory.list) :
    String.join (rows.map rowLine) = listing inventory := by
  have lines : rows.map rowLine = (rows.map Row.entry).map fun entry =>
      entry.1.elim "" fun location =>
        place location ++ "\t" ++ "\t".intercalate (entry.2.map Value.render) ++ "\n" := by
    rw [List.map_map]
    apply List.map_congr_left
    intro row _
    rw [rowLine, Function.comp, Row.entry]
    cases row.location <;> rfl
  rw [lines, same, Inventory.list, List.map_map, listing]
  rfl

/-! ## Commands of a transaction that is alone -/

section

variable {values : List String} {row : Row} {after : Store}
  (read : readRow table.schema values = .ok row)
  (registered : store.catalog.tables.get? table.id = some table)

include read registered

theorem insert_of_success {inserted : Inserted} {location : Location}
    (run : Insertion.run table txn row store = (.finished (.ok inserted), after))
    (placed : inserted.row.location = some location) :
    insert table txn values store = ⟨"inserted at " ++ place location ++ "\n", none, after⟩ := by
  simp only [insert, read, Store.insert, Catalog.table, registered, run, settled, placed]

theorem insert_of_failure {error : StoreError}
    (run : Insertion.run table txn row store = (.finished (.error error), after)) :
    insert table txn values store = ⟨"", some error.chain, after⟩ := by
  simp only [insert, read, Store.insert, Catalog.table, registered, run, settled]

end

section

variable (begun : store.Serial txn [] tables)
  (registered : store.catalog.tables.get? table.id = some table)
  (holds : tables.Holds table inventory)

include begun registered holds

theorem insert_works (path : String) (values : List String)
    (roomy : store.Roomy) :
    (insert table txn values store).Works (.insert values) path txn store tables table
      inventory := by
  cases read : readRow table.schema values with
  | error chain =>
      refine ⟨tables, inventory, ?_, ?_, holds⟩
      · rw [insert, read]
        exact .rejected (fun _ => readRow_error read) read
      · rw [insert, read]
        exact Run.leads_of_same (begun.served begun.passed)
  | ok row =>
      obtain ⟨schema, spells⟩ := readRow_ok read
      have alike : row.schema.alike table.schema = true := by rw [schema, Schema.alike_iff]
      have small : tables.count table.id + 1 < 2 ^ 32 := by
        rw [← begun.count _ _ registered]
        exact roomy _ _ registered
      obtain ⟨result, after, run, entry, served⟩ := begun.insert registered roomy row
      by_cases unbuffered : tables.Unbuffered table
      · rw [holds.insert_of_unbuffered unbuffered alike] at entry served
        cases result with
        | ok put => cases entry
        | error error =>
            obtain rfl : error = .io .noBuffer := Except.error.inj entry
            have done := insert_of_failure read registered run
            refine ⟨tables, inventory, ?_, ?_, holds⟩
            · rw [done]
              exact .unbuffered unbuffered.1
            · rw [done]
              exact Run.leads_of_same served
      · obtain ⟨location, later, inserted, adds⟩ := holds.insert small unbuffered alike
        rw [inserted] at entry served
        cases result with
        | error error => cases entry
        | ok put =>
            have placed : put.row.location = some location :=
              congrArg Prod.fst (Except.ok.inj entry)
            have done := insert_of_success read registered run placed
            refine ⟨later, _, ?_, ?_, adds.holds⟩
            · rw [done]
              exact .inserted spells adds.own adds.free
            · rw [done]
              exact Run.leads_of_success rfl served.serial served.catalog

theorem delete_works (path : String) (page : UInt32) (slot : UInt16) :
    (delete table txn (named table page slot) store).Works (.delete page slot) path txn store
      tables table inventory := by
  obtain ⟨found, middle, search, entry, passed⟩ :=
    begun.findRow registered holds (named table page slot)
  cases there : inventory.get? (named table page slot) with
  | none =>
      rw [there] at entry
      cases Option.map_eq_none_iff.mp entry
      refine ⟨tables, inventory, ?_, ?_, holds⟩
      · simp only [delete, search]
        exact .missing there
      · simp only [delete, search]
        exact Run.leads_of_same (begun.served passed)
  | some values =>
      rw [there] at entry
      obtain ⟨row, rfl, here⟩ := Option.map_eq_some_iff.mp entry
      have placed : row.location = some (named table page slot) := congrArg Prod.fst here
      have own : (named table page slot).page.table = table.id := rfl
      have known : middle.catalog.tables.get? table.id = some table :=
        passed.ages.catalog ▸ registered
      obtain ⟨after, run, served⟩ := passed.serial.delete known placed own
      obtain ⟨later, deleted, rest⟩ := holds.delete (begun.small registered) there
      rw [deleted] at run served
      have done : delete table txn (named table page slot) store =
          ⟨"deleted " ++ place (named table page slot) ++ "\n", none, after⟩ := by
        simp only [delete, search, Store.delete, placed, own, Catalog.table, known, run, settled]
      refine ⟨later, _, ?_, ?_, rest⟩
      · rw [done]
        exact .deleted there
      · rw [done]
        exact Run.leads_of_success rfl served.serial (served.catalog.trans passed.ages.catalog)

theorem items_eq : ∃ scanned after, items table txn store = (scanned, after) ∧
    scanned.rows.map Row.entry = inventory.list ∧ scanned.error = none ∧
    Store.Served txn store tables after tables := by
  obtain ⟨scanned, after, run, same, served⟩ := begun.scan registered
  rw [holds.scan (begun.small registered)] at same
  refine ⟨scanned, after, ?_, congrArg Prod.fst same, congrArg Prod.snd same, served⟩
  simp only [items, run]

theorem scan_works (path : String) :
    (scan table txn store).Works .scan path txn store tables table inventory := by
  obtain ⟨scanned, after, run, rows, error, served⟩ := items_eq begun registered holds
  have done : scan table txn store = ⟨listing inventory, none, after⟩ := by
    simp only [scan, run, error, listing_of_rows rows, Option.map_none]
  refine ⟨tables, inventory, ?_, ?_, holds⟩
  · rw [done]
    exact .scanned
  · rw [done]
    exact Run.leads_of_same served

theorem stats_works (path : String) :
    (stats path table txn store).Works .stats path txn store tables table inventory := by
  obtain ⟨scanned, after, run, rows, error, served⟩ := items_eq begun registered holds
  have length : scanned.rows.length = inventory.size := by
    have lengths := congrArg List.length rows
    rw [List.length_map, Inventory.list, List.length_map] at lengths
    exact lengths
  have done : stats path table txn store =
      ⟨statistics path table (UInt32.ofNat (table.wholePages after.disk)).toNat inventory.size
        after.cachedCount, none, after⟩ := by
    simp only [stats, run, error, Table.pageCount_eq holds.sized, length]
    unfold statistics
    rfl
  refine ⟨tables, inventory, ?_, ?_, holds⟩
  · rw [done]
    exact .counted _ _
  · rw [done]
    exact Run.leads_of_same served

end

end CommandLine

end TableStore
