import TableStore.Database
import TableStore.Text.Decimal

/-!
# The command line

One invocation works on one table file: it inserts a row, deletes the row at a
location, prints all rows, or prints statistics.  It runs in a transaction of
its own, which is committed if the invocation succeeds and rolled back if not.
Options and command are given as they were read from the arguments; only the
values of a row to be inserted are still words.
-/

set_option autoImplicit false

namespace TableStore.CommandLine

structure Options where
  path : String
  schema : Schema
  settings : Settings := {}
deriving Repr

inductive Command where
  | insert (values : List String)
  | delete (page : UInt32) (slot : UInt16)
  | scan
  | stats
deriving DecidableEq, Repr

/-- What an invocation leads to: output, and the messages from an error down to
its cause if there was one. -/
inductive Outcome where
  | output (text : String)
  | failure (text : String) (chain : List String)
deriving DecidableEq, Repr

/-- The file of an invocation: the name under which the disk has it, and the
identity of its table. -/
structure Target where
  file : String
  id : TableId
deriving DecidableEq, Repr

/-! ## Reading rows -/

def readValue (type : ColumnType) (text : String) : Except (List String) Value :=
  match type with
  | .text => .ok (.text text)
  | .int =>
      match Text.readDecimal (UInt32.size / 2) (UInt32.size / 2 - 1) text with
      | .ok n => .ok (.int (Int32.ofInt n))
      | .error fault => .error ["'" ++ text ++ "' is not an int", fault.message]

def readValues : List ColumnType → List String → Except (List String) (List Value)
  | type :: types, text :: texts => do
      let value ← readValue type text
      let values ← readValues types texts
      return value :: values
  | _, _ => .ok []

def readRow (schema : Schema) (values : List String) : Except (List String) Row :=
  if values.length ≠ schema.columns.length then
    .error ["expected " ++ toString schema.columns.length ++ " values for " ++
      schema.text ++ ", got " ++ toString values.length]
  else do
    let values ← readValues schema.types values
    match Row.make schema values with
    | .ok row => .ok row
    | .error error => .error error.chain

/-! ## Operations of a transaction that is alone -/

/-- The result of an operation that nobody can make wait. -/
def settled {σ α : Type} (txn : TxnId) :
    Progress σ (Except StoreError α) × Store → Except (List String) α × Store
  | (.finished (.ok value), store) => (.ok value, store)
  | (.finished (.error error), store) => (.error error.chain, store)
  | (.waiting _, store) => (.error (StoreError.deadlock txn).chain, store)

def findRow (location : Location) :
    (limit : Nat) → Cursor → Store → Except (List String) (Option Row) × Store
  | 0, _, store => (.ok none, store)
  | limit + 1, cursor, store =>
      match Seek.run cursor store with
      | (.waiting _, store) => (.error (StoreError.deadlock cursor.txn).chain, store)
      | (.finished ⟨.error error, _⟩, store) => (.error error.chain, store)
      | (.finished ⟨.ok false, _⟩, store) => (.ok none, store)
      | (.finished ⟨.ok true, cursor⟩, store) =>
          match cursor.buffered.find? fun row => decide (row.location = some location) with
          | some row => (.ok (some row), store)
          | none => findRow location limit { cursor with buffered := [] } store

def place (location : Location) : String :=
  toString location.page.number.toNat ++ ":" ++ toString location.slot.toNat

def rowLine (row : Row) : String :=
  match row.location with
  | some location => place location ++ "\t" ++ row.text ++ "\n"
  | none => ""

/-! ## Commands -/

/-- What a command prints, the error that ends it if there is one, and the store
after it. -/
structure Run where
  text : String
  error : Option (List String)
  store : Store

def insert (table : Table) (txn : TxnId) (values : List String) (store : Store) : Run :=
  match readRow table.schema values with
  | .error chain => ⟨"", some chain, store⟩
  | .ok row =>
      match settled txn (store.insert txn table.id row) with
      | (.error chain, store) => ⟨"", some chain, store⟩
      | (.ok inserted, store) =>
          let text := match inserted.row.location with
            | some location => "inserted at " ++ place location ++ "\n"
            | none => ""
          ⟨text, none, store⟩

def delete (table : Table) (txn : TxnId) (location : Location) (store : Store) : Run :=
  match findRow location store.stepLimit { table, txn } store with
  | (.error chain, store) => ⟨"", some chain, store⟩
  | (.ok none, store) => ⟨"", some ["no row at " ++ place location], store⟩
  | (.ok (some row), store) =>
      match settled txn (store.delete txn row) with
      | (.error chain, store) => ⟨"", some chain, store⟩
      | (.ok _, store) => ⟨"deleted " ++ place location ++ "\n", none, store⟩

def items (table : Table) (txn : TxnId) (store : Store) : Scanned × Store :=
  match Scan.run table txn store with
  | (.finished items, store) => (items, store)
  | (.waiting scan, store) => (⟨scan.rows, some (.deadlock txn)⟩, store)

def scan (table : Table) (txn : TxnId) (store : Store) : Run :=
  let (items, store) := items table txn store
  ⟨String.join (items.rows.map rowLine), items.error.map StoreError.chain, store⟩

def stats (path : String) (table : Table) (txn : TxnId) (store : Store) : Run :=
  let (items, store) := items table txn store
  match items.error with
  | some error => ⟨"", some error.chain, store⟩
  | none =>
      let width := table.schema.rowWidth
      let head := "table:          " ++ path ++ "\n" ++
        "schema:         " ++ table.schema.text ++ "\n" ++
        "row width:      " ++ toString width ++ " bytes\n"
      match table.pageCount store.disk with
      | .error error => ⟨head, some error.chain, store⟩
      | .ok count =>
          ⟨head ++ "pages:          " ++ toString count.toNat ++ "\n" ++
            "slots per page: " ++ toString (Page.slotsPerPage table.pageSize width) ++ "\n" ++
            "rows:           " ++ toString items.rows.length ++ "\n" ++
            "cached pages:   " ++ toString store.cachedCount ++ "\n", none, store⟩

def Command.run (command : Command) (path : String) (table : Table) (txn : TxnId)
    (store : Store) : Run :=
  match command with
  | .insert values => CommandLine.insert table txn values store
  | .delete page slot => CommandLine.delete table txn ⟨table.page page, slot⟩ store
  | .scan => CommandLine.scan table txn store
  | .stats => CommandLine.stats path table txn store

def transact (command : Command) (path : String) (table : Table) (database : Database) :
    Outcome × Store :=
  let (txn, database) := database.begin
  let run := command.run path table txn database.store
  match run.error with
  | some chain => (.failure run.text chain, (run.store.abort txn).2)
  | none =>
      match run.store.commit txn with
      | (.ok (), store) => (.output run.text, store)
      | (.error error, store) => (.failure run.text error.chain, store)

/-- One invocation.  Answers the files as they are after it. -/
def invoke (options : Options) (target : Target) (command : Command) (disk : Disk) :
    Outcome × Disk :=
  match options.settings.validate with
  | .error error => (.failure "" error.chain, disk)
  | .ok () =>
      let database := Database.ofSettings options.settings disk
      match database.openTable target.file target.id options.schema "main" with
      | .error error => (.failure "" error.chain, disk)
      | .ok (table, database) =>
          let (outcome, store) := transact command options.path table database
          (outcome, store.disk)

/-! ## Errors as they are printed -/

/-- The causes of an error on lines of their own, numbered if there are
several. -/
def causeLines (causes : List String) : String :=
  match causes with
  | [cause] => "    " ++ cause ++ "\n"
  | _ => String.join (causes.zipIdx.map fun (cause, index) =>
      String.ofList (List.replicate (5 - (toString index).length) ' ') ++ toString index ++
        ": " ++ cause ++ "\n")

def errorText (chain : List String) : String :=
  match chain with
  | [] => "Error: \n"
  | [message] => "Error: " ++ message ++ "\n"
  | message :: causes => "Error: " ++ message ++ "\n\nCaused by:\n" ++ causeLines causes

end TableStore.CommandLine
