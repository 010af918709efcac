import TableStore.Store.Commit
import TableStore.Store.Deletion
import TableStore.Store.Insertion
import TableStore.Store.Scan

/-!
# Databases

A database opens and closes tables by name and hands out transactions.  Its
tables share one page size and one store.
-/

set_option autoImplicit false

namespace TableStore

inductive DatabaseError where
  | noSuchName (name : String)
  | opening (file : String) (error : StoreError)
  | flushing (name : String) (error : StoreError)
  | store (error : StoreError)
deriving DecidableEq, Repr

namespace DatabaseError

def cause? : DatabaseError → Option StoreError
  | noSuchName _ => none
  | opening _ error => some error
  | flushing _ error => some error
  | store error => some error

def chain : DatabaseError → List String
  | noSuchName name => ["Table '" ++ name ++ "' does not exist"]
  | opening file error => ("Failed to open table file " ++ file) :: error.chain
  | flushing name error => ("Failed to flush table '" ++ name ++ "'") :: error.chain
  | store error => error.chain

def message (error : DatabaseError) : String := ": ".intercalate error.chain

end DatabaseError

namespace Store

variable (store : Store)

/-- Opens a file as a table; a file that is missing is created empty.  All files
lie in one directory, so a name with a slash leads to none. -/
def openTable (file : String) (id : TableId) (schema : Schema) (pageSize : Nat) :
    Except StoreError (Table × Store) :=
  if '/' ∈ file.toList then .error (.io .noSuchPath)
  else
    let content := (store.disk.get? file).getD ∅
    .ok (⟨id, file, schema, pageSize⟩, { store with disk := store.disk.insert file content })

def register (table : Table) (name : String) : Store :=
  { store with catalog := store.catalog.add table name }

def unregister (id : TableId) : Option Table × Store :=
  let (table, catalog) := store.catalog.remove id
  (table, { store with catalog })

def allocate (table : Table) : Except StoreError PageId × Store :=
  match table.allocatePage store.disk with
  | .ok (page, disk) => (.ok page, { store with disk })
  | .error error => (.error error, store)

def writePage (table : Table) (page : Page) : Except StoreError Unit × Store :=
  match table.writePage store.disk page with
  | .ok disk => (.ok (), { store with disk })
  | .error error => (.error error, store)

def complete (txn : TxnId) (keep : Bool) : Except StoreError Unit × Store :=
  if keep then store.commit txn else store.abort txn

end Store

structure Database where
  settings : Settings
  store : Store
  txns : TxnSource := {}

namespace Database

def ofSettings (settings : Settings) (disk : Disk) : Database :=
  { settings, store := { disk, capacity := settings.poolPages } }

def create (settings : Settings) (disk : Disk) : Except DatabaseError Database :=
  match settings.validate with
  | .ok () => .ok (ofSettings settings disk)
  | .error error => .error (.store error)

variable (database : Database)

def openTable (file : String) (id : TableId) (schema : Schema) (name : String) :
    Except DatabaseError (Table × Database) :=
  match database.store.openTable file id schema database.settings.pageSize with
  | .error error => .error (.opening file error)
  | .ok (table, store) => .ok (table, { database with store := store.register table name })

def table (name : String) : Except DatabaseError Table :=
  match database.store.catalog.id? name with
  | none => .error (.noSuchName name)
  | some id =>
      match database.store.catalog.table id with
      | .ok table => .ok table
      | .error error => .error (.store error)

/-- Writes the pages of a table back, takes them out of the cache and takes the
table off the catalog.  Its file stays. -/
def closeTable (name : String) : Except DatabaseError Unit × Database :=
  match database.store.catalog.id? name with
  | none => (.error (.noSuchName name), database)
  | some id =>
      match database.store.evictTable id with
      | (.error error, store) => (.error (.flushing name error), { database with store })
      | (.ok (), store) => (.ok (), { database with store := (store.unregister id).2 })

def begin : TxnId × Database :=
  let (txn, txns) := database.txns.next
  (txn, { database with txns })

end Database

end TableStore
