import TableStore.Proofs.Operations
import TableStore.Store.Commit

/-!
# Plain tables

Tables as a transaction sees them that is alone: without a cache, without locks
and without files.  Every page has contents, and contents that a rollback returns
to.  A row goes into the first free slot of its table, and a new page is appended
if there is none.
-/

set_option autoImplicit false

namespace TableStore

abbrev Entry := Option Location × List Value

/-! ## Programs -/

inductive Request where
  | insert (table : TableId) (row : Row)
  | delete (row : Row)
  | scan (table : TableId)

/-- The requests of a transaction, one after the other, and how it ends. -/
structure Script where
  txn : TxnId
  requests : List Request
  commits : Bool

inductive Reply where
  | inserted (result : Except StoreError Entry)
  | deleted (result : Except StoreError PageId)
  | scanned (rows : List Entry) (error : Option StoreError)
  | ended (result : Except StoreError Unit)
  | waiting

/-! ## Tables -/

/-- The contents of the pages, those that a rollback returns to, and how many
pages each table has. -/
structure Tables where
  page : PageId → Except StoreError Contents
  settled : PageId → Except StoreError Contents
  count : TableId → Nat

namespace Tables

variable (tables : Tables)

def edit (contents : Contents) (change : Change) : Tables :=
  { tables with page := fun id =>
      if id = change.page then .ok (change.apply contents) else tables.page id }

def next (table : Table) : PageId := table.page (UInt32.ofNat (tables.count table.id))

def grow (table : Table) : Tables :=
  let blank := (Page.empty (tables.next table) table.schema table.pageSize).map Page.contents
  { page := fun id => if id = tables.next table then blank else tables.page id
    settled := fun id => if id = tables.next table then blank else tables.settled id
    count := fun id => if id = table.id then tables.count id + 1 else tables.count id }

def put (id : PageId) (slot : Nat) (values : List Value) (contents : Contents) :
    Except StoreError Entry × Tables :=
  (.ok (some ⟨id, UInt16.ofNat slot⟩, values), tables.edit contents ⟨id, slot, some values⟩)

def Unbuffered (table : Table) : Prop :=
  PageFile.bufferLimit ≤ table.pageSize ∧ tables.count table.id = 0

instance (table : Table) : Decidable (tables.Unbuffered table) :=
  inferInstanceAs (Decidable (_ ∧ _))

def putBehind (table : Table) (values : List Value) : Except StoreError Entry × Tables :=
  if tables.Unbuffered table then (.error (.io .noBuffer), tables)
  else
    match (tables.grow table).page (tables.next table) with
    | .error error => (.error error, tables.grow table)
    | .ok contents => (tables.grow table).put (tables.next table) 0 values contents

/-- Puts a row into the first free slot of the pages from a number on, of which
so many are left. -/
def putFrom (table : Table) (values : List Value) :
    (left number : Nat) → Except StoreError Entry × Tables
  | 0, _ => tables.putBehind table values
  | left + 1, number =>
      let id := table.page (UInt32.ofNat number)
      match tables.page id with
      | .error error => (.error error, tables)
      | .ok contents =>
          match contents.findIdx? Option.isNone with
          | some slot => tables.put id slot values contents
          | none => putFrom table values left (number + 1)

def insert (table : Table) (row : Row) : Except StoreError Entry × Tables :=
  if row.schema.alike table.schema then
    if table.pageSize = 0 then (.error (.io .zeroPageSize), tables)
    else tables.putFrom table row.values (tables.count table.id) 0
  else (.error (.schemaMismatch (.tableSchema row.schema table.schema)), tables)

def delete (table : Table) (location : Location) : Except StoreError PageId × Tables :=
  if table.pageSize = 0 then (.error (.io .zeroPageSize), tables)
  else if location.page.number.toNat < tables.count table.id then
    match tables.page location.page with
    | .error error => (.error error, tables)
    | .ok contents =>
        match contents[location.slot.toNat]? with
        | some (some _) =>
            (.ok location.page, tables.edit contents ⟨location.page, location.slot.toNat, none⟩)
        | _ => (.error (.notOnPage location.page (some location)), tables)
  else (.error (.rowNotFound (.outside location table.id)), tables)

/-- The rows of the pages from a number on, of which so many are left, and the
error that ended the scan, if one did. -/
def rowsFrom (table : Table) : (left number : Nat) → List Entry × Option StoreError
  | 0, _ => ([], none)
  | left + 1, number =>
      let id := table.page (UInt32.ofNat number)
      match tables.page id with
      | .error error => ([], some error)
      | .ok contents =>
          let (rows, error) := rowsFrom table left (number + 1)
          (contents.rows id ++ rows, error)

def scan (table : Table) : List Entry × Option StoreError :=
  if table.pageSize = 0 then ([], some (.io .zeroPageSize))
  else tables.rowsFrom table (tables.count table.id) 0

def serve (catalog : Catalog) : Request → Reply × Tables
  | .insert id row =>
      match catalog.table id with
      | .error error => (.inserted (.error error), tables)
      | .ok table =>
          let (result, tables) := tables.insert table row
          (.inserted result, tables)
  | .delete row =>
      match row.location with
      | none => (.deleted (.error (.rowNotFound .unplaced)), tables)
      | some location =>
          match catalog.table location.page.table with
          | .error error => (.deleted (.error error), tables)
          | .ok table =>
              let (result, tables) := tables.delete table location
              (.deleted result, tables)
  | .scan id =>
      match catalog.table id with
      | .error error => (.scanned [] (some error), tables)
      | .ok table =>
          let (rows, error) := tables.scan table
          (.scanned rows error, tables)

def serveEach (catalog : Catalog) (tables : Tables) : List Request → List Reply × Tables
  | [] => ([], tables)
  | request :: requests =>
      let (reply, tables) := tables.serve catalog request
      let (replies, tables) := serveEach catalog tables requests
      (reply :: replies, tables)

def finish (commits : Bool) : Tables :=
  if commits then { tables with settled := tables.page }
  else { tables with page := tables.settled }

def work (catalog : Catalog) (script : Script) : List Reply × Tables :=
  let (replies, tables) := tables.serveEach catalog script.requests
  (replies ++ [.ended (.ok ())], tables.finish script.commits)

def workEach (catalog : Catalog) (tables : Tables) : List Script → List Reply × Tables
  | [] => ([], tables)
  | script :: scripts =>
      let (replies, tables) := tables.work catalog script
      let (others, tables) := workEach catalog tables scripts
      (replies ++ others, tables)

end Tables

/-! ## The same programs on a store -/

namespace Store

def tables (store : Store) : Tables where
  page id := (store.pageState id).look
  settled id := (store.pageState id).look
  count id :=
    match store.catalog.tables.get? id with
    | some table => table.wholePages store.disk
    | none => 0

def serve (txn : TxnId) (store : Store) : Request → Reply × Store
  | .insert id row =>
      match store.insert txn id row with
      | (.finished result, store) => (.inserted (result.map fun inserted => inserted.row.entry), store)
      | (.waiting _, store) => (.waiting, store)
  | .delete row =>
      match store.delete txn row with
      | (.finished result, store) => (.deleted result, store)
      | (.waiting _, store) => (.waiting, store)
  | .scan id =>
      match store.catalog.table id with
      | .error error => (.scanned [] (some error), store)
      | .ok table =>
          match Scan.run table txn store with
          | (.finished scanned, store) => (.scanned (scanned.rows.map Row.entry) scanned.error, store)
          | (.waiting _, store) => (.waiting, store)

def serveEach (txn : TxnId) : Store → List Request → List Reply × Store
  | store, [] => ([], store)
  | store, request :: requests =>
      let (reply, store) := store.serve txn request
      let (replies, store) := serveEach txn store requests
      (reply :: replies, store)

def finish (store : Store) (txn : TxnId) (commits : Bool) : Except StoreError Unit × Store :=
  if commits then store.commit txn else store.abort txn

def work (store : Store) (script : Script) : List Reply × Store :=
  let (replies, store) := store.serveEach script.txn script.requests
  let (result, store) := store.finish script.txn script.commits
  (replies ++ [.ended result], store)

def workEach : Store → List Script → List Reply × Store
  | store, [] => ([], store)
  | store, script :: scripts =>
      let (replies, store) := store.work script
      let (others, store) := workEach store scripts
      (replies ++ others, store)

end Store

end TableStore
