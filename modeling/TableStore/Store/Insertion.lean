import TableStore.Store.Fetch

/-!
# Inserting rows

A row goes into the first page of its table with a free slot.  The pages that
the table has at the beginning are looked at one after the other, each under an
exclusive lock; if all are full, pages are appended until one has a free slot,
because another transaction may fill a new page first.
-/

set_option autoImplicit false

namespace TableStore

structure Insertion where
  table : Table
  row : Row
  /-- The pages before this number are looked at before one is appended. -/
  known : Nat
  request : PageRequest

structure Inserted where
  row : Row
  page : PageId

namespace Insertion

def askFor (table : Table) (txn : TxnId) (row : Row) (known : Nat) (page : PageId)
    (store : Store) : Insertion :=
  ⟨table, row, known, store.request txn page .exclusive⟩

def append (table : Table) (txn : TxnId) (row : Row) (store : Store) :
    Except StoreError Insertion × Store :=
  match table.allocatePage store.disk with
  | .error error => (.error error, store)
  | .ok (page, disk) =>
      let store := { store with disk }
      (.ok (askFor table txn row 0 page store), store)

def start (table : Table) (txn : TxnId) (row : Row) (store : Store) :
    Except StoreError Insertion × Store :=
  if row.schema.alike table.schema then
    match table.pageCount store.disk with
    | .error error => (.error error, store)
    | .ok count =>
        if 0 < count then
          (.ok (askFor table txn row count.toNat (table.page 0) store), store)
        else append table txn row store
  else (.error (.schemaMismatch (.tableSchema row.schema table.schema)), store)

def goOn (insertion : Insertion) (store : Store) : Except StoreError Insertion × Store :=
  let { table, row, known, request } := insertion
  let next := request.page.number.toNat + 1
  if next < known then
    (.ok (askFor table request.txn row known (table.page (UInt32.ofNat next)) store), store)
  else append table request.txn row store

def place (row : Row) (handle : Handle) (store : Store) :
    Option (Except StoreError Inserted) × Store :=
  match store.pageOf? handle with
  | none => (none, store)
  | some page =>
      if page.freeCount = 0 then (none, store)
      else
        match page.insert row with
        | .error error => (some (.error error), store)
        | .ok (page, placed) =>
            (some (.ok ⟨placed, page.id⟩),
              store.setPageOf handle (page.mark true handle.owner))

def step (insertion : Insertion) (store : Store) :
    Step Insertion (Except StoreError Inserted) × Store :=
  match store.attempt insertion.request with
  | (.waiting request, store) => (.waiting { insertion with request }, store)
  | (.finished (.error error), store) => (.finished (.error error), store)
  | (.finished (.ok handle), store) =>
      match place insertion.row handle store with
      | (some result, store) => (.finished result, store.unpin handle)
      | (none, store) =>
          match insertion.goOn (store.unpin handle) with
          | (.ok insertion, store) => (.again insertion, store)
          | (.error error, store) => (.finished (.error error), store)

def resume (insertion : Insertion) (store : Store) :
    Progress Insertion (Except StoreError Inserted) × Store :=
  Step.repeat step store.stepLimit insertion store

def run (table : Table) (txn : TxnId) (row : Row) (store : Store) :
    Progress Insertion (Except StoreError Inserted) × Store :=
  match start table txn row store with
  | (.error error, store) => (.finished (.error error), store)
  | (.ok insertion, store) => insertion.resume store

end Insertion

def Store.insert (store : Store) (txn : TxnId) (table : TableId) (row : Row) :
    Progress Insertion (Except StoreError Inserted) × Store :=
  match store.catalog.table table with
  | .error error => (.finished (.error error), store)
  | .ok table => Insertion.run table txn row store

end TableStore
