import TableStore.Store.Fetch

/-!
# Deleting rows

A row is removed from the page that its location names, under an exclusive
lock.
-/

set_option autoImplicit false

namespace TableStore

structure Deletion where
  row : Row
  request : PageRequest

namespace Deletion

def start (table : Table) (txn : TxnId) (row : Row) (store : Store) :
    Except StoreError Deletion :=
  match row.location with
  | none => .error (.rowNotFound .unplaced)
  | some location =>
      if location.page.table = table.id then do
        let count ← table.pageCount store.disk
        if location.page.number < count then
          return ⟨row, store.request txn location.page .exclusive⟩
        else .error (.rowNotFound (.outside location table.id))
      else .error (.rowNotFound (.outside location table.id))

def remove (row : Row) (handle : Handle) (store : Store) :
    Except StoreError PageId × Store :=
  match store.pageOf? handle with
  | none => (.error (.notOnPage handle.page row.location), store)
  | some page =>
      match page.delete row with
      | .error error => (.error error, store)
      | .ok page => (.ok page.id, store.setPageOf handle (page.mark true handle.owner))

def resume (deletion : Deletion) (store : Store) :
    Progress Deletion (Except StoreError PageId) × Store :=
  match store.attempt deletion.request with
  | (.waiting request, store) => (.waiting { deletion with request }, store)
  | (.finished (.error error), store) => (.finished (.error error), store)
  | (.finished (.ok handle), store) =>
      let (result, store) := remove deletion.row handle store
      (.finished result, store.unpin handle)

def run (table : Table) (txn : TxnId) (row : Row) (store : Store) :
    Progress Deletion (Except StoreError PageId) × Store :=
  match start table txn row store with
  | .error error => (.finished (.error error), store)
  | .ok deletion => deletion.resume store

end Deletion

def Store.delete (store : Store) (txn : TxnId) (row : Row) :
    Progress Deletion (Except StoreError PageId) × Store :=
  match row.location with
  | none => (.finished (.error (.rowNotFound .unplaced)), store)
  | some location =>
      match store.catalog.table location.page.table with
      | .error error => (.finished (.error error), store)
      | .ok table => Deletion.run table txn row store

end TableStore
