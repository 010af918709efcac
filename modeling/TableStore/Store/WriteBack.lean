import TableStore.Store

/-!
# Writing back

A page that a transaction changed is written to the file of its table, and then
counts as unchanged.  A page whose write fails stays as it is.
-/

set_option autoImplicit false

namespace TableStore.Store

variable (store : Store)

/-- Writes a page back if it was changed.  Answers the page as unchanged; its
place in the cache is up to the caller. -/
def writeBack (page : Page) : Except StoreError (Page × Store) :=
  match page.dirtiedBy with
  | none => .ok (page, store)
  | some txn => do
      let table ← store.catalog.table page.id.table
      let disk ← table.writePage store.disk page
      match store.unwritable.get? page.id with
      | some fault => .error (.io (.other fault))
      | none =>
          return (page.mark false txn,
            { store with disk, unflushed := store.unflushed.erase page.id })

/-- Writes one cached page back.  What a rollback returns to stays the same. -/
def flushPage (id : PageId) : Except StoreError Unit × Store :=
  match store.cached? id with
  | none => (.ok (), store)
  | some page =>
      match store.writeBack page with
      | .ok (page, store) => (.ok (), store.setPage page)
      | .error error => (.error error, store)

def flushEach : List PageId → Store → Except StoreError Unit × Store
  | [], store => (.ok (), store)
  | id :: ids, store =>
      match store.flushPage id with
      | (.ok (), store) => flushEach ids store
      | (.error error, store) => (.error error, store)

def flushAll : Except StoreError Unit × Store := flushEach store.frames.keys store

def firstError : Except StoreError Unit → Except StoreError Unit → Except StoreError Unit
  | .ok (), later => later
  | .error error, _ => .error error

/-- Writes one page of a transaction back and makes its content the one that a
rollback returns to.  A page that cannot be written is noted as unflushed. -/
def flushCommitted (id : PageId) : Except StoreError Unit × Store :=
  match store.cached? id with
  | none => (.ok (), store)
  | some page =>
      match store.writeBack page with
      | .error error => (.error error, { store with unflushed := store.unflushed.add id })
      | .ok (page, store) =>
          match page.capture with
          | .ok page => (.ok (), store.setPage page)
          | .error error =>
              (.error error,
                { store.setPage page with unflushed := store.unflushed.add id })

def dirtyPages (txn : TxnId) : List PageId :=
  (store.frames.filter fun _ frame => frame.page.dirtiedBy = some txn).keys

/-- Writes the given pages of a transaction back.  A failure does not keep the
other pages from being written; the first one is answered. -/
def flushCommittedEach : List PageId → Store → Except StoreError Unit × Store
  | [], store => (.ok (), store)
  | id :: ids, store =>
      let (result, store) := store.flushCommitted id
      let (results, store) := flushCommittedEach ids store
      (firstError result results, store)

def flushTransaction (txn : TxnId) : Except StoreError Unit × Store :=
  flushCommittedEach (store.dirtyPages txn) store

def discard (id : PageId) : Store :=
  let dropped := store.dropFrame id
  { dropped with
    policy := dropped.policy.remove id
    unflushed := dropped.unflushed.erase id }

def pagesOfTable (table : TableId) : List PageId :=
  store.frames.keys.filter fun id => decide (id.table = table)

/-- Writes the cached pages of a table back and takes them out of the cache.
If a write fails, all of them stay. -/
def evictTable (table : TableId) : Except StoreError Unit × Store :=
  match flushEach (store.pagesOfTable table) store with
  | (.error error, store) => (.error error, store)
  | (.ok (), store) => (.ok (), (store.pagesOfTable table).foldl discard store)

end TableStore.Store
