import TableStore.Store.WriteBack

/-!
# Commit and rollback

A transaction ends by writing its pages back or by restoring them.  Either way
all its locks are released.
-/

set_option autoImplicit false

namespace TableStore.Store

variable (store : Store)

def exclusivePages (txn : TxnId) : List PageId :=
  (store.locks.heldPages txn).filter fun id =>
    decide (store.locks.mode? txn id = some .exclusive) && store.frames.contains id

def releaseAll (txn : TxnId) : Store :=
  { store with locks := (store.locks.releaseAll txn).2 }

def capturePage (id : PageId) : Store :=
  match store.cached? id with
  | none => store
  | some page =>
      match page.capture with
      | .ok page => store.setPage page
      | .error _ => store

/-- Ends a transaction and keeps its changes.  Pages that cannot be written
stay marked as changed; the first failure is answered. -/
def commit (txn : TxnId) : Except StoreError Unit × Store :=
  let (result, store) := store.flushTransaction txn
  let store := (store.exclusivePages txn).foldl capturePage store
  (result, store.releaseAll txn)

/-- Restores a cached page for a transaction.  A page that another transaction
changed is left alone: that transaction committed, but its write failed.  A
restored page whose rows are not in the file counts as changed. -/
def restorePage (txn : TxnId) (id : PageId) : Except StoreError Unit × Store :=
  match store.cached? id with
  | none => (.ok (), store)
  | some page =>
      if page.dirtiedBy.any (· ≠ txn) then (.ok (), store)
      else
        match page.restore with
        | .ok restored =>
            (.ok (), store.setPage
              (if store.unflushed.contains id then restored.mark true txn else restored))
        | .error error => (.error error, store)

def restoreEach (txn : TxnId) : List PageId → Store → Except StoreError Unit × Store
  | [], store => (.ok (), store)
  | id :: ids, store =>
      let (result, store) := store.restorePage txn id
      let (results, store) := restoreEach txn ids store
      (firstError result results, store)

def abort (txn : TxnId) : Except StoreError Unit × Store :=
  let (result, store) := restoreEach txn (store.exclusivePages txn) store
  (result, store.releaseAll txn)

def releasePage (txn : TxnId) (page : PageId) : Except StoreError Unit × Store :=
  match store.locks.release txn page with
  | (true, locks) => (.ok (), { store with locks })
  | (false, locks) => (.error (.lockNotHeld txn page), { store with locks })

end TableStore.Store
