import TableStore.Catalog
import TableStore.Lock.Deadlock
import TableStore.Recency
import TableStore.Settings

/-!
# The store

Everything that operations on tables work on: the files, the catalog of open
tables, the locks and the page cache.  The cache holds a limited number of
pages.  A page is pinned while a handle to it is alive, and may leave the cache
when no handle is.
-/

set_option autoImplicit false

namespace TableStore

/-- A page in the cache.  The serial number tells it apart from the same page
loaded at another time. -/
structure Frame where
  page : Page
  pins : Nat
  serial : Nat
deriving DecidableEq

/-- A pin on a loaded page, with the mode of the lock under which a transaction
fetched it. -/
structure Handle where
  page : PageId
  mode : LockMode
  owner : TxnId
  serial : Nat
deriving DecidableEq, Repr

structure Store where
  disk : Disk := ∅
  catalog : Catalog := {}
  locks : LockTable := {}
  frames : SortedMap PageId Frame := ∅
  /-- Pages that left the cache while handles to them were alive, by serial
  number.  Only those handles still lead to them. -/
  adrift : SortedMap Nat Frame := ∅
  policy : EvictionPolicy := .leastRecent {}
  /-- Cached pages with committed rows that could not be written. -/
  unflushed : SortedSet PageId := ∅
  /-- Pages that the files do not take at present, each with the fault in
  words. -/
  unwritable : SortedMap PageId String := ∅
  capacity : Nat
  nextSerial : Nat := 0
deriving DecidableEq

namespace Store

variable (store : Store)

def cached? (id : PageId) : Option Page := (store.frames.get? id).map (·.page)

def cachedCount : Nat := store.frames.size

def setPage (page : Page) : Store :=
  { store with frames := store.frames.modify page.id fun frame => { frame with page } }

def pageOf? (handle : Handle) : Option Page :=
  match store.frames.get? handle.page with
  | some frame =>
      if frame.serial = handle.serial then some frame.page
      else (store.adrift.get? handle.serial).map (·.page)
  | none => (store.adrift.get? handle.serial).map (·.page)

def setPageOf (handle : Handle) (page : Page) : Store :=
  let drifting := { store with
    adrift := store.adrift.modify handle.serial fun frame => { frame with page } }
  match store.frames.get? handle.page with
  | some frame =>
      if frame.serial = handle.serial then
        { store with frames := store.frames.insert handle.page { frame with page } }
      else drifting
  | none => drifting

def dropFrame (id : PageId) : Store :=
  match store.frames.get? id with
  | none => store
  | some frame =>
      { store with
        frames := store.frames.erase id
        adrift :=
          if frame.pins = 0 then store.adrift
          else store.adrift.insert frame.serial frame }

/-- The store after a handle is given up.  A page without handles may leave the
cache; one that left it before is forgotten. -/
def unpin (handle : Handle) : Store :=
  let drifting := { store with
    adrift := match store.adrift.get? handle.serial with
      | some frame =>
          if frame.pins ≤ 1 then store.adrift.erase handle.serial
          else store.adrift.insert handle.serial { frame with pins := frame.pins - 1 }
      | none => store.adrift }
  match store.frames.get? handle.page with
  | some frame =>
      if frame.serial = handle.serial then
        let pins := frame.pins - 1
        { store with
          frames := store.frames.insert handle.page { frame with pins }
          policy := if pins = 0 then store.policy.unpin handle.page else store.policy }
      else drifting
  | none => drifting

end Store

end TableStore
