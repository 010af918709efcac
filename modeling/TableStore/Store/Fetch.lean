import TableStore.Store.WriteBack

/-!
# Fetching pages

A transaction gets at a page by a lock and a pin.  The lock is asked for first.
A refused request either closes a circle of waiting transactions, and then
fails, or has to be made again later.  A page that is not in the cache is read
from its file; if the cache is full, another page leaves it.
-/

set_option autoImplicit false

namespace TableStore

/-- What becomes of an operation that may have to wait: it goes on later from
the given state, or it is finished. -/
inductive Progress (σ α : Type) where
  | waiting (state : σ)
  | finished (result : α)

/-- A request of a transaction for a page.  It remembers whether the
transaction held the page before. -/
structure PageRequest where
  txn : TxnId
  page : PageId
  mode : LockMode
  heldBefore : Bool
deriving DecidableEq, Repr

inductive LockAnswer where
  | granted
  | refused
  | deadlock
deriving DecidableEq, Repr

namespace Store

variable (store : Store)

def request (txn : TxnId) (page : PageId) (mode : LockMode) : PageRequest :=
  ⟨txn, page, mode, store.locks.holds txn page⟩

def askLock (txn : TxnId) (page : PageId) (mode : LockMode) : LockAnswer × Store :=
  match store.locks.acquire txn page mode with
  | (true, locks) => (.granted, { store with locks })
  | (false, locks) =>
      if locks.isDeadlock txn page then
        (.deadlock, { store with locks := locks.cancelWait txn })
      else (.refused, { store with locks })

/-- Makes room for a page: the page chosen by the policy is written back and
leaves the cache.  If it cannot be written it stays, as the page used last. -/
def evict : Except StoreError Unit × Store :=
  match store.policy.evict with
  | (none, policy) => (.error .poolFull, { store with policy })
  | (some victim, policy) =>
      let chosen := { store with policy }
      match chosen.frames.get? victim with
      | none => (.ok (), chosen)
      | some frame =>
          match chosen.writeBack frame.page with
          | .ok (page, written) => (.ok (), (written.setPage page).dropFrame victim)
          | .error error =>
              (.error error, { chosen with policy := chosen.policy.unpin victim })

def readPage (id : PageId) : Except StoreError Page := do
  (← store.catalog.table id.table).readPage store.disk id

def install (page : Page) : Nat × Store :=
  (store.nextSerial,
    { store with
      frames := store.frames.insert page.id ⟨page, 1, store.nextSerial⟩
      nextSerial := store.nextSerial + 1 })

def pin (id : PageId) : Except StoreError Nat × Store :=
  match store.frames.get? id with
  | some frame =>
      (.ok frame.serial,
        { store with
          frames := store.frames.insert id { frame with pins := frame.pins + 1 }
          policy := store.policy.pin id })
  | none =>
      match store.readPage id with
      | .error error => (.error error, store)
      | .ok page =>
          if store.frames.size < store.capacity then
            let (serial, store) := store.install page
            (.ok serial, store)
          else
            match store.evict with
            | (.error error, store) => (.error error, store)
            | (.ok (), store) =>
                let (serial, store) := store.install page
                (.ok serial, store)

/-- The store after a page could not be loaded: a lock that was taken for it is
given back. -/
def giveBack (request : PageRequest) (error : StoreError) : Store :=
  if request.heldBefore || error.isFatal then store
  else { store with locks := (store.locks.release request.txn request.page).2 }

def attempt (request : PageRequest) :
    Progress PageRequest (Except StoreError Handle) × Store :=
  match store.askLock request.txn request.page request.mode with
  | (.refused, store) => (.waiting request, store)
  | (.deadlock, store) => (.finished (.error (.deadlock request.txn)), store)
  | (.granted, store) =>
      match store.pin request.page with
      | (.ok serial, store) =>
          (.finished (.ok ⟨request.page, request.mode, request.txn, serial⟩), store)
      | (.error error, store) =>
          (.finished (.error error), store.giveBack request error)

def fetch (txn : TxnId) (page : PageId) (mode : LockMode) :
    Progress PageRequest (Except StoreError Handle) × Store :=
  store.attempt (store.request txn page mode)

end Store

/-! ## Operations in steps -/

inductive Step (σ α : Type) where
  | again (state : σ)
  | waiting (state : σ)
  | finished (result : α)

def Step.repeat {σ α : Type} (step : σ → Store → Step σ α × Store) :
    Nat → σ → Store → Progress σ α × Store
  | 0, state, store => (.waiting state, store)
  | limit + 1, state, store =>
      match step state store with
      | (.again state, store) => Step.repeat step limit state store
      | (.waiting state, store) => (.waiting state, store)
      | (.finished result, store) => (.finished result, store)

/-- More steps than an operation takes that visits every page of the store
once: each page lies in a file, where it has a byte at least, or in the
cache. -/
def Store.stepLimit (store : Store) : Nat :=
  2 * ((store.disk.values.map FileBytes.length).foldr (· + ·) 0 + store.frames.size) + 4

end TableStore
