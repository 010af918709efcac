import TableStore.Address
import TableStore.Lock.Mode
import TableStore.SortedMap
import TableStore.Transaction

/-!
# The lock table

Locks on pages, kept both by page and by transaction.  A request is granted or
refused at once; a refused request is remembered as the one its transaction
waits for.  Pages and transactions without locks have no entry.
-/

set_option autoImplicit false

namespace TableStore

/-- The lock on one page: shared by some transactions, or exclusive to one. -/
inductive Lock where
  | shared (holders : SortedSet TxnId)
  | exclusive (holder : TxnId)
deriving DecidableEq

namespace Lock

def single (txn : TxnId) : LockMode → Lock
  | .shared => .shared (.single txn)
  | .exclusive => .exclusive txn

def mode : Lock → LockMode
  | shared _ => .shared
  | exclusive _ => .exclusive

def holders : Lock → List TxnId
  | shared holders => holders.keys
  | exclusive holder => [holder]

def modeOf? (lock : Lock) (txn : TxnId) : Option LockMode :=
  if txn ∈ lock.holders then some lock.mode else none

def blockers (lock : Lock) (txn : TxnId) (mode : LockMode) : List TxnId :=
  if lock.mode.compatible mode then [] else lock.holders.filter (· ≠ txn)

/-- The lock with a transaction that nothing blocks joined in a mode.  A
transaction that holds the lock exclusively keeps it so. -/
def join (lock : Lock) (txn : TxnId) : LockMode → Lock
  | .exclusive => .exclusive txn
  | .shared =>
      match lock with
      | shared holders => .shared (holders.add txn)
      | exclusive holder => .exclusive holder

def leave? (lock : Lock) (txn : TxnId) : Option Lock :=
  match lock with
  | shared holders =>
      let rest := holders.erase txn
      if rest.isEmpty then none else some (.shared rest)
  | exclusive holder => if holder = txn then none else some (.exclusive holder)

end Lock

structure LockRequest where
  page : PageId
  mode : LockMode
deriving DecidableEq, Repr

/-- The locks by page, the locked pages by transaction, and the requests that
transactions wait for. -/
structure LockTable where
  locks : SortedMap PageId Lock := ∅
  held : SortedMap TxnId (SortedSet PageId) := ∅
  waiting : SortedMap TxnId LockRequest := ∅
deriving DecidableEq, Inhabited

namespace LockTable

variable (table : LockTable)

def mode? (txn : TxnId) (page : PageId) : Option LockMode := do
  (← table.locks.get? page).modeOf? txn

def holds (txn : TxnId) (page : PageId) : Bool := (table.mode? txn page).isSome

def holders (page : PageId) : List TxnId :=
  match table.locks.get? page with
  | some lock => lock.holders
  | none => []

def heldPages (txn : TxnId) : List PageId :=
  match table.held.get? txn with
  | some pages => pages.keys
  | none => []

def blockers (txn : TxnId) (page : PageId) (mode : LockMode) : List TxnId :=
  match table.locks.get? page with
  | some lock => lock.blockers txn mode
  | none => []

def acquire (txn : TxnId) (page : PageId) (mode : LockMode) : Bool × LockTable :=
  if (table.blockers txn page mode).isEmpty then
    let lock := match table.locks.get? page with
      | some lock => lock.join txn mode
      | none => .single txn mode
    let pages := (table.held.get? txn).getD ∅
    (true,
      { locks := table.locks.insert page lock
        held := table.held.insert txn (pages.add page)
        waiting := table.waiting.erase txn })
  else
    (false, { table with waiting := table.waiting.insert txn ⟨page, mode⟩ })

def cancelWait (txn : TxnId) : LockTable :=
  { table with waiting := table.waiting.erase txn }

def unlock (locks : SortedMap PageId Lock) (txn : TxnId) (page : PageId) :
    SortedMap PageId Lock :=
  match locks.get? page with
  | none => locks
  | some lock =>
      match lock.leave? txn with
      | some lock => locks.insert page lock
      | none => locks.erase page

def release (txn : TxnId) (page : PageId) : Bool × LockTable :=
  match table.held.get? txn with
  | none => (false, table)
  | some pages =>
      let rest := pages.erase page
      let held :=
        if rest.isEmpty then table.held.erase txn else table.held.insert txn rest
      if pages.contains page then
        (true, { table with locks := unlock table.locks txn page, held })
      else (false, { table with held })

/-- Releases every page of a transaction, which then waits for nothing.
Answers whether it held any. -/
def releaseAll (txn : TxnId) : Bool × LockTable :=
  let waiting := table.waiting.erase txn
  match table.held.get? txn with
  | none => (false, { table with waiting })
  | some pages =>
      (true,
        { locks := pages.keys.foldl (fun locks page => unlock locks txn page) table.locks
          held := table.held.erase txn
          waiting })

end LockTable

end TableStore
