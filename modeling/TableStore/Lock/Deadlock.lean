import TableStore.Lock.Table

/-!
# Deadlocks

A transaction waits for those that hold the page it was refused, in a mode that
conflicts with its request.  A request that would lead from a transaction back
to itself is a deadlock.
-/

set_option autoImplicit false

namespace TableStore

/-- For each waiting transaction those it waits for. -/
abbrev WaitGraph := SortedMap TxnId (List TxnId)

namespace WaitGraph

/-- Whether a transaction can be reached from any of those on the list.  The
steps that lead on from a transaction are used once and then taken away. -/
def reaches (graph : WaitGraph) (target : TxnId) (starts : List TxnId) : Bool :=
  match starts with
  | [] => false
  | txn :: starts =>
      if txn = target then true
      else
        match found : graph.get? txn with
        | none => reaches graph target starts
        | some next =>
            have := SortedMap.size_erase_lt found
            reaches (graph.erase txn) target (next ++ starts)
termination_by (graph.size, starts.length)

end WaitGraph

namespace LockTable

variable (table : LockTable)

def waitGraph : WaitGraph :=
  table.waiting.map fun txn request => table.blockers txn request.page request.mode

/-- The mode in which a transaction asks for a page: the one it was refused, or
exclusive if it was not refused this page. -/
def requestedMode (txn : TxnId) (page : PageId) : LockMode :=
  match table.waiting.get? txn with
  | some request => if request.page = page then request.mode else .exclusive
  | none => .exclusive

/-- Whether waiting for a page would lead from a transaction back to itself.
Other waits of the transaction play no part. -/
def isDeadlock (txn : TxnId) (page : PageId) : Bool :=
  let blockers := table.blockers txn page (table.requestedMode txn page)
  WaitGraph.reaches (table.waitGraph.erase txn) txn blockers

end LockTable

end TableStore
