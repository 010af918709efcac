import TableStore.Database
import TableStore.Schema.Parser

/-!
# Answers of a session

What a command is answered with, and what a session reports about its state.
-/

set_option autoImplicit false

namespace TableStore

inductive Failure where
  | store (error : StoreError)
  | database (error : DatabaseError)
  | schema (fault : SchemaFault)
  /-- The transaction of the command has to wait for a page already. -/
  | busy
  | noRow
  | noHandle
  | noCursor
  /-- The command names something that the session does not have. -/
  | badInput
deriving DecidableEq, Repr

inductive Answer where
  | done
  | nothing
  | flag (value : Bool)
  | number (value : Nat)
  | text (value : String)
  | opened (table : TableId)
  /-- The open tables and their names; for a database also the list of names and
  the page size; and the capacity of the cache. -/
  | registry (tables : List (TableId × Option String)) (names : Option (List String))
      (pageSize : Option Nat) (capacity : Nat)
  /-- What a name leads to, in the catalog and in a database. -/
  | lookup (id : Option TableId) (table : Option (Except DatabaseError Table))
  | pageId (page : PageId)
  | pageIds (pages : List PageId)
  | page (page : Page)
  | bytes (bytes : FileBytes)
  | length (bytes : Nat)
  | begun (txn : TxnId) (last : Option TxnId)
  | inserted (pages : List PageId) (location : Option Location)
  | scanned (items : Scanned)
  | row (row : Row)
  | fetched (page : Page) (handle : Handle)
  | presence (cached : Bool) (count : Nat)
  | blocked
  | failed (failure : Failure)

namespace Answer

def ofResult : Except StoreError Unit → Answer
  | .ok () => .done
  | .error error => .failed (.store error)

def ofExcept {α : Type} (answer : α → Answer) : Except StoreError α → Answer
  | .ok value => answer value
  | .error error => .failed (.store error)

end Answer

/-- What a session shows of its state: the number of cached pages, the cached
pages it knows of, and the locks by transaction. -/
structure StateReport where
  count : Nat
  cached : List PageId
  locks : List (TxnId × List (PageId × LockMode))

/-- What a command leads to: its answer, the answers of earlier commands that
had been waiting, and the state after it if the session is traced. -/
structure StepReport where
  answer : Answer
  resumed : List (Nat × Answer)
  state : Option StateReport

end TableStore
