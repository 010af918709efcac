import TableStore.Session.Answer
import TableStore.Session.Command

/-!
# The state of a session

A session has a database and keeps rows, handles, cursors and tables under
names.  It also keeps the operations that wait for a page.
-/

set_option autoImplicit false

namespace TableStore

inductive Job where
  | fetch (request : PageRequest) (keepAs : Option String)
  | insert (insertion : Insertion) (keepAs : Option String)
  | delete (deletion : Deletion)
  | scan (scan : Scan)
  | seek (cursor : String) (serial : Nat) (use : CursorUse) (seek : Seek)

def Job.txn : Job → TxnId
  | fetch request _ => request.txn
  | insert insertion _ => insertion.request.txn
  | delete deletion => deletion.request.txn
  | scan running => running.seek.cursor.txn
  | seek _ _ _ running => running.cursor.txn

structure Parked where
  index : Nat
  job : Job

structure Session where
  database : Database
  /-- Whether tables are opened and closed through the database, not through
  the store alone. -/
  managed : Bool
  identities : SortedMap String TableId := ∅
  /-- The schema with which each table was opened last. -/
  schemas : SortedMap TableId Schema := ∅
  /-- The greatest page count that each opened table was seen to have. -/
  seen : SortedMap TableId Nat := ∅
  rows : SortedMap String Row := ∅
  handles : SortedMap String Handle := ∅
  /-- The kept cursors.  A serial number tells cursors of one name apart. -/
  cursors : SortedMap String (Nat × Cursor) := ∅
  tables : SortedMap String Table := ∅
  /-- The transactions that were begun here and have not ended. -/
  begun : SortedSet TxnId := ∅
  parked : List Parked := []
  count : Nat := 0

namespace Session

variable (session : Session)

def ofSettings (settings : Settings) (policy : EvictionPolicy) (managed : Bool) : Session :=
  let database := Database.ofSettings settings ∅
  { database := { database with store := { database.store with policy } }, managed }

def store : Store := session.database.store

def setStore (store : Store) : Session :=
  { session with database := { session.database with store } }

def isWaiting (txn : TxnId) : Bool :=
  session.parked.any fun parked => decide (parked.job.txn = txn)

def table (form : TableForm) : Except StoreError Table :=
  match form.kept.bind session.tables.get? with
  | some table => .ok table
  | none => session.store.catalog.table form.id

def keep {ν : Type} (things : SortedMap String ν) (name : Option String) (thing : ν) :
    SortedMap String ν :=
  match name with
  | some name => things.insert name thing
  | none => things

end Session

end TableStore
