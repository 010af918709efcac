import TableStore.Schema.Parser
import TableStore.Store

/-!
# Commands of a session

What a session can be told to do.  Commands speak of tables by identity, of
files by name, and of rows, handles, cursors and tables that the session keeps
under names.
-/

set_option autoImplicit false

namespace TableStore

inductive SchemaForm where
  | text (written : String)
  | types (list : List ColumnType)
  | columns (list : List Column)
deriving DecidableEq, Repr

def SchemaForm.read : SchemaForm → Except SchemaFault Schema
  | text written => Schema.parse written
  | types list => .ok (.ofTypes list)
  | columns list => .ok ⟨list⟩

/-- The row of a command: a kept one, a row of one number, or values of a
schema.  Without a schema, the one is meant with which the table was opened
last. -/
inductive RowForm where
  | kept (name : String)
  | single (location : Option Location)
  | values (schema : Option SchemaForm) (values : List Value) (location : Option Location)
deriving DecidableEq, Repr

/-- The table of a command: the kept one of a name, or the open one of an
identity if there is no kept one. -/
structure TableForm where
  kept : Option String
  id : TableId
deriving DecidableEq, Repr

inductive CursorUse where
  | next
  | item
  | hasNext
deriving DecidableEq, Repr

inductive Command where
  | openTable (name file : String) (id : TableId) (schema : SchemaForm) (pageSize : Option Nat)
  | closeTable (name : String)
  | listTables
  | lookup (name : String)
  | schemaOf (id : TableId)
  /-- Takes a table off the catalog and keeps it. -/
  | detach (id : TableId) (keepAs : Option String)
  | keepTable (table : TableForm) (keepAs : String)
  | attach (kept : Option String) (name : String)
  | allocate (table : TableForm)
  | pageCount (table : TableForm)
  | readPage (table : TableForm) (page : PageId)
  /-- Writes a page made of the given bytes, or an empty one. -/
  | writePage (table : TableForm) (page : PageId) (data : Option Bytes) (pageSize : Option Nat)
  /-- Changes a file behind the back of the store. -/
  | editFile (file : String) (length : Option Nat) (pieces : List (Nat × Bytes))
  | fileBytes (file : String)
  | begin
  | complete (txn : TxnId) (keep : Bool)
  /-- Gives up a transaction that was begun here. -/
  | dropTransaction (txn : TxnId)
  | insert (txn : TxnId) (table : Option TableId) (kept : Option String) (row : RowForm)
      (keepAs : Option String)
  /-- Deletes a row: from a kept table if one is named, else from the open table
  that the row's location names. -/
  | delete (txn : TxnId) (table : Option TableId) (kept : Option String) (row : RowForm)
  | scan (txn : TxnId) (table : TableForm)
  | openCursor (txn : TxnId) (table : TableForm) (keepAs : String)
  | useCursor (cursor : String) (use : CursorUse)
  | rewindCursor (cursor : String)
  | reopenCursor (cursor : String)
  | closeCursor (cursor : String)
  /-- Fetches a page; the handle is kept, or given up at once. -/
  | fetch (txn : TxnId) (page : PageId) (mode : LockMode) (keepAs : Option String)
  | unpin (handle : String)
  | look (handle : String)
  /-- Changes the page of a kept handle: its mark, what a rollback returns to,
  and its rows. -/
  | poke (handle : String) (dirty : Option Bool) (painter : Option TxnId) (capture : Bool)
      (values : Option (List Value))
  | release (txn : TxnId) (page : PageId)
  | holds (txn : TxnId) (page : PageId)
  | flushPage (page : PageId)
  | flushAll
  | flushTransaction (txn : TxnId)
  | discard (page : PageId)
  | evictTable (id : TableId)
  | isCached (page : PageId)
  | unknown
deriving Repr

end TableStore
