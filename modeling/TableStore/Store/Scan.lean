import TableStore.Store.Fetch

/-!
# Scanning tables

A cursor goes through the rows of a table in the order of their locations.  It
reads one page at a time, under a shared lock, and buffers its rows, so no page
stays pinned between two uses of the cursor.  A cursor yields nothing while it
is closed.
-/

set_option autoImplicit false

namespace TableStore

structure Cursor where
  table : Table
  txn : TxnId
  nextPage : UInt32 := 0
  buffered : List Row := []
  isOpen : Bool := true

namespace Cursor

def rewind (cursor : Cursor) : Cursor := { cursor with nextPage := 0, buffered := [] }

def reopen (cursor : Cursor) : Cursor := { cursor.rewind with isOpen := true }

def close (cursor : Cursor) : Cursor := { cursor with isOpen := false, buffered := [] }

def pop (cursor : Cursor) : Option Row × Cursor :=
  match cursor.buffered with
  | [] => (none, cursor)
  | row :: rows => (some row, { cursor with buffered := rows })

end Cursor

/-- A cursor that is being moved to its next row, and the request for the page
that it needs, once it has made one. -/
structure Seek where
  cursor : Cursor
  request : Option PageRequest := none

structure Sought where
  found : Except StoreError Bool
  cursor : Cursor

namespace Seek

def take (cursor : Cursor) (handle : Handle) (store : Store) : Cursor :=
  { cursor with
    buffered := cursor.buffered ++ ((store.pageOf? handle).map Page.rows).getD []
    nextPage := cursor.nextPage + 1 }

def choose (cursor : Cursor) (store : Store) : Step Seek Sought :=
  if cursor.buffered.isEmpty then
    match cursor.table.pageCount store.disk with
    | .error error => .finished ⟨.error error, cursor⟩
    | .ok count =>
        if cursor.nextPage < count then
          let page := cursor.table.page cursor.nextPage
          .again ⟨cursor, some (store.request cursor.txn page .shared)⟩
        else .finished ⟨.ok false, cursor⟩
  else .finished ⟨.ok true, cursor⟩

def step (seek : Seek) (store : Store) : Step Seek Sought × Store :=
  match seek.request with
  | none => (choose seek.cursor store, store)
  | some request =>
      match store.attempt request with
      | (.waiting request, store) => (.waiting { seek with request }, store)
      | (.finished (.error error), store) =>
          (.finished ⟨.error error, seek.cursor⟩, store)
      | (.finished (.ok handle), store) =>
          (.again ⟨take seek.cursor handle store, none⟩, store.unpin handle)

def resume (seek : Seek) (store : Store) : Progress Seek Sought × Store :=
  Step.repeat step store.stepLimit seek store

def run (cursor : Cursor) (store : Store) : Progress Seek Sought × Store :=
  if cursor.isOpen then resume ⟨cursor, none⟩ store
  else (.finished ⟨.ok false, cursor⟩, store)

end Seek

/-! ## Uses of a cursor -/

namespace Sought

def next (sought : Sought) : Except StoreError Row × Cursor :=
  match sought.found with
  | .error error => (.error error, sought.cursor)
  | .ok false => (.error .scanExhausted, sought.cursor)
  | .ok true =>
      match sought.cursor.pop with
      | (some row, cursor) => (.ok row, cursor)
      | (none, cursor) => (.error .scanExhausted, cursor)

/-- The next item of the cursor as a sequence: a row, nothing at the end, or an
error, which ends the sequence. -/
def item (sought : Sought) : Except StoreError (Option Row) × Cursor :=
  match sought.found with
  | .error error =>
      (.error error, if error.isFatal then sought.cursor else sought.cursor.close)
  | .ok false => (.ok none, sought.cursor)
  | .ok true =>
      match sought.cursor.pop with
      | (some row, cursor) => (.ok (some row), cursor)
      | (none, cursor) => (.error .scanExhausted, cursor)

end Sought

structure Scanned where
  rows : List Row
  error : Option StoreError

structure Scan where
  rows : List Row
  seek : Seek

namespace Scan

/-- One step of a scan.  The rows of a page are taken all at once. -/
def step (scan : Scan) (store : Store) : Step Scan Scanned × Store :=
  match scan.seek.step store with
  | (.again seek, store) => (.again { scan with seek }, store)
  | (.waiting seek, store) => (.waiting { scan with seek }, store)
  | (.finished ⟨.error error, _⟩, store) => (.finished ⟨scan.rows, some error⟩, store)
  | (.finished ⟨.ok false, _⟩, store) => (.finished ⟨scan.rows, none⟩, store)
  | (.finished ⟨.ok true, cursor⟩, store) =>
      (.again ⟨scan.rows ++ cursor.buffered, ⟨{ cursor with buffered := [] }, none⟩⟩, store)

def resume (scan : Scan) (store : Store) : Progress Scan Scanned × Store :=
  Step.repeat step (2 * store.stepLimit) scan store

def run (table : Table) (txn : TxnId) (store : Store) : Progress Scan Scanned × Store :=
  resume ⟨[], ⟨{ table, txn }, none⟩⟩ store

end Scan

end TableStore
