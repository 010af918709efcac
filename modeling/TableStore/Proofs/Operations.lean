import TableStore.Proofs.RowChanges

/-!
# Operations of transactions, step by step

A transaction fetches a page, inserts a row, deletes one or scans a table.  An
operation takes one step at a time, and makes one request for a page in a step;
between two steps other transactions may take theirs.  A step comes with an event
for what the transaction reads or changes in it.
-/

set_option autoImplicit false

namespace TableStore

inductive Call where
  | fetch (page : PageId) (mode : LockMode)
  | insert (table : TableId) (row : Row)
  | delete (row : Row)
  | scan (table : TableId)

inductive Operation where
  | fetch (request : PageRequest)
  | insertion (insertion : Insertion)
  | deletion (deletion : Deletion)
  | scan (scan : Scan)

/-- What comes of one step of an operation: the operation as it goes on, if it
does; a handle, if a page was fetched; and the events in the step. -/
structure Turn where
  next : Option Operation
  handle : Option Handle := none
  events : List Event := []

def Call.start (txn : TxnId) (store : Store) : Call → Option Operation × Store
  | fetch page mode => (some (.fetch (store.request txn page mode)), store)
  | insert table row =>
      match store.catalog.table table with
      | .error _ => (none, store)
      | .ok table =>
          match Insertion.start table txn row store with
          | (.ok insertion, store) => (some (.insertion insertion), store)
          | (.error _, store) => (none, store)
  | delete row =>
      match row.location with
      | none => (none, store)
      | some location =>
          match store.catalog.table location.page.table with
          | .error _ => (none, store)
          | .ok table =>
              match Deletion.start table txn row store with
              | .ok deletion => (some (.deletion deletion), store)
              | .error _ => (none, store)
  | scan table =>
      match store.catalog.table table with
      | .error _ => (none, store)
      | .ok table => (some (.scan ⟨[], ⟨{ table, txn }, none⟩⟩), store)

def Row.entry (row : Row) : Option Location × List Value := (row.location, row.values)

namespace Store

def view (store : Store) (id : PageId) : Contents :=
  ((store.cached? id).map Page.contents).getD []

def readEvent (store : Store) (handle : Handle) : Event :=
  .read handle.owner handle.page
    ((((store.pageOf? handle).map Page.rows).getD []).map Row.entry)

end Store

namespace Operation

def insertEvents (txn : TxnId) (inserted : Inserted) (store : Store) : List Event :=
  match inserted.row.location with
  | some location =>
      [.changed txn ⟨inserted.page, location.slot.toNat, some inserted.row.values⟩
        (store.view inserted.page)]
  | none => []

def deleteEvents (txn : TxnId) (row : Row) (page : PageId) (store : Store) : List Event :=
  match row.location with
  | some location => [.changed txn ⟨page, location.slot.toNat, none⟩ (store.view page)]
  | none => []

def scanEvents (before after : Seek) : List Event :=
  match before.request with
  | some request =>
      [.read request.txn request.page (after.cursor.buffered.map Row.entry)]
  | none => []

def step (store : Store) : Operation → Turn × Store
  | .fetch request =>
      match store.attempt request with
      | (.waiting request, store) => (⟨some (.fetch request), none, []⟩, store)
      | (.finished (.error _), store) => (⟨none, none, []⟩, store)
      | (.finished (.ok handle), store) =>
          (⟨none, some handle, [store.readEvent handle]⟩, store)
  | .insertion task =>
      match task.step store with
      | (.again next, store) => (⟨some (.insertion next), none, []⟩, store)
      | (.waiting next, store) => (⟨some (.insertion next), none, []⟩, store)
      | (.finished (.error _), store) => (⟨none, none, []⟩, store)
      | (.finished (.ok inserted), store) =>
          (⟨none, none, insertEvents task.request.txn inserted store⟩, store)
  | .deletion task =>
      match task.resume store with
      | (.waiting next, store) => (⟨some (.deletion next), none, []⟩, store)
      | (.finished (.error _), store) => (⟨none, none, []⟩, store)
      | (.finished (.ok page), store) =>
          (⟨none, none, deleteEvents task.request.txn task.row page store⟩, store)
  | .scan task =>
      match task.step store with
      | (.again next, store) => (⟨some (.scan next), none, scanEvents task.seek next.seek⟩, store)
      | (.waiting next, store) => (⟨some (.scan next), none, []⟩, store)
      | (.finished _, store) => (⟨none, none, []⟩, store)

end Operation

inductive Call.Begins (store : Store) (txn : TxnId) :
    Call → Option Operation → Store → Prop
  | refused (call : Call) : Begins store txn call none store
  | fetch (page : PageId) (mode : LockMode) :
      Begins store txn (.fetch page mode) (some (.fetch (store.request txn page mode))) store
  | failed {id : TableId} {row : Row} {table : Table} {error : StoreError} {after : Store}
      (found : store.catalog.table id = .ok table)
      (started : Insertion.start table txn row store = (.error error, after)) :
      Begins store txn (.insert id row) none after
  | insertion {id : TableId} {row : Row} {table : Table} {task : Insertion} {after : Store}
      (found : store.catalog.table id = .ok table)
      (started : Insertion.start table txn row store = (.ok task, after)) :
      Begins store txn (.insert id row) (some (.insertion task)) after
  | deletion {row : Row} {table : Table} {task : Deletion}
      (started : Deletion.start table txn row store = .ok task) :
      Begins store txn (.delete row) (some (.deletion task)) store
  | scan {id : TableId} {table : Table} (found : store.catalog.table id = .ok table) :
      Begins store txn (.scan id) (some (.scan ⟨[], ⟨{ table, txn }, none⟩⟩)) store

theorem Call.begins {store after : Store} {txn : TxnId} {call : Call} {begun : Option Operation}
    (run : call.start txn store = (begun, after)) : call.Begins store txn begun after := by
  cases call with
  | fetch page mode =>
      cases run
      exact .fetch page mode
  | insert id row =>
      cases found : store.catalog.table id with
      | error error =>
          simp only [Call.start, found] at run
          cases run
          exact .refused _
      | ok table =>
          rcases started : Insertion.start table txn row store with ⟨error | task, grown⟩ <;>
            simp only [Call.start, found, started] at run <;> cases run
          · exact .failed found started
          · exact .insertion found started
  | delete row =>
      unfold Call.start at run
      dsimp only at run
      split at run
      · cases run
        exact .refused _
      · split at run
        · cases run
          exact .refused _
        · split at run
          · next task started =>
              cases run
              exact .deletion started
          · cases run
            exact .refused _
  | scan id =>
      cases found : store.catalog.table id with
      | error error =>
          simp only [Call.start, found] at run
          cases run
          exact .refused _
      | ok table =>
          simp only [Call.start, found] at run
          cases run
          exact .scan found

def PageRequest.Timely (request : PageRequest) (store : Store) (txn : TxnId) : Prop :=
  request.txn = txn ∧ request.heldBefore = store.locks.holds txn request.page

def Operation.Ready (store : Store) (txn : TxnId) : Operation → Prop
  | .fetch request => request.Timely store txn
  | .insertion task =>
      store.catalog.tables.get? task.table.id = some task.table ∧
        task.request.mode = .exclusive ∧ task.request.Timely store txn
  | .deletion task => task.request.mode = .exclusive ∧ task.request.Timely store txn
  | .scan task =>
      task.seek.cursor.txn = txn ∧
        ∀ request, task.seek.request = some request →
          request.Timely store txn ∧ task.seek.cursor.buffered = []

theorem PageRequest.Timely.of_modes {store after : Store} {txn : TxnId} {request : PageRequest}
    (timely : request.Timely store txn)
    (modes : ∀ id, after.locks.mode? txn id = store.locks.mode? txn id) :
    request.Timely after txn := by
  obtain ⟨rfl, held⟩ := timely
  refine ⟨rfl, held.trans ?_⟩
  simp only [LockTable.holds, modes]

theorem Operation.Ready.of_tables {store after : Store} {txn : TxnId} {operation : Operation}
    (ready : operation.Ready store txn)
    (tables : ∀ id table, store.catalog.tables.get? id = some table →
      after.catalog.tables.get? id = some table)
    (modes : ∀ id, after.locks.mode? txn id = store.locks.mode? txn id) :
    operation.Ready after txn := by
  cases operation with
  | fetch request => exact PageRequest.Timely.of_modes ready modes
  | insertion task =>
      obtain ⟨registered, exclusive, timely⟩ := ready
      exact ⟨tables _ _ registered, exclusive, timely.of_modes modes⟩
  | deletion task => exact ⟨ready.1, ready.2.of_modes modes⟩
  | scan task =>
      refine ⟨ready.1, fun request asked => ?_⟩
      obtain ⟨timely, empty⟩ := ready.2 request asked
      exact ⟨timely.of_modes modes, empty⟩

theorem Operation.Ready.of_modes {store after : Store} {txn : TxnId} {operation : Operation}
    (ready : operation.Ready store txn) (catalog : after.catalog = store.catalog)
    (modes : ∀ id, after.locks.mode? txn id = store.locks.mode? txn id) :
    operation.Ready after txn :=
  ready.of_tables (fun _ _ found => catalog ▸ found) modes

end TableStore
