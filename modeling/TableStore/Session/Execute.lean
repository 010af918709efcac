import TableStore.Session.Job

/-!
# Carrying commands out

What each command does to a session and what it is answered with.
-/

set_option autoImplicit false

namespace TableStore.Session

variable (session : Session)

def refuse (failure : Failure) : Answer × Session := (.failed failure, session)

def refuseBy (error : StoreError) : Answer × Session := session.refuse (.store error)

def row (form : RowForm) (table : Option TableId) : Except Failure Row :=
  match form with
  | .kept name =>
      match session.rows.get? name with
      | some row => .ok row
      | none => .error .noRow
  | .single location =>
      match Row.make (.ofTypes [.int]) [.int 0] with
      | .ok row => .ok (row.placeAt location)
      | .error error => .error (.store error)
  | .values schema values location => do
      let schema ← match schema with
        | some form =>
            match form.read with
            | .ok schema => Except.ok schema
            | .error fault => Except.error (Failure.schema fault)
        | none =>
            let origin := table <|> location.map (·.page.table)
            match origin.bind session.schemas.get? with
            | some schema => Except.ok schema
            | none => Except.error Failure.badInput
      match Row.make schema values with
      | .ok row => .ok (row.placeAt location)
      | .error error => .error (.store error)

/-- Opens a file as a table.  A file keeps the identity with which it was named
first. -/
def openTable (name file : String) (id : TableId) (form : SchemaForm)
    (pageSize : Option Nat) : Answer × Session :=
  match form.read with
  | .error fault => session.refuse (.schema fault)
  | .ok schema =>
      let id := (session.identities.get? file).getD id
      let session := { session with identities := session.identities.insert file id }
      let opened (database : Database) : Answer × Session :=
        (.opened id,
          { session with
            database
            schemas := session.schemas.insert id schema
            seen := session.seen.insert id ((session.seen.get? id).getD 0) })
      if session.managed then
        match session.database.openTable file id schema name with
        | .ok (_, database) => opened database
        | .error error => session.refuse (.database error)
      else
        let pageSize := pageSize.getD session.database.settings.pageSize
        match session.store.openTable file id schema pageSize with
        | .ok (table, store) =>
            opened { session.database with store := store.register table name }
        | .error error => session.refuseBy error

def closeTable (name : String) : Answer × Session :=
  if session.managed then
    match session.database.closeTable name with
    | (.ok (), database) => (.done, { session with database })
    | (.error error, database) => (.failed (.database error), { session with database })
  else session.refuse .badInput

def registry : Answer :=
  let catalog := session.store.catalog
  .registry (catalog.ids.map fun id => (id, catalog.name? id))
    (if session.managed then some catalog.listNames else none)
    (if session.managed then some session.database.settings.pageSize else none)
    session.store.capacity

def writePage (form : TableForm) (page : PageId) (data : Option Bytes)
    (pageSize : Option Nat) : Answer × Session :=
  match session.table form with
  | .error error => session.refuseBy error
  | .ok table =>
      let size := pageSize.getD table.pageSize
      match Page.decode page table.schema size (data.getD (Bytes.zeros size)) with
      | .error error => session.refuseBy error
      | .ok page =>
          let (result, store) := session.store.writePage table page
          (.ofResult result, session.setStore store)

/-- Changes the page of a kept handle.  The changes before a failure stay. -/
def poke (handle : Handle) (dirty : Option Bool) (painter : Option TxnId) (capture : Bool)
    (values : Option (List Value)) : Answer × Session :=
  match handle.mode with
  | .shared => session.refuseBy (.readOnlyPage handle.page)
  | .exclusive =>
      match session.store.pageOf? handle with
      | none => session.refuse .noHandle
      | some page =>
          let page := match dirty with
            | some dirty => page.mark dirty (painter.getD handle.owner)
            | none => page
          let change : Except StoreError Unit × Page :=
            match if capture then page.capture else .ok page with
            | .error error => (.error error, page)
            | .ok page =>
                match values with
                | none => (.ok (), page)
                | some values =>
                    match Row.make page.schema values >>= page.insert with
                    | .ok (page, _) => (.ok (), page)
                    | .error error => (.error error, page)
          let session := session.setStore (session.store.setPageOf handle change.2)
          match change.1 with
          | .ok () => (.page change.2, session)
          | .error error => session.refuseBy error

def changeCursor (name : String) (change : Cursor → Cursor) : Answer × Session :=
  match session.cursors.get? name with
  | none => session.refuse .noCursor
  | some (serial, cursor) =>
      (.done, { session with cursors := session.cursors.insert name (serial, change cursor) })

def execute (command : Command) : Answer × Session :=
  let store := session.store
  match command with
  | .openTable name file id schema pageSize => session.openTable name file id schema pageSize
  | .closeTable name => session.closeTable name
  | .listTables => (session.registry, session)
  | .lookup name =>
      let table := if session.managed then some (session.database.table name) else none
      (.lookup (store.catalog.id? name) table, session)
  | .schemaOf id =>
      (.ofExcept (fun table => .text table.schema.text) (store.catalog.table id), session)
  | .detach id keepAs =>
      match store.unregister id with
      | (none, store) => (.flag false, session.setStore store)
      | (some table, store) =>
          (.flag true,
            { session.setStore store with tables := keep session.tables keepAs table })
  | .keepTable form keepAs =>
      match session.table form with
      | .error error => session.refuseBy error
      | .ok table => (.done, { session with tables := session.tables.insert keepAs table })
  | .attach kept name =>
      match kept.bind session.tables.get? with
      | none => session.refuse .badInput
      | some table =>
          (.number table.id.number.toNat, session.setStore (store.register table name))
  | .allocate form =>
      match session.table form with
      | .error error => session.refuseBy error
      | .ok table =>
          let (result, store) := store.allocate table
          (.ofExcept .pageId result, session.setStore store)
  | .pageCount form =>
      (.ofExcept (fun count => .number count.toNat)
        (session.table form >>= fun table => table.pageCount store.disk), session)
  | .readPage form page =>
      (.ofExcept .page (session.table form >>= fun table => table.readPage store.disk page),
        session)
  | .writePage form page data pageSize => session.writePage form page data pageSize
  | .editFile file length pieces =>
      match store.disk.get? file with
      | none => session.refuse .badInput
      | some content =>
          let content := PageFile.edit content length pieces
          (.length content.length,
            session.setStore { store with disk := store.disk.insert file content })
  | .fileBytes file =>
      match store.disk.get? file with
      | none => session.refuse .badInput
      | some content => (.bytes content, session)
  | .begin =>
      let (txn, database) := session.database.begin
      (.begun txn (if session.managed then none else some database.txns.last),
        { session with database, begun := session.begun.add txn })
  | .complete txn keep =>
      let (result, store) := store.complete txn keep
      (.ofResult result, { session.setStore store with begun := session.begun.erase txn })
  | .dropTransaction txn =>
      if session.begun.contains txn then
        (.flag true,
          { session.setStore (store.abort txn).2 with begun := session.begun.erase txn })
      else (.flag false, session)
  | .insert txn table kept row keepAs =>
      match session.row row table with
      | .error failure => session.refuse failure
      | .ok row =>
          match session.table ⟨kept, table.getD ⟨0⟩⟩ with
          | .error error => session.endInsert keepAs row (.error error)
          | .ok table =>
              match Insertion.start table txn row store with
              | (.error error, store) =>
                  (session.setStore store).endInsert keepAs row (.error error)
              | (.ok insertion, store) =>
                  (session.setStore store).launch (.insert insertion keepAs)
  | .delete txn table kept row =>
      match session.row row table with
      | .error failure => session.refuse failure
      | .ok row =>
          let found : Except StoreError Table :=
            match kept, row.location with
            | some _, _ => session.table ⟨kept, table.getD ⟨0⟩⟩
            | none, some location => store.catalog.table location.page.table
            | none, none => .error (.rowNotFound .unplaced)
          match found >>= fun table => Deletion.start table txn row store with
          | .error error => session.refuseBy error
          | .ok deletion => session.launch (.delete deletion)
  | .scan txn form =>
      match session.table form with
      | .error error => session.refuseBy error
      | .ok table => session.launch (.scan ⟨[], ⟨{ table, txn }, none⟩⟩)
  | .openCursor txn form keepAs =>
      match session.table form with
      | .error error => session.refuseBy error
      | .ok table =>
          (.done,
            { session with
              cursors := session.cursors.insert keepAs (session.count, { table, txn }) })
  | .useCursor name use =>
      match session.cursors.get? name with
      | none => session.refuse .noCursor
      | some (serial, cursor) =>
          if cursor.isOpen then session.launch (.seek name serial use ⟨cursor, none⟩)
          else session.endSeek name serial use ⟨.ok false, cursor⟩
  | .rewindCursor name => session.changeCursor name Cursor.rewind
  | .reopenCursor name => session.changeCursor name Cursor.reopen
  | .closeCursor name => session.changeCursor name Cursor.close
  | .fetch txn page mode keepAs =>
      session.launch (.fetch (store.request txn page mode) keepAs)
  | .unpin name =>
      match session.handles.get? name with
      | none => (.flag false, session)
      | some handle =>
          (.flag true,
            { session.setStore (store.unpin handle) with
              handles := session.handles.erase name })
  | .look name =>
      match (session.handles.get? name).bind store.pageOf? with
      | none => session.refuse .noHandle
      | some page => (.page page, session)
  | .poke name dirty painter capture values =>
      match session.handles.get? name with
      | none => session.refuse .noHandle
      | some handle => session.poke handle dirty painter capture values
  | .release txn page =>
      let (result, store) := store.releasePage txn page
      (.ofResult result, session.setStore store)
  | .holds txn page => (.flag (store.locks.holds txn page), session)
  | .flushPage page =>
      let (result, store) := store.flushPage page
      (.ofResult result, session.setStore store)
  | .flushAll =>
      let (result, store) := store.flushAll
      (.ofResult result, session.setStore store)
  | .flushTransaction txn =>
      let (result, store) := store.flushTransaction txn
      (.ofResult result, session.setStore store)
  | .discard page => (.done, session.setStore (store.discard page))
  | .evictTable id =>
      let (result, store) := store.evictTable id
      (.ofResult result, session.setStore store)
  | .isCached page => (.presence (store.frames.contains page) store.cachedCount, session)
  | .unknown => session.refuse .badInput

end TableStore.Session
