import TableStore.Session.State

/-!
# Operations of a session

Operations that may have to wait are parked and resumed as they are: an
operation goes on from where it was, and its result is used in the way that its
command asked for.
-/

set_option autoImplicit false

namespace TableStore.Session

variable (session : Session)

/-- Ends a fetch: the handle is kept, in place of one of the same name, or given
up. -/
def endFetch (keepAs : Option String) (handle : Handle) : Answer × Session :=
  match session.store.pageOf? handle with
  | none => (.failed .noHandle, session)
  | some page =>
      let answer := Answer.fetched page handle
      match keepAs with
      | none => (answer, session.setStore (session.store.unpin handle))
      | some name =>
          let store := match session.handles.get? name with
            | some old => session.store.unpin old
            | none => session.store
          (answer,
            { session.setStore store with handles := session.handles.insert name handle })

/-- Ends an insertion of a row, which is kept wherever it is now. -/
def endInsert (keepAs : Option String) (row : Row) (result : Except StoreError Inserted) :
    Answer × Session :=
  match result with
  | .ok inserted =>
      (.inserted [inserted.page] inserted.row.location,
        { session with rows := keep session.rows keepAs inserted.row })
  | .error error =>
      (.failed (.store error), { session with rows := keep session.rows keepAs row })

def useOf (use : CursorUse) (sought : Sought) : Answer × Cursor :=
  match use with
  | .hasNext => (Answer.ofExcept .flag sought.found, sought.cursor)
  | .next => (Answer.ofExcept .row sought.next.1, sought.next.2)
  | .item =>
      (Answer.ofExcept (fun row => (row.map Answer.row).getD .nothing) sought.item.1,
        sought.item.2)

/-- Ends a use of a cursor.  The cursor is put back unless another one has taken
its name. -/
def endSeek (name : String) (serial : Nat) (use : CursorUse) (sought : Sought) :
    Answer × Session :=
  let (answer, cursor) := useOf use sought
  match session.cursors.get? name with
  | some (current, _) =>
      if current = serial then
        (answer, { session with cursors := session.cursors.insert name (serial, cursor) })
      else (answer, session)
  | none => (answer, session)

/-- The answer of a scan, which a failure of arithmetic leaves without rows. -/
def scanAnswer (items : Scanned) : Answer :=
  match items.error with
  | some error => if error.isFatal then .failed (.store error) else .scanned items
  | none => .scanned items

def advance (job : Job) : Progress Job Answer × Session :=
  match job with
  | .fetch request keepAs =>
      match session.store.attempt request with
      | (.waiting request, store) => (.waiting (.fetch request keepAs), session.setStore store)
      | (.finished (.error error), store) =>
          (.finished (.failed (.store error)), session.setStore store)
      | (.finished (.ok handle), store) =>
          let (answer, session) := (session.setStore store).endFetch keepAs handle
          (.finished answer, session)
  | .insert insertion keepAs =>
      match insertion.resume session.store with
      | (.waiting insertion, store) =>
          (.waiting (.insert insertion keepAs), session.setStore store)
      | (.finished result, store) =>
          let (answer, session) :=
            (session.setStore store).endInsert keepAs insertion.row result
          (.finished answer, session)
  | .delete deletion =>
      match deletion.resume session.store with
      | (.waiting deletion, store) => (.waiting (.delete deletion), session.setStore store)
      | (.finished result, store) =>
          (.finished (Answer.ofExcept (fun page => .pageIds [page]) result),
            session.setStore store)
  | .scan scan =>
      match scan.resume session.store with
      | (.waiting scan, store) => (.waiting (.scan scan), session.setStore store)
      | (.finished items, store) => (.finished (scanAnswer items), session.setStore store)
  | .seek name serial use seek =>
      match seek.resume session.store with
      | (.waiting seek, store) =>
          (.waiting (.seek name serial use seek), session.setStore store)
      | (.finished sought, store) =>
          let (answer, session) := (session.setStore store).endSeek name serial use sought
          (.finished answer, session)

def launch (job : Job) : Answer × Session :=
  match session.advance job with
  | (.finished answer, session) => (answer, session)
  | (.waiting job, session) =>
      (.blocked, { session with parked := session.parked ++ [⟨session.count, job⟩] })

end TableStore.Session
