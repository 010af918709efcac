import TableStore.Session.Execute

/-!
# Sessions

A session drives one store by commands, for many transactions side by side.  An
operation that has to wait is parked.  After each command every operation that
was parked before is resumed once, in the order in which they were parked, and
goes on from where it was.  While a transaction has a parked operation, its
other commands are refused.
-/

set_option autoImplicit false

namespace TableStore.Session

variable (session : Session)

def ownerOf (command : Command) : Option TxnId :=
  match command with
  | .complete txn _ | .dropTransaction txn | .insert txn .. | .delete txn .. | .scan txn _
  | .openCursor txn .. | .fetch txn .. | .release txn _ | .holds txn _
  | .flushTransaction txn => some txn
  | .useCursor name _ | .rewindCursor name | .reopenCursor name | .closeCursor name =>
      (session.cursors.get? name).map (·.2.txn)
  | _ => none

def perform (command : Command) : Answer × Session :=
  if (session.ownerOf command).any session.isWaiting then session.refuse .busy
  else session.execute command

/-- Resumes parked operations, each of them once.  Answers what those that ended
are answered with. -/
def resumeEach : List Parked → Session → List (Nat × Answer) × List Parked × Session
  | [], session => ([], [], session)
  | parked :: others, session =>
      match session.advance parked.job with
      | (.finished answer, session) =>
          let (answers, waiting, session) := resumeEach others session
          ((parked.index, answer) :: answers, waiting, session)
      | (.waiting job, session) =>
          let (answers, waiting, session) := resumeEach others session
          (answers, { parked with job } :: waiting, session)

/-- Takes the state of the session.  Its cached pages are those below the greatest page
count that their table was found to have whenever a state was taken. -/
def observe : StateReport × Session :=
  let store := session.store
  let seen := session.seen.map fun id count =>
    match store.catalog.table id >>= fun table => table.pageCount store.disk with
    | .ok now => max count now.toNat
    | .error _ => count
  let state : StateReport :=
    { count := store.cachedCount
      cached := store.frames.keys.filter fun page =>
        (seen.get? page.table).any fun count => page.number.toNat < count
      locks := store.locks.held.keys.map fun txn =>
        (txn, (store.locks.heldPages txn).filterMap fun page =>
          (store.locks.mode? txn page).map fun mode => (page, mode)) }
  (state, { session with seen })

/-- Carries a command out and then resumes the operations that were parked
before it.  The state is taken if the session is traced. -/
def step (traced : Bool) (command : Command) : StepReport × Session :=
  let before := session.parked
  let (answer, session) := session.perform command
  let latest := session.parked.drop before.length
  let (resumed, waiting, session) := resumeEach before session
  let session := { session with parked := waiting ++ latest, count := session.count + 1 }
  if traced then
    let (state, session) := session.observe
    (⟨answer, resumed, some state⟩, session)
  else (⟨answer, resumed, none⟩, session)

def run (traced : Bool) : List Command → Session → List StepReport × Session
  | [], session => ([], session)
  | command :: commands, session =>
      let (report, session) := session.step traced command
      let (reports, session) := run traced commands session
      (report :: reports, session)

def waiting : List Nat := session.parked.map (·.index)

end TableStore.Session
