import TableStore.Proofs.LockFrames
import TableStore.Proofs.Turns

/-!
# Locks in steps of operations

A request for a page strengthens the locks of its transaction or leaves them as
they are, in any state of the pages; one that fails gives back at most the lock
that it took.  A step of an operation touches the locks only by its request.
-/

set_option autoImplicit false

namespace TableStore

def LockTable.Covers (table : LockTable) (txn : TxnId) (page : PageId) (mode : LockMode) : Prop :=
  ∃ held, table.mode? txn page = some held ∧ held.max mode = held

theorem LockTable.Covers.excludes {table : LockTable} {txn other : TxnId} {page : PageId}
    {mode otherMode : LockMode} (covers : table.Covers txn page mode)
    (otherCovers : table.Covers other page otherMode)
    (conflict : mode.compatible otherMode = false) : other = txn := by
  obtain ⟨held, known, stronger⟩ := covers
  obtain ⟨otherHeld, otherKnown, otherStronger⟩ := otherCovers
  have some_exclusive : held = .exclusive ∨ otherHeld = .exclusive := by
    cases held with
    | exclusive => exact .inl rfl
    | shared =>
        cases otherHeld with
        | exclusive => exact .inr rfl
        | shared =>
            cases mode with
            | exclusive => cases stronger
            | shared =>
                cases otherMode with
                | exclusive => cases otherStronger
                | shared => cases conflict
  rcases some_exclusive with rfl | rfl
  · exact alone_of_exclusive known (by rw [otherKnown]; rfl)
  · exact (alone_of_exclusive otherKnown (by rw [known]; rfl)).symm

namespace Store

variable {store middle after : Store} {request : PageRequest} {txn : TxnId}

/-! ## Requests -/

theorem Relocks.covers (relocks : Relocks request store after) {other : TxnId} {id : PageId}
    {mode : LockMode} (covers : store.locks.Covers other id mode) :
    after.locks.Covers other id mode := by
  obtain ⟨held, known, stronger⟩ := covers
  cases held with
  | exclusive => exact ⟨.exclusive, relocks.exclusive other id known, stronger⟩
  | shared =>
      have kept := relocks.keeps other id (by rw [known]; rfl)
      obtain ⟨now, found⟩ := Option.isSome_iff_exists.mp kept
      refine ⟨now, found, ?_⟩
      cases mode with
      | shared => cases now <;> rfl
      | exclusive => cases stronger

theorem giveBack_modes (sound : store.locks.Sound)
    (locks : middle.locks = (store.locked request).locks)
    (held : request.heldBefore = store.locks.holds request.txn request.page)
    (error : StoreError) :
    (middle.giveBack request error).locks.Sound ∧
      ∀ txn id, (middle.giveBack request error).locks.mode? txn id = middle.locks.mode? txn id ∨
        (middle.giveBack request error).locks.mode? txn id = store.locks.mode? txn id := by
  have middleSound : middle.locks.Sound := locks ▸ sound.acquire
  unfold giveBack
  split
  · exact ⟨middleSound, fun _ _ => .inl rfl⟩
  · next given =>
      refine ⟨middleSound.release, ?_⟩
      intro txn id
      have fresh : store.locks.mode? request.txn request.page = none := by
        simp only [Bool.or_eq_true, not_or, held, LockTable.holds] at given
        simpa using given.1
      have released : (middle.locks.release request.txn request.page).2.mode? txn id = _ :=
        LockTable.mode?_release middleSound
      by_cases here : txn = request.txn ∧ id = request.page
      · rw [if_pos here] at released
        exact .inr (by rw [released, here.1, here.2, fresh])
      · rw [if_neg here] at released
        exact .inl released

inductive Relocked (request : PageRequest) (store after : Store) :
    Progress PageRequest (Except StoreError Handle) → Prop
  | waiting (modes : ∀ txn id, after.locks.mode? txn id = store.locks.mode? txn id) :
      Relocked request store after (.waiting request)
  | failed (error : StoreError) : Relocked request store after (.finished (.error error))
  | granted (serial : Nat) (covers : after.locks.Covers request.txn request.page request.mode) :
      Relocked request store after
        (.finished (.ok ⟨request.page, request.mode, request.txn, serial⟩))

theorem covers_of_granted
    (granted : (store.locks.acquire request.txn request.page request.mode).1 = true) :
    (store.locked request).locks.Covers request.txn request.page request.mode := by
  have mode : (store.locked request).locks.mode? request.txn request.page = _ :=
    LockTable.mode?_of_granted granted
  rw [if_pos ⟨rfl, rfl⟩] at mode
  refine ⟨_, mode, ?_⟩
  cases store.locks.mode? request.txn request.page with
  | none => cases request.mode <;> rfl
  | some held => cases held <;> cases request.mode <;> rfl

/-- No request weakens a lock.  One that fails gives back at most a lock that its
transaction did not have before. -/
theorem attempt_relocks (sound : store.locks.Sound)
    (held : request.heldBefore = store.locks.holds request.txn request.page) :
    (store.attempt request).2.locks.Sound ∧ Relocks request store (store.attempt request).2 ∧
      Relocked request store (store.attempt request).2 (store.attempt request).1 := by
  have pinLocks := locks_pin (store.locked request) request.page
  rcases run : store.attempt request with ⟨answer, after⟩
  cases attempt_cases run with
  | pins granted pinned =>
      have relocks : Relocks request store (store.locked request) := relocks_of_granted granted
      rw [pinned] at pinLocks
      refine ⟨?_, relocks.back ?_, .granted _ ?_⟩
      · rw [pinLocks]
        exact sound.acquire
      · intro txn id
        exact .inl (by rw [pinLocks])
      · rw [pinLocks]
        exact covers_of_granted granted
  | @fails error middle granted unpinned =>
      have relocks : Relocks request store (store.locked request) := relocks_of_granted granted
      rw [unpinned] at pinLocks
      obtain ⟨returned, back⟩ := giveBack_modes sound pinLocks held error
      refine ⟨returned, relocks.back ?_, .failed error⟩
      intro txn id
      rw [← pinLocks]
      exact back txn id
  | waits refused free =>
      have modes (txn : TxnId) (id : PageId) :
          (store.locked request).locks.mode? txn id = store.locks.mode? txn id :=
        LockTable.mode?_of_refused refused
      exact ⟨sound.acquire, .of_modes modes, .waiting modes⟩
  | deadlock refused circle =>
      exact ⟨sound.acquire.cancelWait, .of_modes fun _ _ => LockTable.mode?_of_refused refused,
        .failed _⟩

def obtained (store : Store) (request : PageRequest) : Option Handle :=
  match (store.attempt request).1 with
  | .finished (.ok handle) => some handle
  | _ => none

theorem timely_of_waiting (sound : store.locks.Sound) (timely : request.Timely store txn)
    {next : PageRequest} (run : store.attempt request = (.waiting next, after)) :
    next.Timely after txn := by
  obtain ⟨rfl, held⟩ := timely
  have relocked := (attempt_relocks sound held).2.2
  rw [run] at relocked
  cases relocked with
  | waiting modes => exact PageRequest.Timely.of_modes ⟨rfl, held⟩ fun id => modes request.txn id

end Store

/-! ## Operations -/

namespace Operation

variable {store after : Store} {txn : TxnId} {operation : Operation} {turn : Turn}

def request? : Operation → Option PageRequest
  | .fetch request => some request
  | .insertion task => some task.request
  | .deletion task => some task.request
  | .scan task => task.seek.request

/-- The operation is one of the transaction, and its request remembers whether the
transaction holds the page. -/
def Asks (store : Store) (txn : TxnId) : Operation → Prop
  | .fetch request => request.Timely store txn
  | .insertion task => task.request.Timely store txn
  | .deletion task => task.request.Timely store txn
  | .scan task =>
      task.seek.cursor.txn = txn ∧
        ∀ request, task.seek.request = some request → request.Timely store txn

theorem Asks.request (asks : operation.Asks store txn) {request : PageRequest}
    (makes : operation.request? = some request) : request.Timely store txn := by
  cases operation with
  | fetch task =>
      cases makes
      exact asks
  | insertion task =>
      cases makes
      exact asks
  | deletion task =>
      cases makes
      exact asks
  | scan task => exact asks.2 request makes

theorem Asks.of_modes (asks : operation.Asks store txn)
    (modes : ∀ id, after.locks.mode? txn id = store.locks.mode? txn id) :
    operation.Asks after txn := by
  cases operation with
  | fetch task => exact PageRequest.Timely.of_modes asks modes
  | insertion task => exact PageRequest.Timely.of_modes asks modes
  | deletion task => exact PageRequest.Timely.of_modes asks modes
  | scan task =>
      refine ⟨asks.1, ?_⟩
      intro request makes
      exact (asks.2 request makes).of_modes modes

/-- A step touches the locks only by its request. -/
theorem locks_step (store : Store) (operation : Operation) :
    (operation.step store).2.locks = match operation.request? with
      | some request => (store.attempt request).2.locks
      | none => store.locks := by
  cases operation with
  | fetch request =>
      rcases attempt : store.attempt request with ⟨next | error | handle, got⟩ <;>
        simp only [step, request?, attempt]
  | insertion task =>
      rcases attempt : store.attempt task.request with ⟨next | error | handle, got⟩
      · simp only [step, Insertion.step, request?, attempt]
      · simp only [step, Insertion.step, request?, attempt]
      · rcases placed : Insertion.place task.row handle got with ⟨none | error | inserted, changed⟩
        · have kept := Insertion.locks_of_place placed
          rcases went : task.goOn (changed.unpin handle) with ⟨error | next, gone⟩ <;>
            simp only [step, Insertion.step, request?, attempt, placed, went,
              (Insertion.goOn_asks went).1, Store.locks_unpin, kept]
        · have kept := Insertion.locks_of_place placed
          simp only [step, Insertion.step, request?, attempt, placed, Store.locks_unpin, kept]
        · have kept := Insertion.locks_of_place placed
          simp only [step, Insertion.step, request?, attempt, placed, Store.locks_unpin, kept]
  | deletion task =>
      rcases attempt : store.attempt task.request with ⟨next | error | handle, got⟩
      · simp only [step, Deletion.resume, request?, attempt]
      · simp only [step, Deletion.resume, request?, attempt]
      · rcases removed : Deletion.remove task.row handle got with ⟨error | page, changed⟩ <;>
          have kept := Deletion.locks_of_remove removed <;>
          simp only [step, Deletion.resume, request?, attempt, removed, Store.locks_unpin, kept]
  | scan task =>
      cases asked : task.seek.request with
      | none =>
          rcases chosen : Seek.choose task.seek.cursor store with
            seek | seek | ⟨error | _ | _, cursor⟩ <;>
            simp only [step, Scan.step, Seek.step, request?, asked, chosen]
      | some request =>
          rcases attempt : store.attempt request with ⟨next | error | handle, got⟩ <;>
            simp only [step, Scan.step, Seek.step, request?, asked, attempt, Store.locks_unpin]

theorem Asks.insertion_step (sound : store.locks.Sound) {task next : Insertion}
    (timely : task.request.Timely store txn)
    (run : task.step store = (.waiting next, after) ∨ task.step store = (.again next, after)) :
    next.request.Timely after txn := by
  rcases attempt : store.attempt task.request with ⟨waiting | error | handle, got⟩
  · simp only [Insertion.step, attempt] at run
    rcases run with run | run
    · cases run
      exact Store.timely_of_waiting sound timely attempt
    · cases run
  · simp only [Insertion.step, attempt] at run
    rcases run with run | run <;> cases run
  · rcases placed : Insertion.place task.row handle got with ⟨none | result, changed⟩
    · rcases went : task.goOn (changed.unpin handle) with ⟨error | gone, grown⟩
      · simp only [Insertion.step, attempt, placed, went] at run
        rcases run with run | run <;> cases run
      · simp only [Insertion.step, attempt, placed, went] at run
        rcases run with run | run
        · cases run
        · cases run
          have asks := (Insertion.goOn_asks went).2 next rfl
          rw [timely.1] at asks
          exact asks
    · simp only [Insertion.step, attempt, placed] at run
      rcases run with run | run <;> cases run

theorem Asks.scan_step (sound : store.locks.Sound) {task next : Scan}
    (asks : (Operation.scan task).Asks store txn)
    (run : task.step store = (.waiting next, after) ∨ task.step store = (.again next, after)) :
    (Operation.scan next).Asks after txn := by
  cases asked : task.seek.request with
  | none =>
      simp only [Scan.step, Seek.step, asked] at run
      rcases Store.choose_cases task.seek.cursor store with ⟨-, chosen⟩ | ⟨-, ⟨error, -, chosen⟩ |
        ⟨count, -, ⟨-, chosen⟩ | ⟨-, chosen⟩⟩⟩
      · rw [chosen] at run
        rcases run with run | run <;> cases run
        exact ⟨asks.1, by simp⟩
      · rw [chosen] at run
        rcases run with run | run <;> cases run
      · rw [chosen] at run
        rcases run with run | run <;> cases run
        refine ⟨asks.1, ?_⟩
        intro request makes
        cases makes
        exact ⟨asks.1, asks.1 ▸ rfl⟩
      · rw [chosen] at run
        rcases run with run | run <;> cases run
  | some request =>
      have timely := asks.2 request asked
      rcases attempt : store.attempt request with ⟨waiting | error | handle, got⟩
      · simp only [Scan.step, Seek.step, asked, attempt] at run
        rcases run with run | run <;> cases run
        refine ⟨asks.1, ?_⟩
        intro request makes
        cases makes
        exact Store.timely_of_waiting sound timely attempt
      · simp only [Scan.step, Seek.step, asked, attempt] at run
        rcases run with run | run <;> cases run
      · simp only [Scan.step, Seek.step, asked, attempt] at run
        rcases run with run | run <;> cases run
        exact ⟨asks.1, by simp⟩

theorem Asks.step (sound : store.locks.Sound) (asks : operation.Asks store txn)
    (run : operation.step store = (turn, after)) {next : Operation}
    (goes : turn.next = some next) : next.Asks after txn := by
  cases operation with
  | fetch request =>
      rcases attempt : store.attempt request with ⟨waiting | error | handle, got⟩ <;>
        simp only [Operation.step, attempt] at run <;> cases run <;> cases goes
      exact Store.timely_of_waiting sound asks attempt
  | insertion task =>
      rcases stepped : task.step store with ⟨again | waiting | error | inserted, got⟩ <;>
        simp only [Operation.step, stepped] at run <;> cases run <;> cases goes
      · exact insertion_step sound asks (.inr stepped)
      · exact insertion_step sound asks (.inl stepped)
  | deletion task =>
      rcases attempt : store.attempt task.request with ⟨waiting | error | handle, got⟩ <;>
        simp only [Operation.step, Deletion.resume, attempt] at run
      · cases run
        cases goes
        exact Store.timely_of_waiting sound asks attempt
      · cases run
        cases goes
      · rcases removed : Deletion.remove task.row handle got with ⟨error | page, changed⟩ <;>
          simp only [removed] at run <;> cases run <;> cases goes
  | scan task =>
      rcases stepped : task.step store with ⟨again | waiting | scanned, got⟩ <;>
        simp only [Operation.step, stepped] at run <;> cases run <;> cases goes
      · exact scan_step sound asks (.inr stepped)
      · exact scan_step sound asks (.inl stepped)

theorem start_asks {call : Call} {begun : Option Operation}
    (run : call.start txn store = (begun, after)) :
    after.locks = store.locks ∧ ∀ operation, begun = some operation → operation.Asks after txn := by
  cases Call.begins run with
  | refused => exact ⟨rfl, by simp⟩
  | fetch page mode =>
      refine ⟨rfl, ?_⟩
      intro _ known
      cases known
      exact ⟨rfl, rfl⟩
  | failed found started => exact ⟨(Insertion.start_asks started).1, by simp⟩
  | insertion found started =>
      refine ⟨(Insertion.start_asks started).1, ?_⟩
      intro _ known
      cases known
      exact (Insertion.start_asks started).2 _ rfl
  | deletion started =>
      refine ⟨rfl, ?_⟩
      intro _ known
      cases known
      exact (Store.deletion_start started).2
  | scan found =>
      refine ⟨rfl, ?_⟩
      intro _ known
      cases known
      exact ⟨rfl, by simp⟩

end Operation

end TableStore
