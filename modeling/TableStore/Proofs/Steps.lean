import TableStore.Proofs.Operations

/-!
# Steps of operations

One step of an operation makes one request for a page at most.  If the page is
granted, the step hands it out, reads its rows, changes a row on it or leaves it as
it is; an insertion may turn to another page, and appends that if it is missing.
What a step preserves is read off the cases of this one inversion.
-/

set_option autoImplicit false

namespace TableStore

def Operation.writes : Operation → Bool
  | .insertion _ => true
  | .deletion _ => true
  | _ => false

namespace Store

variable {store after got : Store} {txn : TxnId} {request : PageRequest} {handle : Handle}
  {turn : Turn}

structure Granted (txn : TxnId) (request : PageRequest) (store : Store) (handle : Handle)
    (got : Store) : Prop where
  timely : request.Timely store txn
  attempt : store.attempt request = (.finished (.ok handle), got)
  sound : got.Sound
  catalog : got.catalog = store.catalog
  owner : handle.owner = txn
  page : handle.page = request.page
  cached : Holds got handle.page handle.serial
  holds : (got.locks.mode? txn handle.page).isSome = true
  exclusive : request.mode = .exclusive → got.locks.mode? txn handle.page = some .exclusive

inductive Finds (table : Table) (txn : TxnId) (row : Row) (store : Store) :
    Except StoreError Insertion → Store → Prop
  | fails (error : StoreError) : Finds table txn row store (.error error) store
  | there (known : Nat) (page : PageId) :
      Finds table txn row store (.ok (Insertion.askFor table txn row known page store)) store
  | appended {after : Store} (appends : Appends store after table) :
      Finds table txn row store
        (.ok (Insertion.askFor table txn row 0 (store.nextPage table) after)) after
  | overflowed {after : Store} (overflows : Overflows store after table) :
      Finds table txn row store
        (.ok (Insertion.askFor table txn row 0 (store.nextPage table) after)) after

inductive Steps (store : Store) (txn : TxnId) (operation : Operation) : Turn → Store → Prop
  /-- A scan looks for its next page, or goes on to its next row. -/
  | seeks {next : Scan} (ready : (Operation.scan next).Ready store txn) :
      Steps store txn operation ⟨some (.scan next), none, []⟩ store
  /-- A scan is at its end, or finds that it cannot go on. -/
  | stops : Steps store txn operation ⟨none, none, []⟩ store
  | waits {request : PageRequest} {got : Store} (timely : request.Timely store txn)
      (attempt : store.attempt request = (.waiting request, got))
      (modes : ∀ id, got.locks.mode? txn id = store.locks.mode? txn id) :
      Steps store txn operation ⟨some operation, none, []⟩ got
  | fails {request : PageRequest} {error : StoreError} {got : Store}
      (timely : request.Timely store txn)
      (attempt : store.attempt request = (.finished (.error error), got)) :
      Steps store txn operation ⟨none, none, []⟩ got
  | fetches {request : PageRequest} {handle : Handle} {got : Store}
      (granted : Granted txn request store handle got) :
      Steps store txn operation ⟨none, some handle, [got.readEvent handle]⟩ got
  /-- A scan reads all rows of a page. -/
  | reads {request : PageRequest} {handle : Handle} {got : Store} {next : Scan}
      (granted : Granted txn request store handle got)
      (ready : (Operation.scan next).Ready (got.unpin handle) txn) :
      Steps store txn operation ⟨some (.scan next), none, [got.readEvent handle]⟩
        (got.unpin handle)
  | leaves {request : PageRequest} {handle : Handle} {got : Store}
      (granted : Granted txn request store handle got) :
      Steps store txn operation ⟨none, none, []⟩ (got.unpin handle)
  | changes {request : PageRequest} {handle : Handle} {got changed : Store} {change : Change}
      (granted : Granted txn request store handle got) (writes : operation.writes = true)
      (exclusive : got.locks.mode? txn change.page = some .exclusive)
      (changes : Changes got changed txn change) :
      Steps store txn operation
        ⟨none, none, [.changed txn change ((changed.unpin handle).view change.page)]⟩
        (changed.unpin handle)
  /-- The page is full, and an insertion turns to another one. -/
  | turns {task : Insertion} {handle : Handle} {got after : Store}
      {result : Except StoreError Insertion} (granted : Granted txn task.request store handle got)
      (own : operation = .insertion task)
      (exclusive : got.locks.mode? txn task.request.page = some .exclusive)
      (finds : Finds task.table txn task.row (got.unpin handle) result after) :
      Steps store txn operation ⟨result.toOption.map .insertion, none, []⟩ after

theorem next_of_turns {result : Except StoreError Insertion} {next : Operation}
    (known : result.toOption.map Operation.insertion = some next) :
    ∃ task, result = .ok task ∧ next = .insertion task := by
  cases result with
  | error error => cases known
  | ok task =>
      cases known
      exact ⟨task, rfl, rfl⟩

/-! ## Requests -/

section

variable (sound : store.Sound) (timely : request.Timely store txn)

include sound timely

theorem Sound.waits {next : PageRequest} (attempt : store.attempt request = (.waiting next, got)) :
    next = request ∧ ∀ id, got.locks.mode? txn id = store.locks.mode? txn id := by
  have attempted : Attempted (fun _ => True) request store got _ :=
    sound.attempted (timely.1 ▸ timely.2) attempt .any
  cases attempted.answered with
  | waiting modes => exact ⟨rfl, modes txn⟩

theorem Sound.grants (attempt : store.attempt request = (.finished (.ok handle), got)) :
    Granted txn request store handle got := by
  have attempted : Attempted (fun _ => True) request store got _ :=
    sound.attempted (timely.1 ▸ timely.2) attempt .any
  obtain ⟨rfl, held⟩ := timely
  cases attempted.answered with
  | granted serial cached mode =>
      refine ⟨⟨rfl, held⟩, attempt, attempted.sound, attempted.catalog, rfl, rfl, cached, ?_, ?_⟩
      · rw [mode]
        rfl
      · intro exclusive
        rw [mode, exclusive]
        exact LockMode.stronger_exclusive _

end

theorem Granted.unpinned (granted : Granted txn request store handle got) :
    (got.unpin handle).Sound ∧ (got.unpin handle).catalog = store.catalog := by
  obtain ⟨rests, -⟩ := granted.sound.unpin handle
  exact ⟨rests.sound granted.sound, rests.catalog.trans granted.catalog⟩

/-! ## Pages for insertions -/

section

variable {table : Table} {row : Row} {result : Except StoreError Insertion}

theorem Finds.grows (finds : Finds table txn row store result after) (sound : store.Sound)
    (registered : store.catalog.tables.get? table.id = some table) : Grows store after := by
  cases finds with
  | fails error => exact sound.grows
  | there known page => exact sound.grows
  | appended appends => exact appends.grows registered
  | overflowed overflows => exact overflows.grows

theorem Finds.ready (finds : Finds table txn row store result after)
    (registered : store.catalog.tables.get? table.id = some table) {task : Insertion}
    (goes : result = .ok task) :
    task.table = table ∧ (Operation.insertion task).Ready after txn := by
  cases finds with
  | fails error => cases goes
  | there known page =>
      cases goes
      exact ⟨rfl, registered, rfl, rfl, rfl⟩
  | appended appends =>
      cases goes
      refine ⟨rfl, ?_, rfl, rfl, rfl⟩
      rw [appends.disk]
      exact registered
  | overflowed overflows =>
      cases goes
      refine ⟨rfl, ?_, rfl, rfl, rfl⟩
      rw [overflows.disk]
      exact registered

theorem Sound.append_finds (sound : store.Sound)
    (registered : store.catalog.tables.get? table.id = some table)
    (run : Insertion.append table txn row store = (result, after)) :
    Finds table txn row store result after ∧
      ∀ task, result = .ok task → task.request.page = store.nextPage table := by
  rcases sound.append registered row with
    ⟨fault, -, -, failed⟩ | ⟨grown, appended, appends | overflows⟩
  · cases failed.symm.trans run
    exact ⟨.fails _, by simp⟩
  · cases appended.symm.trans run
    exact ⟨.appended appends, by rintro _ ⟨⟩; rfl⟩
  · cases appended.symm.trans run
    exact ⟨.overflowed overflows, by rintro _ ⟨⟩; rfl⟩

theorem goOn_askFor {row : Row} {known number : Nat} (small : number < 2 ^ 32) :
    (Insertion.askFor table txn row known (table.page (UInt32.ofNat number)) store).goOn after =
      if number + 1 < known then
        (.ok (Insertion.askFor table txn row known (table.page (UInt32.ofNat (number + 1))) after),
          after)
      else Insertion.append table txn row after := by
  have numbered : (UInt32.ofNat number).toNat = number := by
    rw [UInt32.toNat_ofNat', Nat.mod_eq_of_lt small]
  change (if (UInt32.ofNat number).toNat + 1 < known then
      (.ok (Insertion.askFor table txn row known
        (table.page (UInt32.ofNat ((UInt32.ofNat number).toNat + 1))) after), after)
    else Insertion.append table txn row after) = _
  rw [numbered]

theorem Sound.goOn_finds (sound : store.Sound) {task : Insertion}
    (registered : store.catalog.tables.get? task.table.id = some task.table)
    (run : task.goOn store = (result, after)) :
    Finds task.table task.request.txn task.row store result after := by
  simp only [Insertion.goOn] at run
  split at run
  · cases run
    exact .there _ _
  · exact (sound.append_finds registered run).1

theorem Sound.start_finds (sound : store.Sound)
    (registered : store.catalog.tables.get? table.id = some table)
    (run : Insertion.start table txn row store = (result, after)) :
    Finds table txn row store result after ∧
      (after = store ∨ table.countedPages store.disk = 0) ∧
      ∀ task, result = .ok task → task.request.page = table.page 0 := by
  unfold Insertion.start at run
  split at run
  · rcases Nat.eq_zero_or_pos table.pageSize with unsized | sized
    · rw [Table.pageCount_of_unsized unsized] at run
      cases run
      exact ⟨.fails _, .inl rfl, by simp⟩
    · simp only [Table.pageCount_eq sized] at run
      split at run
      · cases run
        refine ⟨.there _ _, .inl rfl, ?_⟩
        intro _ known
        cases known
        rfl
      · next none =>
          have empty : table.countedPages store.disk = 0 := by
            rw [UInt32.lt_iff_toNat_lt] at none
            exact Nat.eq_zero_of_not_pos none
          obtain ⟨finds, asks⟩ := sound.append_finds registered run
          refine ⟨finds, .inr empty, fun task known => (asks task known).trans ?_⟩
          exact congrArg table.page (UInt32.toNat_inj.mp empty)
  · cases run
    exact ⟨.fails _, .inl rfl, by simp⟩

end

/-! ## Insertions and deletions -/

section

variable {task : Insertion} {result : Except StoreError Inserted}
  (attempt : store.attempt task.request = (.finished (.ok handle), got))

include attempt

theorem step_of_placed (placed : Insertion.place task.row handle got = (some result, after)) :
    task.step store = (.finished result, after.unpin handle) := by
  simp only [Insertion.step, attempt, placed]

theorem step_of_full (placed : Insertion.place task.row handle got = (none, got)) :
    task.step store = match task.goOn (got.unpin handle) with
      | (.ok next, store) => (.again next, store)
      | (.error error, store) => (.finished (.error error), store) := by
  rcases went : task.goOn (got.unpin handle) with ⟨result, gone⟩
  cases result <;> simp only [Insertion.step, attempt, placed, went]

theorem step_of_goOn {result : Except StoreError Insertion}
    (placed : Insertion.place task.row handle got = (none, got))
    (went : task.goOn (got.unpin handle) = (result, after)) :
    (Operation.insertion task).step store =
      (⟨result.toOption.map .insertion, none, []⟩, after) := by
  rw [Operation.step, step_of_full attempt placed, went]
  cases result <;> rfl

end

theorem Sound.insertion_steps (sound : store.Sound) {task : Insertion}
    (ready : (Operation.insertion task).Ready store txn)
    (run : (Operation.insertion task).step store = (turn, after)) :
    Steps store txn (.insertion task) turn after := by
  obtain ⟨registered, exclusive, timely⟩ := ready
  rcases attempt : store.attempt task.request with ⟨next | error | handle, got⟩
  · obtain ⟨rfl, modes⟩ := sound.waits timely attempt
    rw [Operation.step, Insertion.step, attempt] at run
    cases run
    exact .waits timely attempt modes
  · rw [Operation.step, Insertion.step, attempt] at run
    cases run
    exact .fails timely attempt
  · have granted := sound.grants timely attempt
    have holds := granted.exclusive exclusive
    obtain ⟨frame, found, same⟩ := granted.cached
    rcases granted.sound.place task.row handle found same with
      ⟨-, placed⟩ | ⟨-, error, placed⟩ | ⟨slot, -, numbered, placed, changes⟩
    · obtain ⟨unpinned, catalog⟩ := granted.unpinned
      rcases went : task.goOn (got.unpin handle) with ⟨result, gone⟩
      rw [step_of_goOn attempt placed went] at run
      cases run
      have finds := unpinned.goOn_finds (catalog ▸ registered) went
      rw [timely.1] at finds
      exact .turns granted rfl (granted.page ▸ holds) finds
    · rw [Operation.step, step_of_placed attempt placed] at run
      cases run
      exact .leaves granted
    · rw [Operation.step, step_of_placed attempt (Prod.ext placed rfl)] at run
      cases run
      rw [granted.owner] at changes
      have step : Steps store txn (.insertion task) _ _ := .changes granted rfl holds changes
      simp only [Operation.insertEvents, Row.placeAt]
      rw [numbered, timely.1]
      exact step

theorem resume_of_removed {task : Deletion} {result : Except StoreError PageId}
    (attempt : store.attempt task.request = (.finished (.ok handle), got))
    (removed : Deletion.remove task.row handle got = (result, after)) :
    task.resume store = (.finished result, after.unpin handle) := by
  simp only [Deletion.resume, attempt, removed]

theorem Sound.deletion_steps (sound : store.Sound) {task : Deletion}
    (ready : (Operation.deletion task).Ready store txn)
    (run : (Operation.deletion task).step store = (turn, after)) :
    Steps store txn (.deletion task) turn after := by
  obtain ⟨exclusive, timely⟩ := ready
  rcases attempt : store.attempt task.request with ⟨next | error | handle, got⟩
  · obtain ⟨rfl, modes⟩ := sound.waits timely attempt
    rw [Operation.step, Deletion.resume, attempt] at run
    cases run
    exact .waits timely attempt modes
  · rw [Operation.step, Deletion.resume, attempt] at run
    cases run
    exact .fails timely attempt
  · have granted := sound.grants timely attempt
    have holds := granted.exclusive exclusive
    obtain ⟨frame, found, same⟩ := granted.cached
    rcases granted.sound.remove task.row handle found same with
      ⟨removed, -⟩ | ⟨location, values, placed, -, -, removed, changes⟩
    · rw [Operation.step, resume_of_removed attempt removed] at run
      cases run
      exact .leaves granted
    · rw [Operation.step, resume_of_removed attempt (Prod.ext removed rfl)] at run
      cases run
      rw [granted.owner] at changes
      have step : Steps store txn (.deletion task) _ _ := .changes granted rfl holds changes
      simp only [Operation.deleteEvents, placed]
      rw [timely.1]
      exact step

/-! ## Scans -/

/-- What a seek without a request can choose: the row that is buffered, a request
for the next page, or its end. -/
theorem choose_cases (cursor : Cursor) (store : Store) :
    (cursor.buffered ≠ [] ∧ Seek.choose cursor store = .finished ⟨.ok true, cursor⟩) ∨
    cursor.buffered = [] ∧
      ((∃ error, cursor.table.pageCount store.disk = .error error ∧
        Seek.choose cursor store = .finished ⟨.error error, cursor⟩) ∨
      ∃ count, cursor.table.pageCount store.disk = .ok count ∧
        ((cursor.nextPage < count ∧ Seek.choose cursor store = .again ⟨cursor, some
            (store.request cursor.txn (cursor.table.page cursor.nextPage) .shared)⟩) ∨
          ¬ cursor.nextPage < count ∧
            Seek.choose cursor store = .finished ⟨.ok false, cursor⟩)) := by
  by_cases empty : cursor.buffered = []
  · refine .inr ⟨empty, ?_⟩
    have isEmpty : cursor.buffered.isEmpty = true := List.isEmpty_iff.mpr empty
    simp only [Seek.choose, isEmpty, if_true]
    cases cursor.table.pageCount store.disk with
    | error error => exact .inl ⟨error, rfl, rfl⟩
    | ok count =>
        refine .inr ⟨count, rfl, ?_⟩
        by_cases more : cursor.nextPage < count
        · exact .inl ⟨more, if_pos more⟩
        · exact .inr ⟨more, if_neg more⟩
  · refine .inl ⟨empty, ?_⟩
    rw [Seek.choose, if_neg fun isEmpty => empty (List.isEmpty_iff.mp isEmpty)]

theorem Sound.scan_steps (sound : store.Sound) {task : Scan}
    (ready : (Operation.scan task).Ready store txn)
    (run : (Operation.scan task).step store = (turn, after)) :
    Steps store txn (.scan task) turn after := by
  obtain ⟨own, requested⟩ := ready
  cases asked : task.seek.request with
  | none =>
      simp only [Operation.step, Scan.step, Seek.step, asked] at run
      rcases choose_cases task.seek.cursor store with ⟨-, chosen⟩ | ⟨empty, ⟨error, -, chosen⟩ |
        ⟨count, -, ⟨-, chosen⟩ | ⟨-, chosen⟩⟩⟩ <;>
        simp only [chosen, Operation.scanEvents, asked] at run <;> cases run
      · exact .seeks ⟨own, by simp⟩
      · exact .stops
      · refine .seeks ⟨own, ?_⟩
        intro _ known
        cases known
        exact ⟨⟨own, own ▸ rfl⟩, empty⟩
      · exact .stops
  | some request =>
      obtain ⟨timely, empty⟩ := requested request asked
      rcases attempt : store.attempt request with ⟨next | error | handle, got⟩ <;>
        simp only [Operation.step, Scan.step, Seek.step, asked, attempt] at run <;> cases run
      · obtain ⟨rfl, modes⟩ := sound.waits timely attempt
        rw [← asked]
        exact .waits timely attempt modes
      · exact .fails timely attempt
      · have granted := sound.grants timely attempt
        have event : Operation.scanEvents task.seek ⟨Seek.take task.seek.cursor handle got, none⟩ =
            [got.readEvent handle] := by
          rw [Operation.scanEvents, asked, Seek.take, empty, List.nil_append]
          simp only [readEvent, granted.owner, granted.page, timely.1]
        rw [event]
        exact .reads granted ⟨own, by simp⟩

theorem Sound.fetch_steps (sound : store.Sound) (timely : request.Timely store txn)
    (run : (Operation.fetch request).step store = (turn, after)) :
    Steps store txn (.fetch request) turn after := by
  rcases attempt : store.attempt request with ⟨next | error | handle, got⟩ <;>
    simp only [Operation.step, attempt] at run <;> cases run
  · obtain ⟨rfl, modes⟩ := sound.waits timely attempt
    exact .waits timely attempt modes
  · exact .fails timely attempt
  · exact .fetches (sound.grants timely attempt)

theorem Sound.steps (sound : store.Sound) {operation : Operation}
    (ready : operation.Ready store txn) (run : operation.step store = (turn, after)) :
    Steps store txn operation turn after := by
  cases operation with
  | fetch request => exact sound.fetch_steps ready run
  | insertion task => exact sound.insertion_steps ready run
  | deletion task => exact sound.deletion_steps ready run
  | scan task => exact sound.scan_steps ready run

end Store

end TableStore
