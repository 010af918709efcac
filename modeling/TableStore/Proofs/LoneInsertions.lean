import TableStore.Proofs.Deadlocks
import TableStore.Proofs.LockSteps
import TableStore.Proofs.SerialRequests
import TableStore.Proofs.TableEntries

/-!
# Steps of insertions

An insertion whose transaction is the only one with locks gets every page that it
asks for, and puts its row into a free slot or goes on to another page.  While the
transaction holds the first page exclusively and waits for nothing, the other ones
are refused this page, and none of them finds a deadlock.
-/

set_option autoImplicit false

namespace TableStore

structure Insertion.On (task : Insertion) (tables : Tables) (table : Table) : Prop where
  own : task.table = table
  alike : task.row.schema.alike table.schema = true
  known : task.known ≤ tables.count table.id
  page : ∃ number < tables.count table.id, task.request.page = table.page (UInt32.ofNat number)

theorem Insertion.On.mono {task : Insertion} {tables later : Tables} {table : Table}
    (on : task.On tables table) (more : tables.count table.id ≤ later.count table.id) :
    task.On later table where
  own := on.own
  alike := on.alike
  known := Nat.le_trans on.known more
  page := by
    obtain ⟨number, inside, page⟩ := on.page
    exact ⟨number, Nat.lt_of_lt_of_le inside more, page⟩

inductive Insertion.Goes (task : Insertion) (tables : Tables) (table : Table) :
    Step Insertion (Except StoreError Inserted) → Tables → Prop
  | placed {number slot : Nat} {contents : Contents} {inserted : Inserted}
      (inside : number < tables.count table.id)
      (seen : tables.page (table.page (UInt32.ofNat number)) = .ok contents)
      (free : contents[slot]? = some none)
      (entry : inserted.row.entry =
        (some ⟨table.page (UInt32.ofNat number), UInt16.ofNat slot⟩, task.row.values)) :
      Goes task tables table (.finished (.ok inserted))
        (tables.edit contents ⟨table.page (UInt32.ofNat number), slot, some task.row.values⟩)
  | further {next : Insertion} (same : next.row = task.row) (on : next.On tables table) :
      Goes task tables table (.again next) tables
  | appended {next : Insertion} (same : next.row = task.row)
      (on : next.On (tables.grow table) table) :
      Goes task tables table (.again next) (tables.grow table)

namespace Insertion

variable {task : Insertion} {tables later : Tables} {table : Table}
  {answer : Step Insertion (Except StoreError Inserted)}

/-- What the step of an insertion ends with: the row with its place, or nothing if
the insertion goes on with the same row. -/
inductive Yields (task : Insertion) :
    Step Insertion (Except StoreError Inserted) → Option Entry → Prop
  | again {next : Insertion} (same : next.row = task.row) : Yields task (.again next) none
  | waiting {next : Insertion} (same : next.row = task.row) : Yields task (.waiting next) none
  | placed {inserted : Inserted} (values : inserted.row.values = task.row.values) :
      Yields task (.finished (.ok inserted)) (some inserted.row.entry)

theorem Goes.readable (goes : task.Goes tables table answer later)
    (readable : tables.Readable table) (small : tables.count table.id < 2 ^ 32) :
    later.Readable table ∧ tables.count table.id ≤ later.count table.id := by
  cases goes with
  | placed inside seen free entry => exact ⟨readable.edit seen inside _, Nat.le_refl _⟩
  | further same on => exact ⟨readable, Nat.le_refl _⟩
  | appended same on =>
      refine ⟨readable.grow small, ?_⟩
      rw [Tables.count_grow]
      exact Nat.le_succ _

theorem Goes.on (goes : task.Goes tables table answer later) {next : Insertion}
    (again : answer = .again next) : next.On later table := by
  cases goes with
  | placed inside seen free entry => cases again
  | further same on =>
      cases again
      exact on
  | appended same on =>
      cases again
      exact on

/-- The rows of the table are those from before, and the one that was put into a
slot. -/
theorem Goes.yields (goes : task.Goes tables table answer later)
    (readable : tables.Readable table) (small : tables.count table.id < 2 ^ 32) :
    ∃ entry, task.Yields answer entry ∧
      (later.entries table (later.count table.id)).Perm
        (entry.toList ++ tables.entries table (tables.count table.id)) := by
  cases goes with
  | placed inside seen free entry =>
      refine ⟨_, .placed (congrArg Prod.snd entry), ?_⟩
      rw [entry]
      exact Tables.entries_put seen free inside small
  | further same on => exact ⟨none, .again same, .refl _⟩
  | appended same on =>
      refine ⟨none, .again same, ?_⟩
      rw [readable.entries_grow small]
      exact .refl _

end Insertion

namespace Store

variable {store after : Store} {txn owner : TxnId} {tables : Tables} {table : Table}
  {task : Insertion} {request : PageRequest} {handle : Handle}

/-! ## Transactions without rivals -/

/-- Without locks it does not matter who has a store to itself. -/
theorem Serial.hand (serial : Serial store owner [] tables)
    (free : ∀ id, store.locks.mode? owner id = none) (txn : TxnId) :
    Serial store txn [] tables where
  sound := serial.sound
  addressable := serial.addressable
  pinned := serial.pinned
  recent := serial.recent
  room := serial.room
  writable := serial.writable
  serials := serial.serials
  alone other id _ := by
    by_cases same : other = owner
    · rw [same]
      exact free id
    · exact serial.alone other id same
  page id := by
    refine ⟨(serial.page id).flushed, (serial.page id).look, (serial.page id).clean, ?_⟩
    intro copy changer cached dirty
    have exclusive := ((serial.page id).dirty copy changer cached dirty).2
    cases (free id).symm.trans exclusive
  count := serial.count

theorem attempt_locks (run : store.attempt request = (.finished (.ok handle), after)) :
    (store.locks.acquire request.txn request.page request.mode).1 = true ∧
      after.locks = (store.locks.acquire request.txn request.page request.mode).2 := by
  cases attempt_cases run with
  | pins granted pinned =>
      have kept := locks_pin (store.locked request) request.page
      rw [pinned] at kept
      exact ⟨granted, kept⟩

theorem Serial.goes (serial : Serial store txn [] tables) (readable : tables.Readable table)
    (on : task.On tables table) (ready : (Operation.insertion task).Ready store txn)
    {answer : Step Insertion (Except StoreError Inserted)} (run : task.step store = (answer, after))
    (addressable : after.Addressable) :
    ∃ later, task.Goes tables table answer later ∧ Serial after txn [] later ∧
      after.catalog = store.catalog := by
  obtain ⟨registered, exclusive, timely⟩ := ready
  obtain ⟨number, inside, page⟩ := on.page
  rw [on.own] at registered
  have own : task.request.page.table = table.id := by rw [page]; rfl
  rcases serial.passed.try serial timely exclusive (own ▸ registered) on.alike with
    ⟨error, -, failed, -⟩ | ⟨contents, seen, ⟨slot, inserted, put, free, step, entry, served⟩ |
      ⟨passed, full, reached, step⟩⟩
  · obtain ⟨contents, seen, -⟩ := readable.page number inside
    rw [page, seen] at failed
    cases failed
  · cases step.symm.trans run
    rw [page] at seen entry served
    exact ⟨_, .placed inside seen (Contents.free_of_findIdx? free) entry, served.serial,
      served.catalog⟩
  · rw [run] at step
    have known : passed.catalog.tables.get? table.id = some table :=
      reached.ages.catalog ▸ registered
    have small := serial.small registered
    have numbered : task.request.page.number.toNat = number := by
      rw [page, Table.page, UInt32.toNat_ofNat', Nat.mod_eq_of_lt (by omega)]
    rcases went : task.goOn passed with ⟨result, gone⟩
    rw [went] at step
    simp only [Insertion.goOn, numbered, on.own] at went
    split at went
    · next more =>
        cases went
        cases step
        refine ⟨tables, .further rfl ⟨rfl, on.alike, on.known, number + 1, ?_, rfl⟩,
          reached.serial, reached.ages.catalog⟩
        exact Nat.lt_of_lt_of_le more on.known
    · rcases reached.serial.sound.append known task.row with
        ⟨fault, -, unsized | unbuffered, -⟩ | ⟨grown, appended, appends | overflows⟩
      · exact absurd unsized (Nat.ne_of_gt readable.sized)
      · have none := ((reached.serial.unbuffered known).mp unbuffered).2
        omega
      · cases appended.symm.trans went
        cases step
        have next : passed.nextPage table = table.page (UInt32.ofNat (tables.count table.id)) :=
          reached.serial.nextPage known
        refine ⟨_, .appended rfl ⟨rfl, on.alike, Nat.zero_le _, tables.count table.id, ?_, next⟩,
          reached.serial.append known appends, ?_⟩
        · rw [Tables.count_grow]
          exact Nat.lt_succ_self _
        · rw [appends.disk]
          exact reached.ages.catalog
      · cases appended.symm.trans went
        cases step
        exact absurd addressable (overflows.unaddressable known)

theorem Serial.granted (serial : Serial store txn [] tables) (readable : tables.Readable table)
    (on : task.On tables table) (ready : (Operation.insertion task).Ready store txn) :
    (store.locks.acquire txn task.request.page .exclusive).1 = true ∧
      (task.step store).2.locks = (store.locks.acquire txn task.request.page .exclusive).2 ∧
      ∀ next after, task.step store ≠ (.waiting next, after) := by
  obtain ⟨-, exclusive, timely⟩ := ready
  obtain ⟨number, inside, page⟩ := on.page
  obtain ⟨contents, seen, -⟩ := readable.page number inside
  rw [← page] at seen
  obtain ⟨pins, got, attempt, -⟩ := (serial.attempt timely).2 contents seen
  obtain ⟨granted, locks⟩ := attempt_locks attempt
  rw [exclusive, timely.1] at granted locks
  refine ⟨granted, ?_, ?_⟩
  · have step := Operation.locks_step store (.insertion task)
    have same : ((Operation.insertion task).step store).2 = (task.step store).2 := by
      rcases run : task.step store with ⟨again | waiting | error | inserted, stepped⟩ <;>
        simp only [Operation.step, run]
    simp only [same, Operation.request?, attempt] at step
    exact step.trans locks
  · intro next after waits
    unfold Insertion.step at waits
    rw [attempt] at waits
    dsimp only at waits
    split at waits
    · cases waits
    · split at waits <;> cases waits

/-! ## Transactions that wait -/

structure Leads (store : Store) (owner : TxnId) (page : PageId) : Prop where
  holds : store.locks.mode? owner page = some .exclusive
  patient : store.locks.waiting.get? owner = none

/-- The others are refused the page that one transaction holds exclusively, and as
that one waits for nothing, nobody is in a deadlock. -/
theorem Serial.refused (serial : Serial store owner [] tables)
    (leads : store.Leads owner request.page) (different : request.txn ≠ owner)
    (exclusive : request.mode = .exclusive) :
    ∃ locks, store.attempt request = (.waiting request, { store with locks }) ∧
      locks.waiting = store.locks.waiting.insert request.txn ⟨request.page, request.mode⟩ ∧
      (∀ txn id, locks.mode? txn id = store.locks.mode? txn id) ∧
      Serial { store with locks } owner [] tables := by
  have blocks : owner ∈ store.locks.blockers request.txn request.page request.mode := by
    refine LockTable.mem_blockers_iff.mpr ⟨Ne.symm different, .exclusive, leads.holds, ?_⟩
    rw [exclusive]
    rfl
  have blocked : (store.locks.blockers request.txn request.page request.mode).isEmpty = false :=
    List.isEmpty_eq_false_iff.mpr (List.ne_nil_of_mem blocks)
  let locks : LockTable := { store.locks with
    waiting := store.locks.waiting.insert request.txn ⟨request.page, request.mode⟩ }
  have acquire : store.locks.acquire request.txn request.page request.mode = (false, locks) := by
    simp only [LockTable.acquire, blocked, Bool.false_eq_true, if_false]
    rfl
  have waits : locks.waiting.get? request.txn = some ⟨request.page, request.mode⟩ := by
    rw [SortedMap.get?_insert, if_pos rfl]
  have still : locks.waiting.get? owner = none := by
    rw [SortedMap.get?_insert, if_neg (Ne.symm different)]
    exact leads.patient
  have calm : locks.isDeadlock request.txn request.page = false := by
    rw [Bool.eq_false_iff]
    intro deadlock
    have circle := (LockTable.isDeadlock_iff waits).mp deadlock
    obtain ⟨last, -, other, known, apart, held, holds, -⟩ := Relation.TransGen.tail'_iff.mp circle
    -- Who is waited for holds a page, so it is the owner.
    have here : request.txn = owner := by
      by_contra foreign
      cases (serial.alone request.txn other.page foreign).symm.trans holds
    exact different here
  refine ⟨locks, ?_, rfl, fun _ _ => rfl, ?_⟩
  · simp only [Store.attempt, askLock, acquire, calm, Bool.false_eq_true, if_false]
  · have sound : locks.Sound := serial.sound.locks
    have same : Repins store { store with locks } := ⟨relock_rests sound, rfl, fun _ => rfl⟩
    exact serial.repins same (serial.pinned.of_frames rfl rfl) serial.recent serial.alone
      fun _ exclusive => exclusive

end Store

end TableStore
