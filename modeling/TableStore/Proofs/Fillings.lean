import TableStore.Proofs.LoneInsertions
import TableStore.Proofs.Outcomes
import TableStore.Proofs.TidyRuns

/-!
# A table that is being filled

Transactions insert rows into one table, and nobody does anything else.  Whoever
holds a page of the table holds the first page exclusively, so that at any moment
one of them has the store to itself and all others ask for the first page.
-/

set_option autoImplicit false

namespace TableStore

namespace System

/-- All operations are insertions into the table, and one transaction has the
store to itself: nobody holds a page, or it holds the first page of the table and
waits for nothing. -/
structure Filling (system : System) (table : Table) (owner : TxnId) (tables : Tables) : Prop where
  tidy : system.Tidy
  registered : system.store.catalog.tables.get? table.id = some table
  serial : system.store.Serial owner [] tables
  readable : tables.Readable table
  paged : 0 < tables.count table.id
  leads : (∀ id, system.store.locks.mode? owner id = none) ∨
    system.store.Leads owner (table.page 0)
  insertion : ∀ txn operation, system.pending.get? txn = some operation →
    ∃ task, operation = .insertion task ∧ task.On tables table

variable {system : System} {table : Table} {owner txn : TxnId} {tables : Tables}
  {task : Insertion} {row : Row}

namespace Filling

theorem small (filling : system.Filling table owner tables) : tables.count table.id < 2 ^ 32 :=
  filling.serial.small filling.registered

/-- The transaction has the store to itself, or it is refused the first page. -/
theorem serial_or_leads (filling : system.Filling table owner tables) (txn : TxnId) :
    system.store.Serial txn [] tables ∨
      txn ≠ owner ∧ system.store.Leads owner (table.page 0) := by
  by_cases same : txn = owner
  · exact .inl (same ▸ filling.serial)
  · rcases filling.leads with free | leads
    · exact .inl (filling.serial.hand free txn)
    · exact .inr ⟨same, leads⟩

theorem asks_first (filling : system.Filling table owner tables)
    (busy : system.pending.get? txn = some (.insertion task)) (on : task.On tables table)
    (different : txn ≠ owner) : task.request.page = table.page 0 := by
  rcases filling.tidy.enters txn _ busy with first | held
  · rw [on.own] at first
    exact first
  · cases (filling.serial.alone txn _ different).symm.trans held

/-! ## Insertions begin -/

theorem begin (filling : system.Filling table owner tables)
    (alike : row.schema.alike table.schema = true) (idle : system.pending.get? txn = none) :
    ∃ task, system.begin txn (.insert table.id row) =
        { system with pending := system.pending.insert txn (.insertion task) } ∧
      task.row = row ∧ (Call.insert table.id row).refusal? txn system.store = none ∧
      (system.begin txn (.insert table.id row)).Filling table owner tables := by
  have found : system.store.catalog.table table.id = .ok table := by
    rw [Catalog.table, filling.registered]
  let task := Insertion.askFor table txn row (tables.count table.id) (table.page 0) system.store
  have asks : Insertion.start table txn row system.store = (.ok task, system.store) :=
    filling.serial.start_of_paged filling.registered filling.paged alike txn
  have start : (Call.insert table.id row).start txn system.store =
      (Option.some (.insertion task), system.store) := by
    simp only [Call.start, found, asks]
  have accepted : (Call.insert table.id row).refusal? txn system.store = none := by
    simp only [Call.refusal?, found, asks]
  have begun : system.begin txn (.insert table.id row) =
      { system with pending := system.pending.insert txn (.insertion task) } := by
    simp only [System.begin, idle, start]
  have numbered : (system.begin txn (.insert table.id row)).store.Addressable := by
    rw [begun]
    exact filling.serial.addressable
  refine ⟨task, begun, rfl, accepted, (filling.tidy.begin numbered).1, ?_, ?_, filling.readable,
    filling.paged, ?_, ?_⟩
  · rw [begun]
    exact filling.registered
  · rw [begun]
    exact filling.serial
  · rw [begun]
    exact filling.leads
  · intro other operation pending
    rw [begun, SortedMap.get?_insert] at pending
    split at pending
    · cases pending
      exact ⟨task, rfl, rfl, alike, Nat.le_refl _, 0, filling.paged, rfl⟩
    · exact filling.insertion other operation pending

/-! ## Insertions go on -/

theorem advance_task {answer : Step Insertion (Except StoreError Inserted)} {after : Store}
    (busy : system.pending.get? txn = some (.insertion task))
    (run : task.step system.store = (answer, after)) :
    (system.advance txn).store = after ∧ ∀ other, (system.advance txn).pending.get? other =
      if other = txn then
        match answer with
        | .again next => some (.insertion next)
        | .waiting next => some (.insertion next)
        | .finished _ => none
      else system.pending.get? other := by
  have step : (Operation.insertion task).step system.store =
      (((Operation.insertion task).step system.store).1, after) := by
    rcases answer with again | waiting | error | inserted <;> simp only [Operation.step, run]
  refine ⟨by rw [advance_eq busy step], ?_⟩
  intro other
  rw [pending_advance busy step]
  rcases answer with again | waiting | error | inserted <;> simp only [Operation.step, run]

theorem advance_alone (filling : system.Filling table owner tables)
    (busy : system.pending.get? txn = some (.insertion task))
    (alone : system.store.Serial txn [] tables)
    (numbered : (system.advance txn).store.Addressable) :
    ∃ entry later, task.Yields (task.step system.store).1 entry ∧
      (system.advance txn).Filling table txn later ∧
      (later.entries table (later.count table.id)).Perm
        (entry.toList ++ tables.entries table (tables.count table.id)) := by
  obtain ⟨task', same, on⟩ := filling.insertion txn _ busy
  cases same
  have ready := filling.tidy.sound.ready txn _ busy
  have enters := filling.tidy.enters txn _ busy
  obtain ⟨granted, locks, moves⟩ := alone.granted filling.readable on ready
  rcases run : task.step system.store with ⟨answer, after⟩
  obtain ⟨store, pending⟩ := advance_task busy run
  rw [run] at locks
  obtain ⟨later, goes, serial, catalog⟩ := alone.goes filling.readable on ready run
    (store ▸ numbered)
  obtain ⟨readable, more⟩ := goes.readable filling.readable filling.small
  obtain ⟨entry, yields, rows⟩ := goes.yields filling.readable filling.small
  refine ⟨entry, later, yields, ?_, rows⟩
  have leads : after.Leads txn (table.page 0) := by
    constructor
    · rw [locks, LockTable.mode?_of_granted granted]
      split
      · rw [LockMode.stronger_exclusive]
      · next elsewhere =>
          rcases enters with first | held
          · rw [on.own] at first
            exact absurd ⟨rfl, first.symm⟩ elsewhere
          · rw [on.own] at held
            exact held
    · rw [locks, LockTable.waiting_of_granted granted, SortedMap.get?_erase, if_pos rfl]
  refine ⟨(filling.tidy.advance numbered).1, ?_, store ▸ serial, readable,
    Nat.lt_of_lt_of_le filling.paged more, .inr (store ▸ leads), ?_⟩
  · rw [store, catalog]
    exact filling.registered
  · intro other operation found
    have kept (before : system.pending.get? other = some operation) :
        ∃ task, operation = .insertion task ∧ task.On later table := by
      obtain ⟨own, same, on⟩ := filling.insertion other operation before
      exact ⟨own, same, on.mono more⟩
    rw [pending] at found
    split at found
    · cases answer with
      | again next =>
          cases found
          exact ⟨next, rfl, goes.on rfl⟩
      | waiting next => exact absurd run (moves next after)
      | finished result => cases found
    · exact kept found

theorem advance_refused (filling : system.Filling table owner tables)
    (busy : system.pending.get? txn = some (.insertion task)) (different : txn ≠ owner)
    (leads : system.store.Leads owner (table.page 0))
    (numbered : (system.advance txn).store.Addressable) :
    (task.step system.store).1 = .waiting task ∧
      (system.advance txn).Filling table owner tables ∧
      ∀ other id, (system.advance txn).store.locks.mode? other id =
        system.store.locks.mode? other id := by
  obtain ⟨task', same, on⟩ := filling.insertion txn _ busy
  cases same
  obtain ⟨-, exclusive, own, -⟩ := filling.tidy.sound.ready txn _ busy
  have first := filling.asks_first busy on different
  obtain ⟨locks, attempt, waiting, modes, serial⟩ :=
    filling.serial.refused (first ▸ leads) (own ▸ different) exclusive
  have run : task.step system.store = (.waiting task, { system.store with locks }) := by
    simp only [Insertion.step, attempt]
  obtain ⟨store, pending⟩ := advance_task busy run
  refine ⟨by rw [run], ⟨(filling.tidy.advance numbered).1, ?_, store ▸ serial, filling.readable,
    filling.paged, .inr ?_, ?_⟩, fun other id => ?_⟩
  · rw [store]
    exact filling.registered
  · rw [store]
    refine ⟨(modes _ _).trans leads.holds, ?_⟩
    change locks.waiting.get? owner = none
    rw [waiting, own, SortedMap.get?_insert, if_neg (Ne.symm different)]
    exact leads.patient
  · intro other operation found
    rw [pending] at found
    split at found
    · cases found
      exact ⟨task, rfl, on⟩
    · exact filling.insertion other operation found
  · rw [store]
    exact modes other id

/-- A step of an insertion keeps the rows of the table, and adds the row that it
puts into a slot.  No other transaction gets a lock. -/
theorem advance (filling : system.Filling table owner tables)
    (busy : system.pending.get? txn = some (.insertion task))
    (numbered : (system.advance txn).store.Addressable) :
    ∃ entry leader later, task.Yields (task.step system.store).1 entry ∧
      (system.advance txn).Filling table leader later ∧
      (later.entries table (later.count table.id)).Perm
        (entry.toList ++ tables.entries table (tables.count table.id)) ∧
      ∀ other id, other ≠ txn → system.store.locks.mode? other id = none →
        (system.advance txn).store.locks.mode? other id = none := by
  rcases filling.serial_or_leads txn with alone | ⟨different, leads⟩
  · obtain ⟨entry, later, yields, still, rows⟩ := filling.advance_alone busy alone numbered
    exact ⟨entry, txn, later, yields, still, rows, fun other id apart _ =>
      still.serial.alone other id apart⟩
  · obtain ⟨waits, still, modes⟩ := filling.advance_refused busy different leads numbered
    refine ⟨none, owner, tables, ?_, still, .refl _, ?_⟩
    · rw [waits]
      exact .waiting rfl
    · intro other id _ unlocked
      exact (modes other id).trans unlocked

/-! ## Transactions end -/

theorem commit (filling : system.Filling table owner tables)
    (idle : system.pending.get? txn = none) :
    ∃ later, (system.perform (.commit txn)).Filling table owner later ∧
      later.entries table (later.count table.id) =
        tables.entries table (tables.count table.id) ∧
      (system.perform (.commit txn)).pending = system.pending ∧
      ∀ other id, (system.perform (.commit txn)).store.locks.mode? other id =
        if other = txn then none else system.store.locks.mode? other id := by
  have finished : system.perform (.commit txn) =
      { system with
        store := (system.store.commit txn).2
        history := system.history ++ [.committed txn] } := by
    simp only [System.perform, System.finish, idle]
  have ends := (filling.serial.sound.commit txn).1
  have numbered : Numbered system (.commit txn) := by
    rw [Numbered, finished]
    exact ends.still.toContinues.addressable filling.serial.addressable
  have tidy := (filling.tidy.perform rfl numbered).1
  have modes (other : TxnId) (id : PageId) : (system.store.commit txn).2.locks.mode? other id =
      if other = txn then none else system.store.locks.mode? other id :=
    ends.mode filling.serial.sound other id
  have registered : (system.store.commit txn).2.catalog.tables.get? table.id = some table := by
    rw [ends.still.catalog]
    exact filling.registered
  rw [finished] at tidy ⊢
  rcases filling.serial_or_leads txn with alone | ⟨different, leads⟩
  · have rested := alone.commit.2
    refine ⟨tables.finish true, ⟨tidy, registered, rested.serial owner,
      ⟨filling.readable.slots, filling.readable.page⟩, filling.paged, ?_, ?_⟩, ?_, rfl, modes⟩
    · apply Or.inl
      intro id
      by_cases same : owner = txn
      · exact (modes owner id).trans (if_pos same)
      · rw [modes, if_neg same]
        exact alone.alone owner id same
    · intro other operation found
      obtain ⟨task, same, on⟩ := filling.insertion other operation found
      exact ⟨task, same, on.mono (Nat.le_refl _)⟩
    · exact Tables.entries_congr fun _ _ => rfl
  · refine ⟨tables, ⟨tidy, registered, filling.serial.commit_other different, filling.readable,
      filling.paged, .inr ⟨?_, ?_⟩, filling.insertion⟩, rfl, rfl, modes⟩
    · exact (modes owner _).trans ((if_neg (Ne.symm different)).trans leads.holds)
    · change (system.store.commit txn).2.locks.waiting.get? owner = none
      rw [Store.locks_commit, LockTable.waiting_releaseAll, SortedMap.get?_erase]
      split
      · rfl
      · exact leads.patient

/-! ## Nobody is stuck -/

theorem moves (filling : system.Filling table owner tables)
    (alone : system.store.Serial txn [] tables)
    (busy : system.pending.get? txn = some (.insertion task)) (next : Insertion) (after : Store) :
    task.step system.store ≠ (.waiting next, after) := by
  obtain ⟨task', same, on⟩ := filling.insertion txn _ busy
  cases same
  have ready := filling.tidy.sound.ready txn _ busy
  exact (alone.granted filling.readable on ready).2.2 next after

end Filling

end System

end TableStore
