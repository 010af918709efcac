import Mathlib.Data.Fin.Tuple.Basic
import Mathlib.Data.List.Permutation
import TableStore.Proofs.Outcomes
import TableStore.Proofs.ScanReadings
import TableStore.Proofs.SpaciousCaches
import TableStore.Proofs.TidyRuns

/-!
# Scans that repeat

The pages that a scan has read look the same until its transaction ends, and as
the transaction holds the first page, no page is appended to the table.  So a
transaction that does not change rows itself gets the same rows from every scan of
the table, whatever others do meanwhile.
-/

set_option autoImplicit false

namespace TableStore

def Operation.Reads (store : Store) (txn : TxnId) : Operation → Prop
  | .fetch _ => True
  | .scan task => task.Reading store txn
  | _ => False

theorem Operation.Reads.undisturbed {store after : Store} {txn : TxnId} {operation : Operation}
    (reads : operation.Reads store txn) (undisturbed : Store.Undisturbed txn store after) :
    operation.Reads after txn := by
  cases operation with
  | fetch request => trivial
  | scan task => exact Scan.Reading.undisturbed reads undisturbed
  | insertion task => exact reads
  | deletion task => exact reads

theorem Operation.Reads.readOnly {store : Store} {txn : TxnId} {operation : Operation}
    (reads : operation.Reads store txn) : operation.writes = false := by
  cases operation with
  | fetch request => rfl
  | scan task => rfl
  | insertion task => exact reads.elim
  | deletion task => exact reads.elim

/-- A call that does not ask for changes begins a fetch, or a scan that has read no
page. -/
theorem Call.start_reads {store after : Store} {txn : TxnId} {call : Call} {operation : Operation}
    (sound : store.Sound) (reading : call.writes = false)
    (run : call.start txn store = (some operation, after)) : operation.Reads after txn := by
  cases Call.begins run with
  | fetch page mode => trivial
  | insertion found started => cases reading
  | deletion started => cases reading
  | scan found => exact ⟨(sound.registered found).1, Nat.zero_le _, .nil, by simp⟩

theorem Call.refusal_of_scan {store : Store} {txn : TxnId} {table : TableId} {rows : List Row}
    (call : Call) : call.refusal? txn store ≠ some (.scanned table ⟨rows, none⟩) := by
  intro refused
  cases call with
  | fetch page mode => cases refused
  | insert id row =>
      simp only [refusal?] at refused
      split at refused
      · cases refused
      · split at refused <;> cases refused
  | delete row =>
      simp only [refusal?] at refused
      split at refused
      · cases refused
      · split at refused
        · cases refused
        · split at refused <;> cases refused
  | scan id =>
      simp only [refusal?] at refused
      split at refused <;> cases refused

theorem Operation.Reads.step {store after : Store} {txn : TxnId} {table : Table}
    {operation : Operation} {turn : Turn} (reads : operation.Reads store txn) (sound : store.Sound)
    (tidy : store.Tidy) (ready : operation.Ready store txn)
    (run : operation.step store = (turn, after))
    (registered : store.catalog.tables.get? table.id = some table) :
    (∀ next, turn.next = some next → next.Reads after txn) ∧
      ∀ rows, operation.outcome? store = some (.scanned table.id ⟨rows, none⟩) →
        after.Shows txn table (table.wholePages after.disk) (rows.map Row.entry) := by
  cases operation with
  | fetch request =>
      rcases attempt : store.attempt request with ⟨next | error | handle, got⟩ <;>
        simp only [Operation.step, attempt] at run <;> cases run <;>
        simp only [Operation.outcome?, attempt]
      · refine ⟨?_, by simp⟩
        intro next goes
        cases goes
        trivial
      · exact ⟨by simp, by simp⟩
      · exact ⟨by simp, by simp⟩
  | scan task =>
      rcases stepped : task.step store with ⟨again | waiting | scanned, got⟩ <;>
        have leads := Scan.Reading.step reads sound tidy ready stepped <;>
        simp only [Operation.step, stepped] at run <;> cases run <;>
        simp only [Operation.outcome?, stepped]
      · refine ⟨?_, by simp⟩
        intro next goes
        cases goes
        exact leads.1
      · refine ⟨?_, by simp⟩
        intro next goes
        cases goes
        exact leads.1
      · refine ⟨by simp, ?_⟩
        intro rows known
        injection known with outcome
        injection outcome with here result
        subst result
        have own := reads.registered
        rw [here, registered] at own
        cases own
        exact leads rfl
  | insertion task => exact reads.elim
  | deletion task => exact reads.elim

namespace System

structure Reads (system : System) (txn : TxnId) (table : Table) : Prop where
  registered : system.store.catalog.tables.get? table.id = some table
  paged : 0 < table.wholePages system.store.disk
  operation : ∀ operation, system.pending.get? txn = some operation →
    operation.Reads system.store txn

variable {system after : System} {txn : TxnId} {table : Table} {rows again : List Row}

theorem Reads.readOnly (reads : system.Reads txn table) : system.ReadOnly txn := by
  intro operation found
  exact (reads.operation operation found).readOnly

theorem Reads.undisturbed (reads : system.Reads txn table)
    (undisturbed : Store.Undisturbed txn system.store after.store)
    (operation : ∀ operation, after.pending.get? txn = some operation →
      system.pending.get? txn = some operation ∨ operation.Reads after.store txn) :
    after.Reads txn table where
  registered := undisturbed.catalog ▸ reads.registered
  paged := Nat.lt_of_lt_of_le reads.paged (undisturbed.grows _ _ reads.registered)
  operation found known := by
    rcases operation found known with before | here
    · exact (reads.operation found before).undisturbed undisturbed
    · exact here

theorem Reads.begin (reads : system.Reads txn table) (tidy : system.Tidy) {call : Call}
    {other : TxnId} (spares : (Action.call other call).spares txn = true)
    (undisturbed : Store.Undisturbed txn system.store (system.begin other call).store) :
    (system.begin other call).Reads txn table := by
  apply reads.undisturbed undisturbed
  intro operation found
  cases busy : system.pending.get? other with
  | some current =>
      rw [begin_of_busy busy] at found
      exact .inl found
  | none =>
      rcases run : call.start other system.store with ⟨begun, started⟩
      rw [pending_begin busy run] at found
      split at found
      · next same =>
          subst same
          have reading : call.writes = false := by simpa [Action.spares] using spares
          rw [begin_of_idle busy run]
          exact .inr (Call.start_reads tidy.sound.store reading (found ▸ run))
      · exact .inl found

theorem Reads.advance (reads : system.Reads txn table) (tidy : system.Tidy) {other : TxnId}
    (undisturbed : Store.Undisturbed txn system.store (system.advance other).store) :
    (system.advance other).Reads txn table ∧
      ∀ rows, system.outcome? (.advance other) = some (txn, .scanned table.id ⟨rows, none⟩) →
        (system.advance other).store.Shows txn table
          (table.wholePages (system.advance other).store.disk) (rows.map Row.entry) := by
  cases busy : system.pending.get? other with
  | none =>
      rw [advance_of_idle busy]
      refine ⟨reads, ?_⟩
      intro rows known
      simp only [outcome?, busy] at known
      cases known
  | some operation =>
      rcases run : operation.step system.store with ⟨turn, after⟩
      have pending := pending_advance busy run txn
      rw [advance_eq busy run] at undisturbed pending ⊢
      by_cases same : txn = other
      · subst same
        rw [if_pos rfl] at pending
        obtain ⟨goes, shows⟩ := (reads.operation operation busy).step tidy.sound.store tidy.store
          (tidy.sound.ready txn operation busy) run reads.registered
        refine ⟨reads.undisturbed undisturbed ?_, ?_⟩
        · intro found known
          exact .inr (goes found (pending.symm.trans known))
        · intro rows known
          simp only [outcome?, busy, Option.map_eq_some_iff, Prod.mk.injEq, true_and,
            exists_eq_right] at known
          exact shows rows known
      · rw [if_neg same] at pending
        refine ⟨reads.undisturbed undisturbed ?_, ?_⟩
        · intro found known
          exact .inl (pending.symm.trans known)
        · intro rows known
          simp only [outcome?, busy, Option.map_eq_some_iff, Prod.mk.injEq] at known
          obtain ⟨outcome, -, foreign, -⟩ := known
          exact absurd foreign.symm same

theorem finish_pending {other : TxnId} (store : Store) (event : Event) :
    (system.finish other store event).pending = system.pending := by
  unfold System.finish
  split <;> rfl

theorem Reads.perform (reads : system.Reads txn table) (tidy : system.Tidy) {action : Action}
    (plain : action.plain = true) (spares : action.spares txn = true)
    (numbered : Numbered system action) :
    (system.perform action).Reads txn table ∧
      Store.Undisturbed txn system.store (system.perform action).store ∧
      ∀ rows, system.outcome? action = some (txn, .scanned table.id ⟨rows, none⟩) →
        (system.perform action).store.Shows txn table
          (table.wholePages (system.perform action).store.disk) (rows.map Row.entry) := by
  have undisturbed := (tidy.perform plain numbered).2 txn spares reads.readOnly
  cases action with
  | call other call =>
      refine ⟨reads.begin tidy spares undisturbed, undisturbed, ?_⟩
      intro rows known
      have refused : ∃ outcome, call.refusal? other system.store = some outcome ∧
          outcome = .scanned table.id ⟨rows, none⟩ := by
        simp only [outcome?] at known
        split at known
        · obtain ⟨outcome, refusal, same⟩ := Option.map_eq_some_iff.mp known
          exact ⟨outcome, refusal, (Prod.mk.inj same).2⟩
        · cases known
      obtain ⟨_, refusal, rfl⟩ := refused
      exact absurd refusal (Call.refusal_of_scan call)
  | advance other =>
      obtain ⟨still, shows⟩ := reads.advance tidy undisturbed
      exact ⟨still, undisturbed, shows⟩
  | drop handle =>
      refine ⟨reads.undisturbed undisturbed ?_, undisturbed, by simp [outcome?]⟩
      intro operation found
      rw [System.perform] at found
      split at found
      · exact .inl found
      · exact .inl found
  | commit other =>
      refine ⟨reads.undisturbed undisturbed ?_, undisturbed, by simp [outcome?]⟩
      intro operation found
      rw [System.perform, finish_pending] at found
      exact .inl found
  | abort other =>
      refine ⟨reads.undisturbed undisturbed ?_, undisturbed, by simp [outcome?]⟩
      intro operation found
      rw [System.perform, finish_pending] at found
      exact .inl found
  | flush page => cases plain
  | flushAll => cases plain
  | fault unwritable => cases plain

/-- Whatever whole scans of the table a reading transaction ends, they show the
table as it is at the end. -/
theorem Reads.run (reads : system.Reads txn table) (tidy : system.Tidy) {actions : List Action}
    (plain : ∀ action ∈ actions, action.plain = true)
    (spares : ∀ action ∈ actions, action.spares txn = true)
    (numbered : Along Numbered system actions) :
    Store.Undisturbed txn system.store (system.run actions).store ∧
      ∀ rows, (txn, .scanned table.id ⟨rows, none⟩) ∈ system.outcomes actions →
        (system.run actions).store.Shows txn table
          (table.wholePages (system.run actions).store.disk) (rows.map Row.entry) := by
  induction actions generalizing system with
  | nil => exact ⟨.refl txn _, by simp [outcomes]⟩
  | cons action actions ih =>
      obtain ⟨first, rest⟩ := numbered
      obtain ⟨here, later⟩ := List.forall_mem_cons.mp plain
      obtain ⟨spared, others⟩ := List.forall_mem_cons.mp spares
      obtain ⟨still, undisturbed, shows⟩ := reads.perform tidy here spared first
      obtain ⟨kept, ends⟩ := ih still (tidy.perform here first).1 later others rest
      refine ⟨undisturbed.trans kept, ?_⟩
      intro rows member
      rw [outcomes, List.mem_append, Option.mem_toList] at member
      rcases member with now | after
      · exact (shows rows now).whole still.registered still.paged kept
      · exact ends rows after

/-- Scans repeat, without phantoms: in whatever order the transactions take their
steps, all whole scans of a table give a transaction the same rows at the same
places, as long as it does not change rows itself. -/
theorem scans_repeat (fresh : system.Fresh) (writable : system.store.unwritable = ∅)
    {before period : List Action} (plain : ∀ action ∈ before ++ period, action.plain = true)
    (numbered : Along Numbered system (before ++ period))
    (idle : (system.run before).pending.get? txn = none)
    (spares : ∀ action ∈ period, action.spares txn = true)
    (registered : system.store.catalog.tables.get? table.id = some table)
    (paged : 0 < table.wholePages (system.run before).store.disk)
    (first : (txn, .scanned table.id ⟨rows, none⟩) ∈ (system.run before).outcomes period)
    (second : (txn, .scanned table.id ⟨again, none⟩) ∈ (system.run before).outcomes period) :
    rows.map Row.entry = again.map Row.entry := by
  obtain ⟨earlier, later⟩ := Along.append_iff.mp numbered
  obtain ⟨plainly, calmly⟩ := List.forall_mem_append.mp plain
  have tidy := (fresh.tidy writable).run plainly earlier
  have follows := fresh.sound.follows before
  have reads : (system.run before).Reads txn table := by
    refine ⟨?_, paged, ?_⟩
    · rw [follows.catalog]
      exact registered
    · intro operation found
      cases idle.symm.trans found
  obtain ⟨-, shows⟩ := reads.run tidy calmly spares later
  exact (shows rows first).unique (shows again second)

end System

/-! ## Scans of a table whose numbers have run out -/

section

variable {store after : Store} {txn : TxnId} {table : Table} {tables : Tables}

/-- A transaction that is alone gets a page that is cached, and nothing else changes. -/
theorem Store.attempt_of_cached {request : PageRequest} {frame : Frame}
    (alone : ∀ other id, other ≠ request.txn → store.locks.mode? other id = none)
    (found : store.frames.get? request.page = some frame) :
    ∃ got, store.attempt request = (.finished (.ok
        ⟨request.page, request.mode, request.txn, frame.serial⟩), got) ∧
      got.frames.get? request.page = some { frame with pins := frame.pins + 1 } ∧
      got.catalog = store.catalog ∧ got.disk = store.disk := by
  have granted : (store.locks.acquire request.txn request.page request.mode).1 = true :=
    LockTable.granted_of_alone fun other different => alone other request.page different
  have here : (store.locked request).frames.get? request.page = some frame := found
  exact ⟨_, attempt_of_pinned (askLock_of_granted granted) (pin_of_cached here),
    SortedMap.get?_insert_self .., rfl, rfl⟩

/-- A scan that waits for the first page takes its rows if the page is cached, and ends. -/
theorem Store.Spilled.scan (spilled : store.Spilled txn tables table) {request : PageRequest}
    {contents : Contents} (timely : request.Timely store txn)
    (seen : tables.page request.page = .ok contents) (used : contents.rows request.page ≠ [])
    (cached : store.frames.contains request.page = true) :
    ∃ rows after, Step.repeat Scan.step 3
        ⟨[], ⟨⟨table, txn, 0, [], true⟩, some request⟩⟩ store =
          (.finished ⟨rows, none⟩, after) ∧
      rows.map Row.entry = contents.rows request.page ∧ after.Lost table.id ∧
      after.catalog = store.catalog := by
  obtain ⟨rfl, held⟩ := timely
  obtain ⟨frame, found⟩ := Option.isSome_iff_exists.mp cached
  have same := spilled.cached request.page frame.page (cached?_of_frame found)
  cases same.symm.trans seen
  obtain ⟨got, attempt, here, catalog, disk⟩ := attempt_of_cached spilled.alone found
  have attempted : Attempted (fun _ => True) request store got _ :=
    spilled.sound.attempted held attempt .any
  obtain ⟨rows, taken, entries⟩ := step_take table request.txn 0 attempt attempted.sound here rfl
  have freed := (attempted.sound.unpin
    ⟨request.page, request.mode, request.txn, frame.serial⟩).1
  generalize got.unpin _ = after at taken freed
  have known : after.catalog = store.catalog := freed.catalog.trans catalog
  have lost : after.Lost table.id := by
    refine ⟨table, known ▸ spilled.registered, ?_⟩
    rw [freed.disk, disk]
    exact spilled.whole
  have some : rows ≠ [] := by
    intro none
    rw [none] at entries
    exact used entries.symm
  have yields : Seek.choose ⟨table, request.txn, 1, rows, true⟩ after =
      .finished ⟨.ok true, ⟨table, request.txn, 1, rows, true⟩⟩ := by
    rcases choose_cases ⟨table, request.txn, 1, rows, true⟩ after with ⟨-, chosen⟩ | ⟨empty, -⟩
    · exact chosen
    · exact absurd empty some
  have ends := lost.choose (known ▸ spilled.registered) request.txn 1
  refine ⟨rows, after, ?_, entries, lost, known⟩
  rw [show (0 : UInt32) = UInt32.ofNat 0 from rfl]
  simp only [Step.repeat, Scan.step, taken]
  rw [show UInt32.ofNat (0 + 1) = 1 from rfl]
  simp only [Seek.step, yields, ends, List.nil_append]

theorem Scan.table_of_step {task next : Scan} (run : task.step store = (.again next, after)) :
    next.seek.cursor.table = task.seek.cursor.table := by
  cases asked : task.seek.request with
  | none =>
      rcases Store.choose_cases task.seek.cursor store with ⟨-, chosen⟩ | ⟨-, ⟨error, -, chosen⟩ |
        ⟨count, -, ⟨-, chosen⟩ | ⟨-, chosen⟩⟩⟩ <;>
        simp only [Scan.step, Seek.step, asked, chosen] at run <;> cases run <;> rfl
  | some request =>
      rcases attempt : store.attempt request with ⟨_ | _ | _, got⟩ <;>
        simp only [Scan.step, Seek.step, asked, attempt] at run <;> cases run
      rfl

end

namespace System

variable {system : System} {after : Store} {txn : TxnId} {table : Table}

theorem outcome_of_scan {limit : Nat} {task : Scan} {scanned : Scanned}
    (busy : system.pending.get? txn = some (.scan task)) (own : task.seek.cursor.table = table)
    (run : Step.repeat Scan.step limit task system.store = (.finished scanned, after)) :
    (txn, .scanned table.id scanned) ∈
        system.outcomes (List.replicate limit (.advance txn)) ∧
      (system.run (List.replicate limit (.advance txn))).store = after ∧
      (system.run (List.replicate limit (.advance txn))).pending.get? txn = none := by
  induction limit generalizing system task with
  | zero => cases run
  | succ limit ih =>
      rw [Step.repeat] at run
      rw [List.replicate_succ, outcomes, System.run, List.foldl_cons, ← System.run, perform]
      rcases step : task.step system.store with ⟨next | next | ended, got⟩
      · rw [step] at run
        have turn : (Operation.scan task).step system.store =
            (⟨some (.scan next), none, Operation.scanEvents task.seek next.seek⟩, got) := by
          simp only [Operation.step, step]
        have goes := pending_advance busy turn txn
        rw [if_pos rfl] at goes
        have store : (system.advance txn).store = got := congrArg System.store (advance_eq busy turn)
        obtain ⟨member, rest⟩ := ih goes ((Scan.table_of_step step).trans own) (store ▸ run)
        exact ⟨List.mem_append_right _ member, rest⟩
      · rw [step] at run
        cases run
      · rw [step] at run
        cases run
        have turn : (Operation.scan task).step system.store = (⟨none, none, []⟩, after) := by
          simp only [Operation.step, step]
        have idle := pending_advance busy turn txn
        rw [if_pos rfl] at idle
        have store : (system.advance txn).store = after :=
          congrArg System.store (advance_eq busy turn)
        have ends : system.outcome? (.advance txn) = some (txn, .scanned table.id scanned) := by
          simp only [outcome?, busy, Operation.outcome?, step, own, Option.map_some]
        rw [run_of_idle idle, ends]
        exact ⟨List.mem_append_left _ (List.mem_singleton.mpr rfl), store, idle⟩

theorem run_choice (idle : system.pending.get? txn = none)
    (registered : system.store.catalog.tables.get? table.id = some table)
    (paged : 0 < table.wholePages system.store.disk)
    (small : table.wholePages system.store.disk < 2 ^ 32) :
    ∃ pending, system.run [.call txn (.scan table.id), .advance txn] = { system with pending } ∧
      pending.get? txn = some (.scan ⟨[], ⟨⟨table, txn, 0, [], true⟩,
        some (system.store.request txn (table.page 0) .shared)⟩⟩) ∧
      ∀ other, other ≠ txn → pending.get? other = system.pending.get? other := by
  have found : system.store.catalog.table table.id = .ok table := by
    rw [Catalog.table, registered]
  have begins : Call.start txn system.store (.scan table.id) =
      (some (.scan ⟨[], ⟨⟨table, txn, 0, [], true⟩, none⟩⟩), system.store) := by
    simp only [Call.start, found]
  have first := begin_of_idle idle begins
  have busy := pending_begin idle begins
  have chooses : Seek.step ⟨⟨table, txn, UInt32.ofNat 0, [], true⟩, none⟩ system.store = _ :=
    Store.step_choose (Table.sized_of_wholePages paged) rfl small (Nat.zero_le _)
  rw [if_pos paged, show UInt32.ofNat 0 = 0 from rfl] at chooses
  have turn : (Operation.scan ⟨[], ⟨⟨table, txn, 0, [], true⟩, none⟩⟩).step
      (system.begin txn (.scan table.id)).store = (⟨some (.scan ⟨[], ⟨⟨table, txn, 0, [], true⟩,
        some (system.store.request txn (table.page 0) .shared)⟩⟩), none, []⟩, system.store) := by
    rw [first]
    simp only [Operation.step, Scan.step, chooses, Operation.scanEvents]
  have here := (busy txn).trans (if_pos rfl)
  have next := pending_advance here turn
  refine ⟨_, ?_, (next txn).trans (if_pos rfl), ?_⟩
  · rw [System.run, List.foldl_cons, List.foldl_cons, List.foldl_nil, perform, perform,
      advance_eq here turn, first]
    simp only [Option.toList_none, List.nil_append, List.append_nil]
  · intro other different
    exact ((next other).trans (if_neg different)).trans ((busy other).trans (if_neg different))

/-- After the insertion of a row for which no page number is left, and a commit, the
first page is still cached. -/
theorem run_spill {tables : Tables} {row : Row} {count : Nat} (sound : system.Sound)
    (idle : system.pending.get? txn = none) (spacious : system.store.Spacious table.id)
    (serial : system.store.Serial txn [] tables)
    (registered : system.store.catalog.tables.get? table.id = some table)
    (packed : tables.Packed table row.values count) (last : count + 1 = 2 ^ 32)
    (alike : row.schema.alike table.schema = true) (other : TxnId) :
    ∃ steps after, system.run (insertAtOnce txn table.id row steps ++ [.commit txn]) = after ∧
      after.store.Spilled other tables table ∧
      after.store.frames.contains (table.page 0) = true ∧ after.pending = system.pending := by
  have found : system.store.catalog.table table.id = .ok table := by
    rw [Catalog.table, registered]
  obtain ⟨error, after, run, spilled⟩ := serial.spills registered packed (by omega) alike last
  obtain ⟨steps, some, ran⟩ := run_insert sound idle found run
  have cached : after.frames.contains (table.page 0) = true := by
    have started := serial.start_of_paged registered
      (show 0 < tables.count table.id by rw [packed.counted]; omega) alike txn
    have timely : (Insertion.askFor table txn row (tables.count table.id) (table.page 0)
        system.store).request.Timely system.store txn := ⟨rfl, rfl⟩
    obtain ⟨number, got, attempt, -⟩ := (serial.attempt timely).2 _ (packed.page 0 (by omega))
    have caches := insertAtOnce_caches sound spacious idle found started attempt some
    rwa [ran] at caches
  obtain ⟨-, committed, keeps⟩ := spilled.commit other
  refine ⟨steps, _, rfl, ?_⟩
  rw [run_append, ran, System.run, List.foldl_cons, List.foldl_nil, perform, System.finish]
  simp only [idle]
  refine ⟨committed, ?_, trivial⟩
  have kept := keeps (table.page 0) (by rw [Store.cached?, Option.isSome_map]; exact cached)
  rwa [Store.cached?, Option.isSome_map] at kept

/-- The last steps of a scan of one page, and a scan of no page. -/
def lastScans (txn : TxnId) (id : TableId) : List Action :=
  List.replicate 3 (.advance txn) ++ .call txn (.scan id) :: List.replicate 1 (.advance txn)

/-- If no page number is left, a scan that waits for the first page still finds it in the
cache, and the next scan finds no page. -/
theorem outcomes_lastScans {tables : Tables} {request : PageRequest} {contents : Contents}
    (sound : system.Sound) (spilled : system.store.Spilled txn tables table)
    (busy : system.pending.get? txn =
      some (.scan ⟨[], ⟨⟨table, txn, 0, [], true⟩, some request⟩⟩))
    (seen : tables.page request.page = .ok contents) (used : contents.rows request.page ≠ [])
    (cached : system.store.frames.contains request.page = true) :
    ∃ rows, rows.map Row.entry = contents.rows request.page ∧
      (txn, .scanned table.id ⟨rows, none⟩) ∈ system.outcomes (lastScans txn table.id) ∧
      (txn, .scanned table.id ⟨[], none⟩) ∈ system.outcomes (lastScans txn table.id) := by
  have timely := ((sound.ready txn _ busy).2 request rfl).1
  obtain ⟨rows, later, scans, entries, lost, catalog⟩ := spilled.scan timely seen used cached
  obtain ⟨first, store, idle⟩ := outcome_of_scan busy rfl scans
  have known : later.catalog.tables.get? table.id = some table := catalog ▸ spilled.registered
  generalize middle : system.run (List.replicate 3 (.advance txn)) = halfway at store idle
  have begins : Call.start txn halfway.store (.scan table.id) =
      (some (.scan ⟨[], ⟨⟨table, txn, 0, [], true⟩, none⟩⟩), halfway.store) := by
    have found : halfway.store.catalog.table table.id = .ok table := by
      rw [store, Catalog.table, known]
    simp only [Call.start, found]
  have again := (pending_begin idle begins txn).trans (if_pos rfl)
  have rescans : Step.repeat Scan.step 1 ⟨[], ⟨⟨table, txn, 0, [], true⟩, none⟩⟩
      (halfway.begin txn (.scan table.id)).store = (.finished ⟨[], none⟩, later) := by
    have same : (halfway.begin txn (.scan table.id)).store = later :=
      (congrArg System.store (begin_of_idle idle begins)).trans store
    rw [same]
    simp only [Step.repeat, Scan.step, Seek.step, lost.choose known]
  obtain ⟨second, -⟩ := outcome_of_scan again rfl rescans
  refine ⟨rows, entries, ?_, ?_⟩
  · rw [lastScans, outcomes_append]
    exact List.mem_append_left _ first
  · rw [lastScans, outcomes_append, middle, outcomes]
    exact List.mem_append_right _ (List.mem_append_right _ second)

/-- A transaction begins a scan, and before it gets a page another one inserts a row and
commits.  Then this scan ends, and a second one. -/
def scansAroundInsertion (id : TableId) (row : Row) (steps : Nat) : List Action :=
  [.call ⟨2⟩ (.scan id), .advance ⟨2⟩] ++
    ((insertAtOnce ⟨1⟩ id row steps ++ [.commit ⟨1⟩]) ++ lastScans ⟨2⟩ id)

/-- If the other transaction appends the page with the last number, the two scans do not
show the same rows. -/
theorem scans_beside_last_page_number :
    let system : System := { store := .fives (2 ^ 32 + 1) (2 ^ 32 - 1) }
    system.Fresh ∧ system.store.unwritable = ∅ ∧
      0 < Table.numbers.wholePages system.store.disk ∧ ∃ steps rows,
        let period := scansAroundInsertion ⟨1⟩ (.ofNumber 5) steps
        (∀ action ∈ period, action.plain = true ∧ action.spares ⟨2⟩ = true) ∧
          rows.map Row.entry = [(some ⟨Table.numbers.page 0, 0⟩, [.int 5])] ∧
          (⟨2⟩, .scanned ⟨1⟩ ⟨rows, none⟩) ∈ system.outcomes period ∧
          (⟨2⟩, .scanned ⟨1⟩ ⟨[], none⟩) ∈ system.outcomes period := by
  generalize last : 2 ^ 32 - 1 = count
  generalize large : 2 ^ 32 + 1 = capacity
  intro system
  have fresh : system.Fresh := System.fresh_fives (by omega)
  have registered : system.store.catalog.tables.get? Table.numbers.id = some .numbers :=
    Store.registered_fives
  have whole : Table.numbers.wholePages system.store.disk = count := Store.wholePages_fives
  have spacious : system.store.Spacious Table.numbers.id :=
    ⟨fresh.sound.store, fun id table found => (Store.table_fives found).1,
      show 2 ^ 32 < capacity by omega⟩
  have serial : system.store.Serial ⟨1⟩ [] system.store.tables :=
    Store.serial_fives (by omega) (by omega) ⟨1⟩
  have packed : system.store.tables.Packed .numbers (Row.ofNumber 5).values count :=
    Store.packed_fives (by omega)
  have seen := packed.page 0 (by omega)
  have used : Contents.rows [some (Row.ofNumber 5).values] (Table.numbers.page 0) ≠ [] :=
    List.cons_ne_nil _ _
  have paged : 0 < Table.numbers.wholePages system.store.disk := by omega
  have free : system.pending.get? ⟨2⟩ = none := rfl
  obtain ⟨pending, chosen, busy, others⟩ := run_choice free registered paged (by omega)
  have begun := (fresh.sound.follows [.call ⟨2⟩ (.scan Table.numbers.id), .advance ⟨2⟩]).sound
  rw [chosen] at begun
  obtain ⟨steps, after, spills, spilled, cached, same⟩ := run_spill begun
    (others ⟨1⟩ (by decide)) spacious serial registered packed (by omega) Store.alike_five ⟨2⟩
  have sound := (begun.follows (insertAtOnce ⟨1⟩ Table.numbers.id (.ofNumber 5) steps ++
    [.commit ⟨1⟩])).sound
  rw [spills] at sound
  obtain ⟨rows, entries, first, second⟩ := outcomes_lastScans sound spilled
    ((congrArg (SortedMap.get? · ⟨2⟩) same).trans busy) seen used cached
  have inside (outcome : TxnId × Outcome)
      (member : outcome ∈ after.outcomes (lastScans ⟨2⟩ Table.numbers.id)) :
      outcome ∈ system.outcomes (scansAroundInsertion Table.numbers.id (.ofNumber 5) steps) := by
    rw [scansAroundInsertion, outcomes_append, chosen, outcomes_append, spills]
    exact List.mem_append_right _ (List.mem_append_right _ member)
  refine ⟨fresh, rfl, paged, steps, rows, ?_, entries, inside _ first, inside _ second⟩
  · intro action member
    simp only [scansAroundInsertion, insertAtOnce, lastScans, List.mem_append, List.mem_cons,
      List.mem_replicate, List.not_mem_nil, or_false] at member
    rcases member with (rfl | rfl) | ((rfl | ⟨-, rfl⟩) | rfl) | ⟨-, rfl⟩ | rfl | ⟨-, rfl⟩ <;>
      exact ⟨rfl, rfl⟩

def twoRows : List Action :=
  [.call ⟨1⟩ (.insert ⟨1⟩ (.ofNumber 5)), .advance ⟨1⟩, .call ⟨1⟩ (.insert ⟨1⟩ (.ofNumber 6)),
    .advance ⟨1⟩, .advance ⟨1⟩, .commit ⟨1⟩]

def scanOfTwo : List Action :=
  .call ⟨2⟩ (.scan ⟨1⟩) :: List.replicate 7 (.advance ⟨2⟩)

/-- Another transaction begins an insertion between two scans, and is refused the
first page before the second scan ends. -/
def scansAndInsertion : List Action :=
  scanOfTwo ++ [.call ⟨3⟩ (.insert ⟨1⟩ (.ofNumber 7))] ++ scanOfTwo.dropLast

def lastOfScan : List Action := [.advance ⟨3⟩, .advance ⟨2⟩]

theorem scans_repeat_beside_insertion :
    ∃ rows again, ((System.ofNumbers 1).run twoRows).outcomes (scansAndInsertion ++ lastOfScan) =
        [(⟨2⟩, .scanned ⟨1⟩ ⟨rows, none⟩), (⟨2⟩, .scanned ⟨1⟩ ⟨again, none⟩)] ∧
      rows.length = 2 ∧ rows.map Row.entry = again.map Row.entry := by
  let row (number : Int32) (page : UInt32) : Row :=
    (Row.ofNumber number).placeAt (some ⟨Table.numbers.page page, 0⟩)
  have outcomes : ((System.ofNumbers 1).run twoRows).outcomes (scansAndInsertion ++ lastOfScan) =
      [(⟨2⟩, .scanned ⟨1⟩ ⟨[row 5 0, row 6 1], none⟩),
        (⟨2⟩, .scanned ⟨1⟩ ⟨[row 5 0, row 6 1], none⟩)] := by
    cbv
  refine ⟨_, _, outcomes, rfl, ?_⟩
  have numbered : Along Numbered (System.ofNumbers 1)
      (twoRows ++ (scansAndInsertion ++ lastOfScan)) := by
    rw [← List.append_assoc, Along.append_iff]
    refine ⟨by decide +kernel, of_decide_eq_true ?_⟩
    cbv
  have registered : (System.ofNumbers 1).store.catalog.tables.get? Table.numbers.id =
      some Table.numbers := by
    decide +kernel
  have paged : 0 < Table.numbers.wholePages ((System.ofNumbers 1).run twoRows).store.disk := by
    decide +kernel
  have plain : ∀ action ∈ twoRows ++ (scansAndInsertion ++ lastOfScan), action.plain = true := by
    decide +kernel
  have spares : ∀ action ∈ scansAndInsertion ++ lastOfScan, action.spares ⟨2⟩ = true := by
    decide +kernel
  have idle : ((System.ofNumbers 1).run twoRows).pending.get? ⟨2⟩ = none := by
    apply Option.isNone_iff_eq_none.mp
    decide +kernel
  apply scans_repeat (System.fresh_ofNumbers 1) rfl plain numbered idle spares registered paged
  · rw [outcomes]
    exact List.mem_cons_self
  · rw [outcomes]
    exact List.mem_cons_self

end System

end TableStore
