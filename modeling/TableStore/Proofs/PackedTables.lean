import TableStore.Proofs.Capacity
import TableStore.Proofs.InsertionRuns

/-!
# Tables without a free slot

A table is packed if each of its pages has one slot only, which has a row.  An
insertion into such a table looks at all of its pages and goes onto a new one.  With the
last number, however, the table gets as many pages as there are numbers, counts as empty
and cannot be read any more: the insertion fails, and of the rows only those are left
that are cached.
-/

set_option autoImplicit false

namespace TableStore

namespace Tables

/-- Every page of the table has the same row in its only slot. -/
structure Packed (tables : Tables) (table : Table) (values : List Value) (count : Nat) : Prop where
  counted : tables.count table.id = count
  page : ∀ number < count, tables.page (table.page (UInt32.ofNat number)) = .ok [some values]

variable {tables later : Tables} {table : Table} {values : List Value} {count number left : Nat}
  {row : Row}

theorem Packed.congr (packed : tables.Packed table values count)
    (pages : ∀ id, id.table = table.id → later.page id = tables.page id)
    (same : later.count table.id = tables.count table.id) : later.Packed table values count where
  counted := same.trans packed.counted
  page number inside := (pages _ rfl).trans (packed.page number inside)

theorem Packed.putFrom (packed : tables.Packed table values count)
    (inside : number + left = count) :
    tables.putFrom table row.values left number = tables.putBehind table row.values := by
  induction left generalizing number with
  | zero => rfl
  | succ left ih =>
      rw [Tables.putFrom, packed.page number (by omega)]
      exact ih (by omega)

theorem Packed.insert (packed : tables.Packed table row.values count) (sized : 0 < table.pageSize)
    (slots : Page.slotCount table.schema table.pageSize = .ok 1) (small : count < 2 ^ 32)
    (buffered : ¬ tables.Unbuffered table) (alike : row.schema.alike table.schema = true) :
    ∃ later, tables.insert table row =
        (.ok (some ⟨table.page (UInt32.ofNat count), 0⟩, row.values), later) ∧
      later.Packed table row.values (count + 1) := by
  obtain ⟨page, empty, contents⟩ := Page.empty_of_slotCount (tables.next table) slots
  have next : tables.next table = table.page (UInt32.ofNat count) := by
    rw [Tables.next, packed.counted]
  have blank : (tables.grow table).page (tables.next table) = .ok [none] := by
    simp only [Tables.grow, if_true, empty, Except.map, contents, List.replicate_one]
  refine ⟨(tables.grow table).edit [none] ⟨tables.next table, 0, some row.values⟩, ?_, ?_, ?_⟩
  · rw [Tables.insert, if_pos alike, if_neg (Nat.ne_of_gt sized), packed.counted,
      packed.putFrom (Nat.zero_add count), Tables.putBehind, if_neg buffered, blank, ← next]
    rfl
  · exact count_grow.trans (congrArg (· + 1) packed.counted)
  · intro number inside
    by_cases last : number = count
    · rw [last, ← next]
      exact if_pos rfl
    · have below : number < tables.count table.id := by
        rw [packed.counted]
        omega
      have other : table.page (UInt32.ofNat number) ≠ tables.next table := by
        rw [next]
        intro same
        exact last (Table.page_ofNat_inj (by omega) small same)
      rw [Tables.edit]
      simp only [if_neg other]
      rw [Tables.page_grow below (packed.counted ▸ small)]
      exact packed.page number (by omega)

end Tables

theorem PageState.contents_committed (state : PageState) (txn : TxnId) (taken : Bool) :
    (state.committed txn taken).cached.map Copy.contents = state.cached.map Copy.contents := by
  rw [committed]
  split
  · rfl
  · next copy cached =>
      split
      · split
        · rw [cached]
          rfl
        · rfl
      · rfl

theorem PageState.contents_captured (state : PageState) :
    state.captured.cached.map Copy.contents = state.cached.map Copy.contents := by
  rw [captured, Option.map_map]
  rfl

namespace Store

variable {store middle after : Store} {txn : TxnId} {tables : Tables} {table : Table}
  {values : List Value} {row : Row} {count : Nat} {id : PageId}

theorem Lost.choose (lost : store.Lost table.id)
    (registered : store.catalog.tables.get? table.id = some table) (txn : TxnId)
    (number : UInt32) : Seek.choose ⟨table, txn, number, [], true⟩ store =
      .finished ⟨.ok false, ⟨table, txn, number, [], true⟩⟩ := by
  obtain ⟨own, known, whole⟩ := lost
  cases known.symm.trans registered
  have sized : 0 < table.pageSize :=
    Table.sized_of_wholePages (show 0 < table.wholePages store.disk by omega)
  rcases choose_cases ⟨table, txn, number, [], true⟩ store with
    ⟨full, -⟩ | ⟨-, ⟨error, failed, -⟩ | ⟨count, counted, ⟨more, -⟩ | ⟨-, chosen⟩⟩⟩
  · exact absurd rfl full
  · cases failed.symm.trans (Table.pageCount_eq sized)
  · cases counted.symm.trans (Table.pageCount_eq sized)
    rw [whole] at more
    exact absurd more (Nat.not_lt_zero number.toNat)
  · exact chosen

theorem Lost.scan (lost : store.Lost table.id)
    (registered : store.catalog.tables.get? table.id = some table) (txn : TxnId) :
    Scan.run table txn store = (.finished ⟨[], none⟩, store) := by
  have enough := wholePages_le_stepLimit store table
  obtain ⟨more, steps⟩ : ∃ more, 2 * store.stepLimit = more + 1 :=
    ⟨2 * store.stepLimit - 1, by omega⟩
  rw [Scan.run, Scan.resume, steps]
  simp only [Step.repeat, Scan.step, Seek.step, lost.choose registered]

/-- The table counts as empty, and only cached pages are left of it, as they were.  The
transaction is alone. -/
structure Spilled (store : Store) (txn : TxnId) (tables : Tables) (table : Table) : Prop where
  sound : store.Sound
  writable : store.unwritable = ∅
  alone : ∀ other id, other ≠ txn → store.locks.mode? other id = none
  registered : store.catalog.tables.get? table.id = some table
  whole : table.wholePages store.disk = 2 ^ 32
  cached : ∀ id page, store.cached? id = some page → tables.page id = .ok page.contents

theorem Spilled.lost (spilled : store.Spilled txn tables table) : store.Lost table.id :=
  ⟨table, spilled.registered, spilled.whole⟩

theorem Spilled.unread (spilled : store.Spilled txn tables table) (own : id.table = table.id) :
    store.readPage id = .error (.pageNotFound id) :=
  readPage_of_unstored (spilled.sound.stored_of_lost (own ▸ spilled.lost))

/-- The transaction commits without an error, but the table stays as it is. -/
theorem Spilled.commit (spilled : store.Spilled txn tables table) (other : TxnId) :
    (store.commit txn).1 = .ok () ∧ (store.commit txn).2.Spilled other tables table ∧
      ∀ id, (store.cached? id).isSome = true → ((store.commit txn).2.cached? id).isSome = true := by
  obtain ⟨ends, -, result⟩ := spilled.sound.commit txn
  have contents (id : PageId) : ((store.commit txn).2.pageState id).cached.map Copy.contents =
      (store.pageState id).cached.map Copy.contents := by
    rw [spilled.sound.pageState_commit]
    split
    · rw [PageState.contents_captured, PageState.contents_committed]
    · rw [PageState.contents_committed]
  have cached (id : PageId) : ((store.commit txn).2.cached? id).map Page.contents =
      (store.cached? id).map Page.contents := by
    have same := contents id
    simp only [pageState, Option.map_map] at same
    exact same
  refine ⟨?_, ⟨ends.sound, ?_, ?_, ?_, ?_, ?_⟩, ?_⟩
  · rw [result]
    intro id copy _ _
    exact takes_of_writable spilled.writable id
  · exact ends.still.unwritable.trans spilled.writable
  · intro any id _
    rw [ends.mode spilled.sound, Outline.released]
    split
    · rfl
    · next different => exact spilled.alone any id different
  · rw [ends.still.catalog]
    exact spilled.registered
  · rw [ends.still.counts _ _ spilled.registered]
    exact spilled.whole
  · intro id page found
    have same := cached id
    rw [found, Option.map_some] at same
    obtain ⟨before, known, equal⟩ := Option.map_eq_some_iff.mp same.symm
    rw [← equal]
    exact spilled.cached id before known
  · intro id some
    have same := congrArg Option.isSome (cached id)
    rw [Option.isSome_map, Option.isSome_map] at same
    rw [same]
    exact some

/-- A row does not get onto a page with the last number. -/
theorem Serial.spill (serial : Serial store txn [] tables)
    (registered : store.catalog.tables.get? table.id = some table)
    (last : table.wholePages store.disk + 1 = 2 ^ 32) (row : Row) :
    ∃ task grown, Insertion.append table txn row store = (.ok task, grown) ∧ ∀ limit,
      ∃ error after, Step.repeat Insertion.step (limit + 1) task grown =
          (.finished (.error error), after) ∧ after.Spilled txn tables table := by
  obtain ⟨grown, appended, disk, sound, ⟨own, known, whole⟩, absent, unread⟩ : ∃ grown,
      Insertion.append table txn row store = (.ok _, grown) ∧ _ :=
    serial.sound.append_last registered last row
  have catalog : grown.catalog = store.catalog := by rw [disk]
  have frames : grown.frames = store.frames := by rw [disk]
  have writable : grown.unwritable = store.unwritable := by rw [disk]
  have locks : grown.locks = store.locks := by rw [disk]
  cases known.symm.trans (catalog ▸ registered)
  refine ⟨_, grown, appended, ?_⟩
  intro limit
  rcases attempt : grown.attempt (grown.request txn (store.nextPage table) .exclusive) with
    ⟨answer, after⟩
  have attempted : Attempted (fun _ => True) _ grown after answer :=
    sound.attempted rfl attempt .any
  obtain ⟨refused, kept⟩ := attempt_of_unreadable absent unread attempt
  have granted : (grown.locks.acquire txn (store.nextPage table) .exclusive).1 = true := by
    rw [locks]
    exact LockTable.granted_of_alone fun other different => serial.alone other _ different
  have spilled : after.Spilled txn tables table := by
    refine ⟨attempted.sound, ?_, ?_, ?_, ?_, ?_⟩
    · exact attempted.unwritable.trans (writable.trans serial.writable)
    · intro other id different
      rw [attempted.others other id different, locks, serial.alone other id different]
    · rw [attempted.catalog]
      exact known
    · rw [attempted.counts _ _ known, whole]
    · intro id page cached
      have same : after.frames = store.frames := by rw [kept, frames]
      rw [cached?, same] at cached
      exact (serial.page id).contents (copy_of_cached cached)
  cases answer with
  | waiting request =>
      cases attempt_cases attempt with
      | waits denied => cases denied.symm.trans granted
  | finished result =>
      cases result with
      | ok handle => exact absurd rfl (refused handle)
      | error error =>
          refine ⟨error, after, ?_, spilled⟩
          simp only [Step.repeat, Insertion.step, Insertion.askFor, attempt]

section

variable (begun : Serial store txn [] tables)
  (registered : store.catalog.tables.get? table.id = some table)
  (packed : tables.Packed table values count) (small : count < 2 ^ 32)
  (alike : row.schema.alike table.schema = true)

include begun registered packed small alike

/-- An insertion goes on over the pages that are left, none of which has a free slot. -/
theorem Passed.climb (left : Nat) {number : Nat} {middle : Store}
    (passed : Passed txn store tables middle [] tables) (counted : number + left + 1 = count) :
    ∃ top, Passed txn store tables top [] tables ∧ ∀ limit,
      Step.repeat Insertion.step (left + 1 + limit)
          (Insertion.askFor table txn row count (table.page (UInt32.ofNat number)) middle) middle =
        match Insertion.append table txn row top with
        | (.ok task, grown) => Step.repeat Insertion.step limit task grown
        | (.error error, grown) => (.finished (.error error), grown) := by
  have timely : (Insertion.askFor table txn row count
      (table.page (UInt32.ofNat number)) middle).request.Timely middle txn := ⟨rfl, rfl⟩
  have seen : tables.page (table.page (UInt32.ofNat number)) = .ok [some values] :=
    packed.page number (by omega)
  rcases passed.try begun timely rfl (passed.ages.catalog ▸ registered) alike with
    ⟨error, after, missing, -⟩ | ⟨contents, found, ⟨slot, inserted, after, free, -⟩ |
    ⟨freed, -, later, step⟩⟩
  · cases seen.symm.trans missing
  · cases seen.symm.trans found
    cases free
  · rw [goOn_askFor (by omega)] at step
    cases left with
    | zero =>
        rw [if_neg (by omega)] at step
        refine ⟨freed, later, ?_⟩
        intro limit
        rw [Nat.add_comm, Step.repeat, step]
        rcases Insertion.append table txn row freed with ⟨error | task, grown⟩ <;> rfl
    | succ left =>
        rw [if_pos (by omega)] at step
        obtain ⟨top, reached, rest⟩ := climb left later (show number + 1 + left + 1 = count by omega)
        refine ⟨top, reached, ?_⟩
        intro limit
        rw [show left + 1 + 1 + limit = left + 1 + limit + 1 by omega, Step.repeat, step]
        exact rest limit

/-- An insertion that has to go onto a page with the last number fails. -/
theorem Serial.spills (last : count + 1 = 2 ^ 32) :
    ∃ error after, Insertion.run table txn row store = (.finished (.error error), after) ∧
      after.Spilled txn tables table := by
  have whole : table.wholePages store.disk = count :=
    (begun.count _ _ registered).trans packed.counted
  have started := begun.start_of_paged registered
    (show 0 < tables.count table.id by rw [packed.counted]; omega) alike txn
  rw [packed.counted] at started
  have enough := wholePages_le_stepLimit store table
  obtain ⟨limit, same⟩ : ∃ limit, store.stepLimit = count - 1 + 1 + (limit + 1) :=
    ⟨store.stepLimit - count - 1, by omega⟩
  obtain ⟨top, passed, climbed⟩ := begun.passed.climb begun registered packed small alike
    (count - 1) (show 0 + (count - 1) + 1 = count by omega)
  have known : top.catalog.tables.get? table.id = some table := passed.ages.catalog ▸ registered
  have full : table.wholePages top.disk + 1 = 2 ^ 32 := by
    rw [passed.serial.count _ _ known, packed.counted, last]
  obtain ⟨task, grown, appended, spills⟩ := passed.serial.spill known full row
  obtain ⟨error, after, done, spilled⟩ := spills limit
  refine ⟨error, after, ?_, spilled⟩
  rw [Insertion.run, started]
  simp only [Insertion.resume, same]
  rw [show (0 : UInt32) = UInt32.ofNat 0 from rfl, climbed, appended]
  exact done

end

end Store

/-! ## Insertions without a break -/

/-- The row is on the page that the insertion answers. -/
theorem Store.InsertionEnds.page {store after : Store} {table : Table} {txn : TxnId} {row : Row}
    {inserted : Inserted}
    (ends : InsertionEnds store table txn row (.finished (.ok inserted)) after) :
    inserted.row.location.map Location.page = some inserted.page := by
  cases ends with
  | found => rfl
  | behind => rfl
  | beyond unnumbered unplaced => exact absurd rfl (unplaced inserted)

/-- What the history says of an insertion that has ended. -/
def Insertion.events (txn : TxnId) (store : Store) : Except StoreError Inserted → List Event
  | .ok inserted => Operation.insertEvents txn inserted store
  | .error _ => []

namespace System

variable {system : System} {after : Store} {table : Table} {txn : TxnId} {row : Row}
  {task : Insertion} {result : Except StoreError Inserted} {id : TableId}

theorem run_append (first second : List Action) :
    system.run (first ++ second) = (system.run first).run second :=
  List.foldl_append

theorem run_of_idle (idle : system.pending.get? txn = none) (steps : Nat) :
    system.run (List.replicate steps (.advance txn)) = system := by
  induction steps with
  | zero => rfl
  | succ steps ih =>
      rw [List.replicate_succ, run, List.foldl_cons, perform, advance_of_idle idle]
      exact ih

theorem run_steps {limit : Nat} (sound : system.Sound)
    (busy : system.pending.get? txn = some (.insertion task))
    (run : Step.repeat Insertion.step limit task system.store = (.finished result, after)) :
    system.run (List.replicate limit (.advance txn)) =
      { system with
        store := after
        pending := system.pending.erase txn
        history := system.history ++ Insertion.events txn after result } := by
  induction limit generalizing system task with
  | zero => cases run
  | succ limit ih =>
      obtain ⟨-, -, own, -⟩ := sound.ready txn _ busy
      rw [List.replicate_succ, System.run, List.foldl_cons, ← System.run, perform]
      rw [Step.repeat] at run
      rcases step : task.step system.store with ⟨next | next | ended, got⟩
      · rw [step] at run
        have turn : (Operation.insertion task).step system.store =
            (⟨some (.insertion next), none, []⟩, got) := by
          simp only [Operation.step, step]
        have moved := advance_eq busy turn
        have again : (system.advance txn).pending.get? txn = some (.insertion next) := by
          rw [moved]
          exact SortedMap.get?_insert_self ..
        have sounds : (system.advance txn).Sound := (sound.follows [.advance txn]).sound
        rw [ih sounds again (moved ▸ run), moved]
        simp only [SortedMap.erase_insert_self, List.append_nil, Option.toList_none,
          List.nil_append]
      · rw [step] at run
        cases run
      · rw [step] at run
        cases run
        have turn : (Operation.insertion task).step system.store =
            (⟨none, none, Insertion.events txn after result⟩, after) := by
          cases result <;> simp only [Operation.step, step, own, Insertion.events]
        have moved := advance_eq busy turn
        rw [run_of_idle]
        · rw [moved]
          rfl
        · rw [moved]
          exact (SortedMap.get?_erase ..).trans (if_pos rfl)

def insertAtOnce (txn : TxnId) (id : TableId) (row : Row) (steps : Nat) : List Action :=
  .call txn (.insert id row) :: List.replicate steps (.advance txn)

theorem run_insert (sound : system.Sound) (idle : system.pending.get? txn = none)
    (found : system.store.catalog.table id = .ok table)
    (run : Insertion.run table txn row system.store = (.finished result, after)) :
    ∃ steps, 0 < steps ∧ system.run (insertAtOnce txn id row steps) =
      { system with
        store := after
        history := system.history ++ Insertion.events txn after result } := by
  rw [Insertion.run] at run
  rcases started : Insertion.start table txn row system.store with ⟨error | task, begun⟩
  · rw [started] at run
    cases run
    have refused : Call.start txn system.store (.insert id row) = (none, after) := by
      simp only [Call.start, found, started]
    refine ⟨1, Nat.one_pos, ?_⟩
    rw [insertAtOnce, System.run, List.foldl_cons, ← System.run, perform,
      begin_of_idle idle refused]
    simp only [Insertion.events, List.append_nil]
    apply run_of_idle
    exact idle
  · rw [started] at run
    have begins : Call.start txn system.store (.insert id row) = (some (.insertion task), begun) := by
      simp only [Call.start, found, started]
    have sounds : (system.begin txn (.insert id row)).Sound :=
      (sound.follows [.call txn (.insert id row)]).sound
    rw [begin_of_idle idle begins] at sounds
    have enough := Store.wholePages_le_stepLimit begun table
    refine ⟨begun.stepLimit, by omega, ?_⟩
    rw [insertAtOnce, System.run, List.foldl_cons, ← System.run, perform,
      begin_of_idle idle begins]
    rw [run_steps sounds (SortedMap.get?_insert_self ..) run]
    simp only [SortedMap.erase_insert_self, SortedMap.erase_of_missing idle]

end System

/-! ## A file of numbers -/

namespace FileBytes

variable {piece : Bytes} {count number : Nat}

def repeated (piece : Bytes) (count : Nat) : FileBytes :=
  .ofBytes (List.replicate count piece).flatten

theorem length_repeated : (repeated piece count).length = count * piece.length := by
  rw [← length_bytes, repeated, bytes_ofBytes, List.length_flatten, List.map_replicate,
    List.sum_replicate]
  rfl

theorem slice_repeated (inside : number < count) :
    (repeated piece count).slice (number * piece.length) piece.length = piece := by
  obtain ⟨rest, rfl⟩ : ∃ rest, count = number + (rest + 1) := ⟨count - number - 1, by omega⟩
  have before : (List.replicate number piece).flatten.length = number * piece.length := by
    rw [List.length_flatten, List.map_replicate, List.sum_replicate]
    rfl
  rw [← bytes_slice, repeated, bytes_ofBytes, List.replicate_add, List.flatten_append,
    List.replicate_succ, List.flatten_cons, Bytes.slice, ← before, List.drop_left,
    List.take_left]

end FileBytes

/-- A store that was just opened on a table of numbers whose pages hold one row each, all
of them the number five. -/
def Store.fives (capacity count : Nat) : Store :=
  { Store.ofNumbers capacity with
    disk := (∅ : Disk).insert "numbers" (.repeated [1, 0, 0, 0, 5, 0, 0, 0] count) }

namespace Store

variable {capacity count : Nat}

theorem registered_fives : (Store.fives capacity count).catalog.tables.get? Table.numbers.id =
    some .numbers := rfl

theorem pages_fives : Table.numbers.pages (Store.fives capacity count).disk =
    ⟨8, .repeated [1, 0, 0, 0, 5, 0, 0, 0] count⟩ := rfl

theorem wholePages_fives : Table.numbers.wholePages (Store.fives capacity count).disk = count := by
  rw [Table.wholePages, pages_fives, PageFile.wholePages, FileBytes.length_repeated]
  exact Nat.mul_div_cancel count (by decide)

theorem table_fives {id : TableId} {table : Table}
    (found : (Store.fives capacity count).catalog.tables.get? id = some table) :
    id = Table.numbers.id ∧ table = .numbers := by
  change (SortedMap.insert ∅ _ _).get? id = some table at found
  rw [SortedMap.get?_insert] at found
  split at found
  · next here => exact ⟨here, (Option.some.inj found).symm⟩
  · cases found

theorem roomy_fives (small : count + 1 < 2 ^ 32) : (Store.fives capacity count).Roomy := by
  intro id table found
  rw [(table_fives found).2, wholePages_fives]
  exact small

theorem fresh_fives (small : count < 2 ^ 32) : (Store.fives capacity count).Fresh where
  catalog := (Store.fresh_ofNumbers capacity).catalog
  addressable := by
    intro id table found
    rw [(table_fives found).2, wholePages_fives]
    exact small
  locks := rfl
  frames := rfl
  unflushed := rfl
  policy queue known := (EvictionPolicy.leastRecent.inj known).symm

theorem packed_fives (small : count < 2 ^ 32) :
    (Store.fives capacity count).tables.Packed .numbers [.int 5] count where
  counted := wholePages_fives
  page number inside := by
    let id : PageId := Table.numbers.page (UInt32.ofNat number)
    have own : id.number.toNat = number := Table.toNat_page (by omega)
    have bytes : Table.numbers.pageBytes (Store.fives capacity count).disk id.number =
        [1, 0, 0, 0, 5, 0, 0, 0] := by
      rw [Table.pageBytes, pages_fives, PageFile.offset, own]
      exact FileBytes.slice_repeated inside
    have uncached : ((Store.fives capacity count).pageState id).cached = none :=
      copy_of_uncached ((fresh_fives small).uncached id)
    have look : ((Store.fives capacity count).pageState id).look = .ok [some [.int 5]] := by
      rw [PageState.look_of_absent uncached]
      change (Store.fives capacity count).stored id = _
      rw [stored, readPage_of_table registered_fives, Table.readPage_eq rfl (by decide)
        (wholePages_fives ▸ small), wholePages_fives, if_pos (own.symm ▸ inside), bytes]
      rfl
    exact look

theorem serial_fives (room : 0 < capacity) (small : count < 2 ^ 32) (txn : TxnId) :
    (Store.fives capacity count).Serial txn [] (Store.fives capacity count).tables :=
  ((fresh_fives small).rested ⟨_, rfl⟩ rfl room).serial txn

theorem alike_five : (Row.ofNumber 5).schema.alike Table.numbers.schema = true := by decide

/-- The last page that gets a number. -/
theorem insert_fives (room : 0 < capacity) (small : count + 1 < 2 ^ 32) (txn : TxnId) :
    ∃ inserted after later,
      Insertion.run .numbers txn (.ofNumber 5) (Store.fives capacity count) =
        (.finished (.ok inserted), after) ∧
      inserted.row.location = some ⟨Table.numbers.page (UInt32.ofNat count), 0⟩ ∧
      after.catalog = (Store.fives capacity count).catalog ∧
      after.Serial txn [] later ∧ later.Packed .numbers [.int 5] (count + 1) := by
  have few : count < 2 ^ 32 := by omega
  obtain ⟨result, after, run, entry, served⟩ := (serial_fives room few txn).insert
    registered_fives (roomy_fives small) (.ofNumber 5)
  have fives : (Store.fives capacity count).tables.Packed .numbers (Row.ofNumber 5).values count :=
    packed_fives few
  obtain ⟨later, placed, packed⟩ := fives.insert (by decide) (by decide) few
    (fun unbuffered => absurd unbuffered.1 (by decide)) alike_five
  rw [placed] at entry served
  cases result with
  | error error => cases entry
  | ok inserted =>
      exact ⟨inserted, after, later, run, congrArg Prod.fst (Except.ok.inj entry), served.catalog,
        served.serial, packed⟩

end Store

theorem System.fresh_fives {capacity count : Nat} (small : count < 2 ^ 32) :
    System.Fresh { store := .fives capacity count } :=
  ⟨Store.fresh_fives small, rfl, rfl, rfl⟩

end TableStore
