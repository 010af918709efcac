import TableStore.Proofs.SerialRequests
import TableStore.Proofs.TidySteps

/-!
# What a scan has read

A scan takes a shared lock on every page that it reads, and keeps it.  At any
moment its rows are those of the pages before its next one, as these look then,
and at its end those of the whole table.
-/

set_option autoImplicit false

namespace TableStore

namespace Store

variable {store after : Store} {txn : TxnId} {table : Table}

/-- The entries are those of the first pages of the table, as many as the number
says, and the transaction holds all of these pages. -/
inductive Shows (store : Store) (txn : TxnId) (table : Table) :
    Nat → List (Option Location × List Value) → Prop
  | nil : Shows store txn table 0 []
  | page {number : Nat} {entries : List (Option Location × List Value)} {contents : Contents}
      (shows : Shows store txn table number entries)
      (holds : (store.locks.mode? txn (table.page (UInt32.ofNat number))).isSome = true)
      (look : (store.pageState (table.page (UInt32.ofNat number))).look = .ok contents) :
      Shows store txn table (number + 1)
        (entries ++ contents.rows (table.page (UInt32.ofNat number)))

variable {number : Nat} {entries others : List (Option Location × List Value)}

theorem Shows.undisturbed (shown : Shows store txn table number entries)
    (undisturbed : Undisturbed txn store after) : Shows after txn table number entries := by
  induction shown with
  | nil => exact .nil
  | page before holds look ih =>
      apply ih.page
      · exact undisturbed.holds _ holds
      · exact undisturbed.look _ _ holds look

theorem Shows.unique (shown : Shows store txn table number entries)
    (again : Shows store txn table number others) : entries = others := by
  induction shown generalizing others with
  | nil =>
      cases again
      rfl
  | page before holds look ih =>
      cases again with
      | page same held seen =>
          cases look.symm.trans seen
          rw [ih same]

theorem Shows.holds_first (shown : Shows store txn table number entries) (some : 0 < number) :
    (store.locks.mode? txn (table.page 0)).isSome = true := by
  induction shown with
  | nil => omega
  | page before holds look ih =>
      rename_i count _ _
      cases count with
      | zero => exact holds
      | succ count => exact ih (by omega)

/-- The rows of a whole table stay as they are for a transaction that read all of
it. -/
theorem Shows.whole (shown : Shows store txn table (table.wholePages store.disk) entries)
    (registered : store.catalog.tables.get? table.id = some table)
    (paged : 0 < table.wholePages store.disk) (undisturbed : Undisturbed txn store after) :
    Shows after txn table (table.wholePages after.disk) entries := by
  rw [undisturbed.count _ _ registered paged (shown.holds_first paged)]
  exact shown.undisturbed undisturbed

end Store

/-! ## One scan -/

structure Scan.Reading (store : Store) (txn : TxnId) (task : Scan) : Prop where
  registered : store.catalog.tables.get? task.seek.cursor.table.id = some task.seek.cursor.table
  inside : task.seek.cursor.nextPage.toNat ≤
    task.seek.cursor.table.wholePages store.disk
  shows : store.Shows txn task.seek.cursor.table task.seek.cursor.nextPage.toNat
    ((task.rows ++ task.seek.cursor.buffered).map Row.entry)
  asks : ∀ request, task.seek.request = some request →
    request.page = task.seek.cursor.table.page task.seek.cursor.nextPage ∧
      task.seek.cursor.nextPage.toNat < task.seek.cursor.table.wholePages store.disk

namespace Scan.Reading

variable {store after : Store} {txn : TxnId} {task : Scan}

theorem undisturbed (reading : task.Reading store txn)
    (undisturbed : Store.Undisturbed txn store after) : task.Reading after txn := by
  have grows := undisturbed.grows _ _ reading.registered
  refine ⟨undisturbed.catalog ▸ reading.registered, ?_, reading.shows.undisturbed undisturbed, ?_⟩
  · exact Nat.le_trans reading.inside grows
  · intro request asked
    obtain ⟨page, below⟩ := reading.asks request asked
    exact ⟨page, Nat.lt_of_lt_of_le below grows⟩

def Leads (store : Store) (txn : TxnId) (table : Table) : Step Scan Scanned → Prop
  | .again next => next.Reading store txn ∧ next.seek.cursor.table = table
  | .waiting next => next.Reading store txn ∧ next.seek.cursor.table = table
  | .finished scanned => scanned.error = none →
      store.Shows txn table (table.wholePages store.disk) (scanned.rows.map Row.entry)

theorem choose (reading : task.Reading store txn) (addressable : store.Addressable)
    (unasked : task.seek.request = none) :
    ∃ answer, task.step store = (answer, store) ∧
      Leads store txn task.seek.cursor.table answer := by
  have small := addressable _ _ reading.registered
  have whole (count : UInt32)
      (counted : task.seek.cursor.table.pageCount store.disk = .ok count) :
      count.toNat = task.seek.cursor.table.wholePages store.disk := by
    rcases Nat.eq_zero_or_pos task.seek.cursor.table.pageSize with unsized | sized
    · rw [Table.pageCount_of_unsized unsized] at counted
      cases counted
    · rw [Table.pageCount_eq sized] at counted
      cases counted
      rw [UInt32.toNat_ofNat', Nat.mod_eq_of_lt small]
  let cursor := task.seek.cursor
  rcases Store.choose_cases cursor store with ⟨-, chosen⟩ | ⟨empty, ⟨error, -, chosen⟩ |
    ⟨count, counted, ⟨more, chosen⟩ | ⟨ended, chosen⟩⟩⟩
  · refine ⟨.again ⟨task.rows ++ cursor.buffered, ⟨{ cursor with buffered := [] }, none⟩⟩, ?_,
      ⟨reading.registered, reading.inside, ?_, by simp⟩, rfl⟩
    · simp only [Scan.step, Seek.step, unasked, cursor, chosen]
    · rw [List.append_nil]
      exact reading.shows
  · refine ⟨.finished ⟨task.rows, some error⟩, ?_, by simp [Leads]⟩
    simp only [Scan.step, Seek.step, unasked, cursor, chosen]
  · refine ⟨.again ⟨task.rows, ⟨cursor, some (store.request cursor.txn
      (cursor.table.page cursor.nextPage) .shared)⟩⟩, ?_,
      ⟨reading.registered, reading.inside, reading.shows, ?_⟩, rfl⟩
    · simp only [Scan.step, Seek.step, unasked, cursor, chosen]
    · intro request asked
      cases asked
      refine ⟨rfl, ?_⟩
      rw [UInt32.lt_iff_toNat_lt, whole count counted] at more
      exact more
  · refine ⟨.finished ⟨task.rows, none⟩, ?_, ?_⟩
    · simp only [Scan.step, Seek.step, unasked, cursor, chosen]
    · intro _
      have shown := reading.shows
      rw [show task.seek.cursor.buffered = [] from empty, List.append_nil] at shown
      have last : cursor.nextPage.toNat = cursor.table.wholePages store.disk := by
        rw [UInt32.lt_iff_toNat_lt, whole count counted] at ended
        exact Nat.le_antisymm reading.inside (Nat.le_of_not_lt ended)
      rw [← last]
      exact shown

theorem take (reading : task.Reading store txn) (sound : store.Sound)
    (addressable : store.Addressable) {request : PageRequest}
    (asked : task.seek.request = some request) (empty : task.seek.cursor.buffered = [])
    {handle : Handle} {frame : Frame} (found : store.frames.get? handle.page = some frame)
    (serial : frame.serial = handle.serial) (own : handle.page = request.page)
    (holds : (store.locks.mode? txn request.page).isSome = true) :
    Scan.Reading store txn { task with seek := ⟨Seek.take task.seek.cursor handle store, none⟩ } := by
  obtain ⟨page, below⟩ := reading.asks request asked
  have small := addressable _ _ reading.registered
  have next : (task.seek.cursor.nextPage + 1).toNat = task.seek.cursor.nextPage.toNat + 1 := by
    rw [UInt32.toNat_add, Nat.mod_eq_of_lt]
    · rfl
    · change task.seek.cursor.nextPage.toNat + 1 < _
      omega
  have cached : store.cached? handle.page = some frame.page := Store.cached?_of_frame found
  obtain ⟨⟨table, -, fits⟩, -⟩ := sound.page _ _ cached
  have here : handle.page = task.seek.cursor.table.page
      (UInt32.ofNat task.seek.cursor.nextPage.toNat) := by
    rw [UInt32.ofNat_toNat]
    exact own.trans page
  have look : (store.pageState handle.page).look = .ok frame.page.contents :=
    PageState.look_of_cached (Store.copy_of_cached cached)
  refine ⟨reading.registered, ?_, ?_, by simp⟩
  · change (task.seek.cursor.nextPage + 1).toNat ≤ _
    rw [next]
    exact below
  · change store.Shows txn task.seek.cursor.table (task.seek.cursor.nextPage + 1).toNat _
    have rows : (task.rows ++ (Seek.take task.seek.cursor handle store).buffered).map Row.entry =
        (task.rows ++ task.seek.cursor.buffered).map Row.entry ++
          frame.page.contents.rows handle.page := by
      have entries := fits.sound.entries
      rw [fits.id] at entries
      rw [Seek.take, Store.pageOf?_of_frame found serial, empty]
      simp only [List.nil_append, Option.map_some, Option.getD_some, List.append_nil,
        List.map_append, entries]
    rw [next, rows, here]
    apply reading.shows.page
    · rw [← here, own]
      exact holds
    · rw [← here]
      exact look

theorem step (reading : task.Reading store txn) (sound : store.Sound) (tidy : store.Tidy)
    (ready : (Operation.scan task).Ready store txn) {answer : Step Scan Scanned}
    (run : task.step store = (answer, after)) : Leads after txn task.seek.cursor.table answer := by
  cases asked : task.seek.request with
  | none =>
      obtain ⟨chosen, stepped, leads⟩ := reading.choose tidy.addressable asked
      cases stepped.symm.trans run
      exact leads
  | some request =>
      obtain ⟨timely, empty⟩ := ready.2 request asked
      rcases attempt : store.attempt request with ⟨answered, got⟩
      obtain ⟨reached, undisturbed, gotSound, -, result⟩ := tidy.attempted sound timely attempt
      have kept := reading.undisturbed (undisturbed txn)
      cases result with
      | waiting modes =>
          simp only [Scan.step, Seek.step, asked, attempt] at run
          cases run
          refine ⟨⟨kept.registered, kept.inside, kept.shows, ?_⟩, rfl⟩
          intro again known
          cases known
          exact kept.asks request asked
      | failed error =>
          simp only [Scan.step, Seek.step, asked, attempt] at run
          cases run
          simp [Leads]
      | granted serial cached mode =>
          simp only [Scan.step, Seek.step, asked, attempt] at run
          cases run
          obtain ⟨frame, found, same⟩ := cached
          have holds : (got.locks.mode? txn request.page).isSome = true := by
            rw [← timely.1, mode]
            rfl
          let handle : Handle := ⟨request.page, request.mode, request.txn, serial⟩
          have taken : Scan.Reading got txn
              { task with seek := ⟨Seek.take task.seek.cursor handle got, none⟩ } :=
            kept.take gotSound reached.addressable asked empty found same rfl holds
          exact ⟨taken.undisturbed ((reached.unpinned gotSound handle).2 txn), rfl⟩

end Scan.Reading

end TableStore
