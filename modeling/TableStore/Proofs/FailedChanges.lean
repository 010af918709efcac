import TableStore.Proofs.CacheAccounts
import TableStore.Proofs.FirstPlaces
import TableStore.Proofs.PackedTables
import TableStore.Session.Execute

/-!
# Changes that fail

An insertion or a deletion may fail at any page that it asks for, also after it has
appended a page, and other pages may have left the cache meanwhile.  However it fails,
every place keeps its row, no page has new changes, and at most one empty page is new.
The row that was to be inserted or deleted keeps its location.
-/

set_option autoImplicit false

namespace TableStore

namespace Store

variable {store after : Store} {table : Table} {txn : TxnId} {row : Row} {error : StoreError}

/-- Every place has the row that it had, and no page has new changes. -/
structure KeepsRows (store after : Store) : Prop where
  rows : ∀ place, after.rowAt? place = store.rowAt? place
  remembers : ∀ id, (store.pageState id).Remembers (after.pageState id)

theorem Alike.keepsRows (alike : Alike store after) : KeepsRows store after where
  rows place := rowAt?_congr (alike.look place.page)
  remembers := alike.remembers

theorem Nears.keepsRows (nears : Nears store table after) : KeepsRows store after := by
  cases nears with
  | alike alike => exact alike.keepsRows
  | extended extended => exact ⟨extended.rowAt?, extended.remembers⟩

/-! ## Insertions and deletions -/

theorem unfull_of_attempt {request : PageRequest}
    (failed : store.attempt request = (.finished (.error error), after)) (page : PageId) :
    error ≠ .pageFull page := by
  rintro rfl
  rcases error_of_attempt failed with circle | full | file
  · cases circle
  · cases full
  · cases file

theorem InsertionEnds.failure
    (ends : InsertionEnds store table txn row (.finished (.error error)) after)
    (begun : Alike store store) :
    (∀ page, error ≠ .pageFull page) ∧ (after.Addressable → Nears store table after) := by
  cases ends with
  | mismatched unlike => exact ⟨nofun, fun _ => .alike begun⟩
  | fatal fatal unfit => exact ⟨nofun, fun _ => .alike begun⟩
  | fails nears failed => exact ⟨unfull_of_attempt failed, fun _ => nears⟩
  | beyond unnumbered unplaced failed =>
      obtain ⟨middle, request, attempt⟩ := failed error rfl
      exact ⟨unfull_of_attempt attempt, fun addressable => absurd addressable unnumbered⟩

theorem Backed.insert_fails (backed : store.Backed) (sound : store.Sound)
    (addressable : store.Addressable) {id : TableId}
    (run : store.insert txn id row = (.finished (.error error), after)) :
    (∀ page, error ≠ .pageFull page) ∧ (after.Addressable →
      (Alike store after ∨ ∃ table, store.catalog.table id = .ok table ∧ Extended store after table) ∧
      KeepsRows store after) := by
  have begun := backed.alike sound addressable
  rcases backed.insert sound addressable run with ⟨-, failed, rfl⟩ | ⟨table, found, known, ends⟩
  · cases failed
    refine ⟨?_, fun _ => ⟨.inl begun, begun.keepsRows⟩⟩
    intro page same
    cases same
  · obtain ⟨other, near⟩ := ends.failure begun
    refine ⟨other, ?_⟩
    intro numbered
    have nears := near numbered
    refine ⟨?_, nears.keepsRows⟩
    cases nears with
    | alike alike => exact .inl alike
    | extended extended => exact .inr ⟨table, found, extended⟩

theorem Backed.resume_fails (backed : store.Backed) (sound : store.Sound)
    (addressable : store.Addressable) {task : Deletion}
    (ready : (Operation.deletion task).Ready store txn)
    (run : task.resume store = (.finished (.error error), after)) : Alike store after := by
  obtain ⟨-, timely⟩ := ready
  rcases attempt : store.attempt task.request with ⟨next | failure | handle, got⟩
  · simp only [Deletion.resume, attempt] at run
    cases run
  · simp only [Deletion.resume, attempt] at run
    cases run
    exact backed.attempted sound addressable timely attempt
  · have granted := sound.grants timely attempt
    obtain ⟨frame, found, same⟩ := granted.cached
    rcases granted.sound.remove task.row handle found same with
      ⟨refused, -⟩ | ⟨location, values, -, -, -, removed, -⟩
    · rw [resume_of_removed attempt refused] at run
      cases run
      exact (backed.granted sound addressable granted).2
    · rw [resume_of_removed attempt (Prod.ext removed rfl)] at run
      cases run

theorem Backed.delete_fails (backed : store.Backed) (sound : store.Sound)
    (addressable : store.Addressable)
    (run : store.delete txn row = (.finished (.error error), after)) : Alike store after := by
  have begun := backed.alike sound addressable
  rw [Store.delete] at run
  split at run
  · cases run
    exact begun
  · split at run
    · cases run
      exact begun
    · next table _ =>
        cases started : Deletion.start table txn row store with
        | error failure =>
            simp only [Deletion.run, started] at run
            cases run
            exact begun
        | ok task =>
            simp only [Deletion.run, started] at run
            exact backed.resume_fails sound addressable (deletion_start started) run

end Store

theorem Insertion.row_of_start {store after : Store} {table : Table} {txn : TxnId} {row : Row}
    {task : Insertion} (run : Insertion.start table txn row store = (.ok task, after)) :
    task.row = row := by
  unfold Insertion.start Insertion.append at run
  split at run
  · split at run
    · cases run
    · split at run
      · cases run
        rfl
      · split at run
        · cases run
        · cases run
          rfl
  · cases run

/-! ## Rows of a session -/

namespace Session

variable {session : Session} {txn : TxnId} {row : Row} {error : StoreError} {after : Store}
  {name : String}

theorem execute_insert_of_failed {id : TableId} (kept : session.rows.get? name = some row)
    (run : session.store.insert txn id row = (.finished (.error error), after)) :
    ∃ later, session.execute (.insert txn (some id) none (.kept name) (some name)) =
        (.failed (.store error), later) ∧
      later.store = after ∧ ∀ other, later.rows.get? other = session.rows.get? other := by
  have again (other : String) :
      (session.rows.insert name row).get? other = session.rows.get? other := by
    rw [SortedMap.get?_insert]
    split
    · next same => rw [same, kept]
    · rfl
  have own : session.row (.kept name) (some id) = .ok row := by
    simp only [Session.row, kept]
  refine ⟨{ session.setStore after with rows := session.rows.insert name row }, ?_, rfl, again⟩
  rw [Store.insert] at run
  simp only [Session.execute, own, Option.getD_some]
  rw [show session.table ⟨none, id⟩ = session.store.catalog.table id from rfl]
  cases found : session.store.catalog.table id with
  | error failure =>
      simp only [found] at run ⊢
      cases run
      rfl
  | ok table =>
      simp only [found, Insertion.run] at run ⊢
      rcases started : Insertion.start table txn row session.store with ⟨failure | task, begun⟩
      · simp only [started] at run ⊢
        cases run
        rfl
      · simp only [started] at run ⊢
        simp only [launch, advance]
        rw [show (session.setStore begun).store = begun from rfl, run, Insertion.row_of_start started]
        rfl

theorem execute_delete_of_failed (kept : session.rows.get? name = some row)
    (run : session.store.delete txn row = (.finished (.error error), after)) :
    session.execute (.delete txn none none (.kept name)) =
      (.failed (.store error), session.setStore after) := by
  have own : session.row (.kept name) none = .ok row := by
    simp only [Session.row, kept]
  rw [Store.delete] at run
  simp only [Session.execute, own]
  cases placed : row.location with
  | none =>
      simp only [placed] at run ⊢
      cases run
      rfl
  | some location =>
      simp only [placed] at run ⊢
      cases found : session.store.catalog.table location.page.table with
      | error failure =>
          simp only [found] at run
          cases run
          rfl
      | ok table =>
          simp only [found, Deletion.run] at run
          rw [show ((.ok table : Except StoreError Table) >>= fun table =>
            Deletion.start table txn row session.store) =
              Deletion.start table txn row session.store from rfl]
          cases started : Deletion.start table txn row session.store with
          | error failure =>
              simp only [started] at run
              cases run
              rfl
          | ok task =>
              simp only [started] at run
              simp only [launch, advance, run]
              rfl

end Session

namespace System

/-- An insertion or a deletion that does not have to wait and fails changes no row and
marks no page, and the row that was given keeps its location.  A failed insertion may leave
an empty page behind its table, and it never fails because a page is full.  This holds
after any fetches, insertions, deletions, scans, commits and rollbacks of any number of
transactions, whether writes failed among them or not. -/
theorem failed_changes_change_no_row {system : System} (fresh : system.Fresh)
    {actions : List Action} (unflushed : ∀ action ∈ actions, action.flushes = false)
    (numbered : Along Numbered system actions) :
    let store := (system.run actions).store
    (∀ txn id row error after, store.insert txn id row = (.finished (.error error), after) →
      (∀ page, error ≠ .pageFull page) ∧ (after.Addressable → store.KeepsRows after ∧
        (Store.Alike store after ∨
          ∃ table, store.catalog.table id = .ok table ∧ Store.Extended store after table) ∧
        ∀ (session : Session) (name : String), session.store = store →
          session.rows.get? name = some row →
          ∃ later, session.execute (.insert txn (some id) none (.kept name) (some name)) =
              (.failed (.store error), later) ∧
            later.store = after ∧ ∀ other, later.rows.get? other = session.rows.get? other)) ∧
    ∀ txn row error after, store.delete txn row = (.finished (.error error), after) →
      store.KeepsRows after ∧ Store.Alike store after ∧
      ∀ (session : Session) (name : String), session.store = store →
        session.rows.get? name = some row →
        session.execute (.delete txn none none (.kept name)) =
          (.failed (.store error), session.setStore after) := by
  intro store
  obtain ⟨sound, backed, addressable⟩ :=
    fresh.sound.backed_run fresh.backed fresh.store.addressable unflushed numbered
  refine ⟨?_, ?_⟩
  · intro txn id row error after run
    obtain ⟨other, fails⟩ := backed.insert_fails sound.store addressable run
    refine ⟨other, ?_⟩
    intro numbered
    obtain ⟨left, keeps⟩ := fails numbered
    refine ⟨keeps, left, ?_⟩
    intro session name same kept
    exact Session.execute_insert_of_failed kept (same ▸ run)
  · intro txn row error after run
    have alike := backed.delete_fails sound.store addressable run
    refine ⟨alike.keepsRows, alike, ?_⟩
    intro session name same kept
    exact Session.execute_delete_of_failed kept (same ▸ run)

/-- If an insertion fails behind the page with the last number, the rows of all pages that
are not cached are gone. -/
theorem insertion_beside_last_page_number :
    let system : System := { store := .fives 1 (2 ^ 32 - 1) }
    system.Fresh ∧ ∃ error after place,
      system.store.insert ⟨1⟩ ⟨1⟩ (.ofNumber 5) = (.finished (.error error), after) ∧
        system.store.rowAt? place = some [.int 5] ∧ after.rowAt? place = none := by
  generalize last : 2 ^ 32 - 1 = count
  intro system
  have fresh : system.Fresh := System.fresh_fives (by omega)
  have found : system.store.catalog.table ⟨1⟩ = .ok .numbers := rfl
  have begun : system.store.Serial ⟨1⟩ [] system.store.tables :=
    Store.serial_fives (by decide) (by omega) ⟨1⟩
  have packed : system.store.tables.Packed .numbers [.int 5] count :=
    Store.packed_fives (by omega)
  obtain ⟨error, after, run, spilled⟩ := begun.spills Store.registered_fives packed (by omega)
    Store.alike_five (by omega)
  have inserted : system.store.insert ⟨1⟩ ⟨1⟩ (.ofNumber 5) = (.finished (.error error), after) := by
    rw [Store.insert, found]
    exact run
  obtain ⟨steps, -, ran⟩ := run_insert fresh.sound rfl found run
  have bounded : after.frames.size ≤ 1 := by
    have size : (system.run (insertAtOnce ⟨1⟩ ⟨1⟩ (.ofNumber 5) steps)).store.frames.size ≤ 1 :=
      bounded_run system.store.disk system.store.catalog 1 _
    rwa [ran] at size
  let place (number : Nat) : Location := ⟨Table.numbers.page (UInt32.ofNat number), 0⟩
  have before (number : Nat) (inside : number < count) :
      system.store.rowAt? (place number) = some [.int 5] := by
    have seen : (system.store.pageState (place number).page).look = .ok [some [.int 5]] :=
      packed.page number inside
    exact Store.rowAt?_of_look seen
  have gone (number : Nat) (absent : after.frames.get? (place number).page = none) :
      after.rowAt? (place number) = none := by
    have uncached := Store.copy_of_uncached (Store.cached?_of_missing absent)
    have lost : (after.pageState (place number).page).look =
        .error (.pageNotFound (place number).page) :=
      (PageState.look_of_absent uncached).trans (spilled.sound.stored_of_lost spilled.lost)
    rw [Store.rowAt?, lost]
  -- Of the first two pages one is not cached.
  cases first : after.frames.get? (place 0).page with
  | none => exact ⟨fresh, error, after, place 0, inserted, before 0 (by omega), gone 0 first⟩
  | some frame =>
      cases second : after.frames.get? (place 1).page with
      | none => exact ⟨fresh, error, after, place 1, inserted, before 1 (by omega), gone 1 second⟩
      | some other =>
          have left : (after.frames.erase (place 0).page).get? (place 1).page = some other := by
            rw [SortedMap.get?_erase, if_neg (by decide), second]
          have less := SortedMap.size_erase_lt first
          have fewer := SortedMap.size_erase_lt left
          omega

/-- A transaction fills the first page of a table and keeps a handle to it.  The cache has
room for this page only. -/
def fullAndPinned : List Action :=
  [.call ⟨1⟩ (.insert ⟨1⟩ (.ofNumber 5)), .advance ⟨1⟩,
    .call ⟨1⟩ (.fetch (Table.numbers.page 0) .shared), .advance ⟨1⟩]

/-- An insertion then appends a page for which there is no room, and a deletion from a slot
that the first page does not have fails as well. -/
theorem changes_beside_pinned_page_fail :
    let store := ((System.ofNumbers 1).run fullAndPinned).store
    let missing := (Row.ofNumber 5).placeAt (some ⟨Table.numbers.page 0, 1⟩)
    (∃ after, store.insert ⟨1⟩ ⟨1⟩ (.ofNumber 6) = (.finished (.error .poolFull), after) ∧
      after.Addressable ∧ store.KeepsRows after ∧
      Table.numbers.wholePages store.disk = 1 ∧ Table.numbers.wholePages after.disk = 2) ∧
    ∃ after, store.delete ⟨1⟩ missing =
        (.finished (.error (.notOnPage (Table.numbers.page 0) missing.location)), after) ∧
      Store.Alike store after := by
  have unflushed : ∀ action ∈ fullAndPinned, action.flushes = false := by decide
  have numbered : Along Numbered (System.ofNumbers 1) fullAndPinned := by decide +kernel
  obtain ⟨inserts, deletes⟩ :=
    failed_changes_change_no_row (fresh_ofNumbers 1) unflushed numbered
  obtain ⟨after, failed, addressable, grown⟩ : ∃ after,
      ((System.ofNumbers 1).run fullAndPinned).store.insert ⟨1⟩ ⟨1⟩ (.ofNumber 6) =
        (.finished (.error .poolFull), after) ∧
      after.Addressable ∧ Table.numbers.wholePages after.disk = 2 :=
    ⟨_, rfl, by decide +kernel, rfl⟩
  obtain ⟨left, refused⟩ : ∃ left,
      ((System.ofNumbers 1).run fullAndPinned).store.delete ⟨1⟩
          ((Row.ofNumber 5).placeAt (some ⟨Table.numbers.page 0, 1⟩)) =
        (.finished (.error (.notOnPage (Table.numbers.page 0)
          (some ⟨Table.numbers.page 0, 1⟩))), left) :=
    ⟨_, rfl⟩
  obtain ⟨-, kept⟩ := inserts _ _ _ _ _ failed
  obtain ⟨keeps, -⟩ := kept addressable
  obtain ⟨-, alike, -⟩ := deletes _ _ _ _ refused
  exact ⟨⟨after, failed, addressable, keeps, rfl, grown⟩, left, refused, alike⟩

end System

end TableStore
