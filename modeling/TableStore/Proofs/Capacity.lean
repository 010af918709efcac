import TableStore.Proofs.Runs
import TableStore.Proofs.SerialRequests

/-!
# The capacity of the cache

Transactions that use a store one after the other get the answers of plain
tables, so these do not depend on how many pages the cache holds.  There is one
exception: a changed page that leaves the cache is written, and a rollback does
not reach it then.
-/

set_option autoImplicit false

namespace TableStore

def Reply.rows : Reply → List Entry
  | .scanned rows _ => rows
  | _ => []

namespace Store

variable {store after : Store} {txn : TxnId} {tables : Tables} {commits : Bool}

/-- While the requests are answered, every file has room for a page, and pages
that a transaction changed stay in the cache if it is to roll back. -/
def Steady (txn : TxnId) (commits : Bool) : Store → List Request → Prop
  | _, [] => True
  | store, request :: requests =>
      (store.Roomy ∧ (commits = false → Retains txn store (store.serve txn request).2)) ∧
        Steady txn commits (store.serve txn request).2 requests

def SteadyEach : Store → List Script → Prop
  | _, [] => True
  | store, script :: scripts =>
      Steady script.txn script.commits store script.requests ∧
        SteadyEach (store.work script).2 scripts

instance Steady.decidable (txn : TxnId) (commits : Bool) :
    ∀ (store : Store) (requests : List Request), Decidable (Steady txn commits store requests)
  | _, [] => .isTrue trivial
  | store, request :: requests =>
      have := decidable txn commits (store.serve txn request).2 requests
      inferInstanceAs (Decidable (_ ∧ _))

instance SteadyEach.decidable :
    ∀ (store : Store) (scripts : List Script), Decidable (SteadyEach store scripts)
  | _, [] => .isTrue trivial
  | store, script :: scripts =>
      have := decidable (store.work script).2 scripts
      inferInstanceAs (Decidable (_ ∧ _))

/-! ## Transactions -/

theorem Serial.serveEach (serial : Serial store txn [] tables)
    (returns : commits = false → Returns store tables) {requests : List Request}
    (steady : Steady txn commits store requests) :
    ∃ after, store.serveEach txn requests =
        ((tables.serveEach store.catalog requests).1, after) ∧
      Serial after txn [] (tables.serveEach store.catalog requests).2 ∧
      after.catalog = store.catalog ∧
      (commits = false → Returns after (tables.serveEach store.catalog requests).2) := by
  induction requests generalizing store tables with
  | nil => exact ⟨store, rfl, serial, rfl, returns⟩
  | cons request requests ih =>
      obtain ⟨⟨roomy, retains⟩, steady⟩ := steady
      obtain ⟨middle, run, served⟩ := serial.serve roomy request
      rw [run] at retains steady
      obtain ⟨after, rest, later, catalog, back⟩ := ih served.serial
        (fun aborts => served.returns (returns aborts) (retains aborts)) steady
      rw [served.catalog] at rest later back
      refine ⟨after, ?_, later, catalog.trans served.catalog, back⟩
      simp only [Store.serveEach, run, rest, Tables.serveEach]

/-- A transaction gets the answers of plain tables, and leaves a store behind that
sees them. -/
theorem Rested.work (rested : Rested store tables) {script : Script}
    (steady : Steady script.txn script.commits store script.requests) :
    ∃ after, store.work script = ((tables.work store.catalog script).1, after) ∧
      Rested after (tables.work store.catalog script).2 ∧ after.catalog = store.catalog := by
  obtain ⟨middle, run, serial, catalog, returns⟩ :=
    (rested.serial script.txn).serveEach (fun _ => rested.returns) steady
  simp only [Store.work, run, Tables.work, Store.finish]
  cases commits : script.commits with
  | true =>
      obtain ⟨result, later⟩ := serial.commit
      refine ⟨_, Prod.ext ?_ rfl, later, ?_⟩
      · simp only [if_true, result]
      · exact (serial.sound.commit script.txn).1.still.catalog.trans catalog
  | false =>
      obtain ⟨result, later⟩ := serial.abort (returns commits)
      refine ⟨_, Prod.ext ?_ rfl, later, ?_⟩
      · simp only [Bool.false_eq_true, if_false, result]
      · exact (serial.sound.abort script.txn).1.still.catalog.trans catalog

theorem Rested.workEach (rested : Rested store tables) {scripts : List Script}
    (steady : SteadyEach store scripts) :
    (store.workEach scripts).1 = (tables.workEach store.catalog scripts).1 := by
  induction scripts generalizing store tables with
  | nil => rfl
  | cons script scripts ih =>
      obtain ⟨first, steady⟩ := steady
      obtain ⟨middle, run, later, catalog⟩ := rested.work first
      rw [run] at steady
      have rest := ih later steady
      rw [catalog] at rest
      simp only [Store.workEach, run, Tables.workEach, rest]

/-- A store that was just opened sees its own tables. -/
theorem Fresh.rested (fresh : store.Fresh) (recent : ∃ queue, store.policy = .leastRecent queue)
    (writable : store.unwritable = ∅) (room : 0 < store.capacity) :
    Rested store store.tables := by
  have uncached (id : PageId) : (store.pageState id).cached = none :=
    copy_of_uncached (fresh.uncached id)
  refine ⟨fun txn => ⟨fresh.sound, fresh.addressable, fresh.pinned, recent, room, writable, ?_, ?_, ?_, ?_⟩, rfl⟩
  · intro id frame found
    rw [fresh.frames] at found
    cases found
  · intro other id _
    rw [fresh.locks]
    rfl
  · intro id
    refine ⟨?_, rfl, fun copy cached => ?_, fun copy owner cached => ?_⟩
    · change store.unflushed.contains id = false
      rw [fresh.unflushed]
      rfl
    · cases (uncached id).symm.trans cached
    · cases (uncached id).symm.trans cached
  · intro id table found
    simp only [Store.tables, found]

/-- Transactions that use a store one after the other, each a list of insertions,
deletions and scans that ends with a commit or a rollback, get the same answers
whatever the capacity of the cache, if no page that a transaction changed leaves
the cache before the transaction rolls back. -/
theorem replies_of_any_capacity (fresh : store.Fresh)
    (recent : ∃ queue, store.policy = .leastRecent queue) (writable : store.unwritable = ∅)
    {small large : Nat} (smallRoom : 0 < small) (largeRoom : 0 < large) {scripts : List Script}
    (smallSteady : SteadyEach { store with capacity := small } scripts)
    (largeSteady : SteadyEach { store with capacity := large } scripts) :
    (workEach { store with capacity := small } scripts).1 =
      (workEach { store with capacity := large } scripts).1 := by
  have opened (capacity : Nat) : ({ store with capacity } : Store).Fresh :=
    ⟨⟨fresh.catalog, fresh.locks, fresh.frames, fresh.unflushed, fresh.policy⟩, fresh.addressable⟩
  have first := ((opened small).rested recent writable smallRoom).workEach smallSteady
  have second := ((opened large).rested recent writable largeRoom).workEach largeSteady
  exact first.trans second.symm

/-- A transaction inserts two rows into a table whose pages hold one each, and
commits; the next one deletes the first of them and rolls back; the last one scans
the table. -/
def deletionRolledBack : List Script :=
  [⟨⟨1⟩, [.insert ⟨1⟩ (.ofNumber 5), .insert ⟨1⟩ (.ofNumber 6)], true⟩,
    ⟨⟨2⟩, [.delete ((Row.ofNumber 5).placeAt (some ⟨Table.numbers.page 0, 0⟩))], false⟩,
    ⟨⟨3⟩, [.scan ⟨1⟩], true⟩]

theorem replies_of_one_and_three :
    SteadyEach (.ofNumbers 1) deletionRolledBack ∧ SteadyEach (.ofNumbers 3) deletionRolledBack ∧
      ((Store.ofNumbers 1).workEach deletionRolledBack).1 =
        ((Store.ofNumbers 3).workEach deletionRolledBack).1 := by
  have small : SteadyEach (.ofNumbers 1) deletionRolledBack := by decide +kernel
  have large : SteadyEach (.ofNumbers 3) deletionRolledBack := by decide +kernel
  exact ⟨small, large, replies_of_any_capacity (fresh_ofNumbers 1) ⟨_, rfl⟩ rfl
    (by decide) (by decide) small large⟩

/-- A transaction inserts two rows into a table whose pages hold one each, and
rolls back; the next one scans the table. -/
def insertionsRolledBack : List Script :=
  [⟨⟨1⟩, [.insert ⟨1⟩ (.ofNumber 5), .insert ⟨1⟩ (.ofNumber 6)], false⟩,
    ⟨⟨2⟩, [.scan ⟨1⟩], true⟩]

/-- With room for one page the first row leaves the cache and stays in its file;
with room for two pages it is taken back. -/
theorem replies_of_one_and_two_differ :
    ((Store.ofNumbers 1).workEach insertionsRolledBack).1 ≠
      ((Store.ofNumbers 2).workEach insertionsRolledBack).1 := by
  intro same
  have one : (((Store.ofNumbers 1).workEach insertionsRolledBack).1.flatMap Reply.rows) =
      [(some ⟨Table.numbers.page 0, 0⟩, [.int 5])] := by
    decide +kernel
  have two : (((Store.ofNumbers 2).workEach insertionsRolledBack).1.flatMap Reply.rows) = [] := by
    decide +kernel
  rw [same, two] at one
  cases one

end Store

end TableStore
