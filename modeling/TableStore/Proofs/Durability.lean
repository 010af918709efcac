import TableStore.Proofs.PackedTables

/-!
# Durability of commits

A transaction that commits without an error has the pages that it changed in
their files, as it saw them last, whatever left the cache, was loaded again or
was flushed meanwhile.  As long as it runs, each of these pages is either cached
with its changes, or in its file as the transaction saw it.
-/

set_option autoImplicit false

namespace TableStore

/-! ## What transactions saw last -/

/-- The contents of the pages that running transactions changed, as each of them
saw its pages after its last change. -/
abbrev Views := TxnId → PageId → Option Contents

namespace Views

def record (views : Views) : Event → Views
  | .read .. => views
  | .changed txn change view => fun other id =>
      if other = txn ∧ id = change.page then some view else views other id
  | .committed txn => fun other id => if other = txn then none else views other id
  | .aborted txn => fun other id => if other = txn then none else views other id

def of (history : List Event) : Views := history.foldl record fun _ _ => none

end Views

namespace PageState

/-- The page is in its file as the transaction saw it, or cached so with a mark
of the transaction. -/
def Keeps (state : PageState) (txn : TxnId) (view : Contents) : Prop :=
  match state.cached with
  | none => state.stored = .ok view
  | some copy =>
      copy.contents = view ∧
        (copy.dirtiedBy = some txn ∨ copy.dirtiedBy = none ∧ state.stored = .ok view)

variable {state : PageState} {txn other : TxnId} {view : Contents} {copy : Copy}

theorem Keeps.look (keeps : state.Keeps txn view) : state.look = .ok view := by
  rw [Keeps] at keeps
  rw [PageState.look]
  split at keeps
  · next absent => rw [absent]; exact keeps
  · next copy cached =>
      rw [cached]
      exact congrArg Except.ok keeps.1

theorem Keeps.load (keeps : state.Keeps txn view) (absent : state.cached = none)
    {contents : Contents} (stored : state.stored = .ok contents) :
    ({ state with cached := some ⟨contents, contents, none⟩ } : PageState).Keeps txn view := by
  rw [Keeps, absent] at keeps
  cases keeps.symm.trans stored
  exact ⟨rfl, .inr ⟨rfl, stored⟩⟩

theorem Keeps.written (keeps : state.Keeps txn view) (cached : state.cached = some copy)
    {contents : Contents} (stored : state.stored = .ok contents) :
    (state.written copy).Keeps txn view := by
  rw [Keeps, cached] at keeps
  refine ⟨keeps.1, .inr ⟨rfl, ?_⟩⟩
  rw [← keeps.1]
  exact filed_of_stored stored _

theorem Keeps.leave (keeps : state.Keeps txn view) (cached : state.cached = some copy)
    (clean : copy.dirtiedBy = none) :
    ({ state with cached := none } : PageState).Keeps txn view := by
  rw [Keeps, cached] at keeps
  rcases keeps.2 with dirty | ⟨-, stored⟩
  · cases clean.symm.trans dirty
  · exact stored

theorem Keeps.committed_other (keeps : state.Keeps txn view) (different : txn ≠ other)
    (taken : Bool) : (state.committed other taken).Keeps txn view := by
  rw [PageState.committed]
  cases cached : state.cached with
  | none => exact keeps
  | some copy =>
      rw [Keeps, cached] at keeps
      have foreign : copy.dirtiedBy ≠ some other := by
        rintro dirty
        rcases keeps.2 with own | ⟨clean, -⟩
        · exact different (Option.some.inj (own.symm.trans dirty))
        · cases clean.symm.trans dirty
      simp only [if_neg foreign]
      rw [Keeps, cached]
      exact keeps

theorem Keeps.committed (keeps : state.Keeps txn view) {taken : Bool}
    (filed : ∀ copy, state.cached = some copy → ∃ contents, state.stored = .ok contents)
    (written : ∀ copy, state.cached = some copy → copy.dirtiedBy = some txn → taken = true) :
    (state.committed txn taken).stored = .ok view := by
  rw [PageState.committed]
  rw [Keeps] at keeps
  cases cached : state.cached with
  | none =>
      rw [cached] at keeps
      exact keeps
  | some copy =>
      rw [cached] at keeps
      rcases keeps.2 with dirty | ⟨clean, still⟩
      · simp only [dirty, if_true, written copy cached dirty]
        obtain ⟨contents, stored⟩ := filed copy cached
        rw [← keeps.1]
        exact filed_of_stored stored _
      · simp only [clean, reduceCtorEq, if_false]
        exact still

theorem unmarked_of_committed {taken : Bool}
    (written : ∀ copy, state.cached = some copy → copy.dirtiedBy = some txn → taken = true)
    (cached : (state.committed txn taken).cached = some copy) : copy.dirtiedBy ≠ some txn := by
  rw [PageState.committed] at cached
  split at cached
  · next absent =>
      rw [absent] at cached
      cases cached
  · next before found =>
      split at cached
      · next dirty =>
          rw [written before found dirty, if_pos rfl] at cached
          cases cached
          simp
      · next clean =>
          cases found.symm.trans cached
          exact clean

end PageState

namespace Outline

variable {blank : PageId → Contents} {outline after : Outline} {views : Views} {txn : TxnId}

/-- Every page that a running transaction changed is held by it exclusively and
kept as it saw it last, unless it is lost. -/
def Keeps (outline : Outline) (views : Views) : Prop :=
  ∀ txn id view, views txn id = some view →
    outline.mode txn id = some .exclusive ∧
      (¬ outline.lost id.table → (outline.page id).Keeps txn view)

theorem Keeps.set (keeps : outline.Keeps views) {id : PageId} {state : PageState}
    (here : ¬ outline.lost id.table → ∀ txn view, views txn id = some view →
      (outline.page id).Keeps txn view → state.Keeps txn view) :
    (outline.set id state).Keeps views := by
  intro txn other view known
  obtain ⟨exclusive, kept⟩ := keeps txn other view known
  refine ⟨exclusive, fun found => ?_⟩
  by_cases same : other = id
  · subst same
    rw [set_same]
    exact here found txn view known (kept found)
  · rw [outline.set_other same]
    exact kept found

theorem Keeps.shift (keeps : outline.Keeps views) (filed : outline.Filed)
    {writes : TxnId → Prop} (shift : Shift outline blank writes after) : after.Keeps views := by
  cases shift with
  | relock mode alone exclusives =>
      intro txn id view known
      obtain ⟨exclusive, kept⟩ := keeps txn id view known
      exact ⟨exclusives txn id exclusive, kept⟩
  | load id contents absent stored => exact keeps.set fun _ _ _ _ kept => kept.load absent stored
  | write id copy txn cached dirty may =>
      refine keeps.set fun found _ _ _ kept => ?_
      obtain ⟨contents, stored⟩ := (filed id copy cached).resolve_right found
      exact kept.written cached stored
  | leave id copy cached clean => exact keeps.set fun _ _ _ _ kept => kept.leave cached clean
  | append id error stored _ absent missing fresh =>
      refine keeps.set fun _ _ _ _ kept => ?_
      rw [PageState.Keeps, absent] at kept
      cases missing.symm.trans kept
  | lose table =>
      intro txn id view known
      obtain ⟨exclusive, kept⟩ := keeps txn id view known
      refine ⟨exclusive, fun found => ?_⟩
      obtain ⟨other, before⟩ := not_or.mp found
      simp only [lose, if_neg other]
      exact kept before

theorem Keeps.change (keeps : outline.Keeps views) {copy : Copy} {change : Change}
    (exclusive : outline.mode txn change.page = some .exclusive) :
    (outline.change txn copy change).Keeps
      (views.record (.changed txn change (change.apply copy.contents))) := by
  intro other id view known
  simp only [Views.record] at known
  split at known
  · next here =>
      cases known
      obtain ⟨rfl, rfl⟩ := here
      refine ⟨exclusive, ?_⟩
      rw [Outline.change, set_same]
      exact fun _ => ⟨rfl, .inl rfl⟩
  · next elsewhere =>
      obtain ⟨theirs, kept⟩ := keeps other id view known
      refine ⟨theirs, ?_⟩
      have different : id ≠ change.page := by
        rintro rfl
        have alone := outline.alone txn other _ exclusive (by rw [theirs]; rfl)
        exact elsewhere ⟨alone, rfl⟩
      rw [Outline.change, outline.set_other different]
      exact kept

theorem Keeps.release (keeps : outline.Keeps views) {exclusive others : PageId → PageState}
    (stays : ∀ other id view, other ≠ txn → (outline.page id).Keeps other view →
      (others id).Keeps other view) :
    (outline.release txn exclusive others).Keeps
      fun other id => if other = txn then none else views other id := by
  intro other id view known
  simp only at known
  split at known
  · cases known
  · next different =>
      obtain ⟨theirs, kept⟩ := keeps other id view known
      have free : outline.mode txn id ≠ some .exclusive := by
        intro mine
        exact different (outline.alone txn other id mine (by rw [theirs]; rfl))
      refine ⟨?_, ?_⟩
      · change outline.released txn other id = some .exclusive
        rw [released, if_neg different]
        exact theirs
      · intro found
        change (if _ then _ else _ : PageState).Keeps other view
        rw [if_neg free]
        exact stays other id view different (kept found)

theorem Keeps.path {writes : List Event → TxnId → Prop} {before after : Outline × List Event}
    (keeps : before.1.Keeps (Views.of before.2)) (filed : before.1.Filed)
    (path : Path blank writes before after) : after.1.Keeps (Views.of after.2) := by
  apply path.keeps_filed (motive := fun outline history => outline.Keeps (Views.of history))
    filed keeps
  intro current history events next step filed kept
  rw [Views.of, List.foldl_append, ← Views.of]
  cases step with
  | shift shift => exact kept.shift filed shift
  | read txn id copy holds cached => exact kept
  | change txn copy change exclusive cached => exact kept.change exclusive
  | commit txn taken =>
      exact kept.release fun other id view different kept =>
        kept.committed_other different (taken id)
  | abort txn => exact kept.release fun other id view _ kept => kept

end Outline

namespace System

variable {system : System}

/-- A commit that succeeds has every page that the transaction changed in its
file, exactly as the transaction saw it after its last change, and as it would
have read it before the commit, unless the file has as many pages as there are
numbers; no cached page is marked as changed by the transaction, and it holds no
lock. -/
theorem commit_writes_every_changed_page (unused : system.Unused) {actions : List Action}
    (txn : TxnId) (committed : ((system.run actions).store.commit txn).1 = .ok ()) :
    let before := (system.run actions).store
    let after := (before.commit txn).2
    (∀ id view, Views.of (system.run actions).history txn id = some view →
      (∀ table, before.catalog.tables.get? id.table = some table →
        table.wholePages before.disk ≠ 2 ^ 32) →
      (before.pageState id).look = .ok view ∧
        ∃ page, after.readPage id = .ok page ∧ page.contents = view) ∧
      (∀ id page, after.cached? id = some page → page.dirtiedBy ≠ some txn) ∧
      ∀ id, after.locks.mode? txn id = none := by
  have follows : Follows (fun _ _ => True) system (system.run actions) :=
    unused.sound.follows actions
  have nothing : system.record.1.Keeps (Views.of system.record.2) := by
    rw [record, unused.history]
    intro txn id view known
    cases known
  have keeps := nothing.path unused.sound.store.outline_filed follows.path
  have filed := follows.sound.store.outline_filed
  intro before after
  obtain ⟨ends, outline, result⟩ := follows.sound.store.commit txn
  have taken := result.mp committed
  have state (id : PageId) : after.pageState id =
      if before.outline.mode txn id = some .exclusive then
        ((before.pageState id).committed txn (before.takes id)).captured
      else (before.pageState id).committed txn (before.takes id) :=
    congrFun (congrArg Outline.page outline) id
  refine ⟨fun id view known counted => ?_, fun id page cached => ?_, fun id => ?_⟩
  · obtain ⟨exclusive, kept⟩ := keeps txn id view known
    have found : ¬ before.Lost id.table := fun ⟨table, registered, whole⟩ =>
      counted table registered whole
    have kept := kept found
    have stored : after.stored id = .ok view := by
      change (after.pageState id).stored = .ok view
      rw [state id, if_pos (show before.outline.mode txn id = _ from exclusive)]
      exact kept.committed
        (fun copy cached => (filed id copy cached).resolve_right found)
        fun copy cached dirty => taken id copy cached dirty
    exact ⟨kept.look, Store.readPage_of_stored stored⟩
  · have copied : (after.pageState id).cached = some page.copy := Store.copy_of_cached cached
    rw [state id] at copied
    have unmarked (copy : Copy)
        (found : ((before.pageState id).committed txn (before.takes id)).cached = some copy) :
        copy.dirtiedBy ≠ some txn :=
      PageState.unmarked_of_committed (taken id) found
    change page.copy.dirtiedBy ≠ some txn
    split at copied
    · obtain ⟨copy, found, captured⟩ := Option.map_eq_some_iff.mp copied
      rw [← captured]
      exact unmarked copy found
    · exact unmarked page.copy copied
  · rw [ends.mode follows.sound.store, Outline.released, if_pos rfl]

/-- If a second row gets the last number of a page, the page of the first one can no longer
be read, and yet the transaction commits without an error. -/
theorem commit_beside_last_page_number :
    let system : System := { store := .fives 1 (2 ^ 32 - 2) }
    let id := Table.numbers.page (UInt32.ofNat (2 ^ 32 - 2))
    system.Fresh ∧ ∃ first second view,
      let after := system.run
        (insertAtOnce ⟨1⟩ ⟨1⟩ (.ofNumber 5) first ++ insertAtOnce ⟨1⟩ ⟨1⟩ (.ofNumber 5) second)
      Views.of after.history ⟨1⟩ id = some view ∧
        (after.store.commit ⟨1⟩).1 = .ok () ∧
        (after.store.commit ⟨1⟩).2.readPage id = .error (.pageNotFound id) := by
  generalize last : 2 ^ 32 - 2 = count
  intro system id
  have fresh : system.Fresh := System.fresh_fives (by omega)
  have found : system.store.catalog.table ⟨1⟩ = .ok .numbers := rfl
  obtain ⟨inserted, middle, later, run, placed, catalog, serial, packed⟩ :=
    Store.insert_fives (show 0 < 1 by decide) (show count + 1 < 2 ^ 32 by omega) ⟨1⟩
  obtain ⟨error, after, spill, spilled⟩ := serial.spills (catalog ▸ Store.registered_fives) packed
    (by omega) Store.alike_five (by omega)
  obtain ⟨first, -, one⟩ := run_insert fresh.sound rfl found run
  have halfway := fresh.sound.follows (insertAtOnce ⟨1⟩ ⟨1⟩ (.ofNumber 5) first)
  rw [one] at halfway
  obtain ⟨second, -, two⟩ := run_insert halfway.sound rfl (catalog ▸ found) spill
  have page : inserted.page = id := by
    have ends := (fresh.backed.insertion fresh.sound.store fresh.store.addressable
      Store.registered_fives run).page
    rw [placed] at ends
    exact (Option.some.inj ends).symm
  obtain ⟨committed, kept, -⟩ := spilled.commit ⟨1⟩
  refine ⟨fresh, first, second, middle.view id, ?_⟩
  rw [run_append, one, two]
  refine ⟨?_, committed, kept.unread rfl⟩
  simp only [Insertion.events, Operation.insertEvents, placed, page]
  exact if_pos ⟨rfl, rfl⟩

/-- A transaction inserts two rows into a table whose pages hold one each. -/
def twoInsertions : List Action :=
  [.call ⟨1⟩ (.insert ⟨1⟩ (.ofNumber 5)), .advance ⟨1⟩,
    .call ⟨1⟩ (.insert ⟨1⟩ (.ofNumber 6)), .advance ⟨1⟩, .advance ⟨1⟩]

/-- With room for one page in the cache the first page leaves it before the
commit. -/
theorem commit_writes_evicted_page :
    let before := ((System.ofNumbers 1).run twoInsertions).store
    before.cached? (Table.numbers.page 0) = none ∧
      (before.commit ⟨1⟩).1 = .ok () ∧
      ∃ page, (before.commit ⟨1⟩).2.readPage (Table.numbers.page 0) = .ok page ∧
        page.contents = [some [.int 5]] := by
  have committed : (((System.ofNumbers 1).run twoInsertions).store.commit ⟨1⟩).1 = .ok () := by
    have done : (((System.ofNumbers 1).run twoInsertions).store.commit ⟨1⟩).1.isOk = true := by
      decide +kernel
    cases result : (((System.ofNumbers 1).run twoInsertions).store.commit ⟨1⟩).1 with
    | error error =>
        rw [result] at done
        cases done
    | ok => rfl
  have viewed : Views.of ((System.ofNumbers 1).run twoInsertions).history ⟨1⟩
      (Table.numbers.page 0) = some [some [.int 5]] := by
    decide +kernel
  have counted : ∀ table, ((System.ofNumbers 1).run twoInsertions).store.catalog.tables.get?
      (Table.numbers.page 0).table = some table →
      table.wholePages ((System.ofNumbers 1).run twoInsertions).store.disk ≠ 2 ^ 32 := by
    have addressable : ((System.ofNumbers 1).run twoInsertions).store.Addressable := by
      decide +kernel
    exact fun table registered => Nat.ne_of_lt (addressable _ table registered)
  have written := commit_writes_every_changed_page (fresh_ofNumbers 1).unused ⟨1⟩ committed
  exact ⟨by decide +kernel, committed, (written.1 _ _ viewed counted).2⟩

end System

end TableStore
