import TableStore.Proofs.StoreOutlines

/-!
# Writing back

A page that a transaction changed is written if its file takes it.  Then the
file holds its contents, and no other page changes.
-/

set_option autoImplicit false

namespace TableStore

def Frame.hold (frame : Frame) : Nat × Nat := (frame.pins, frame.serial)

namespace Store

def takes (store : Store) (id : PageId) : Bool := !store.unwritable.contains id

theorem takes_of_writable {store : Store} (writable : store.unwritable = ∅) (id : PageId) :
    store.takes id = true := by
  simp [takes, writable, SortedMap.contains]

theorem takes_of_refused {store : Store} {id : PageId} {fault : String}
    (refused : store.unwritable.get? id = some fault) : store.takes id = false := by
  simp [takes, SortedMap.contains, refused]

/-- The second store has the tables of the first, and as many pages in every
file.  The files take the same pages. -/
structure Continues (store after : Store) : Prop where
  catalog : after.catalog = store.catalog
  unwritable : after.unwritable = store.unwritable
  capacity : after.capacity = store.capacity
  counts : ∀ id table, store.catalog.tables.get? id = some table →
    table.wholePages after.disk = table.wholePages store.disk

structure Still (store after : Store) : Prop extends Continues store after where
  locks : after.locks = store.locks
  policy : after.policy = store.policy
  nextSerial : after.nextSerial = store.nextSerial
  hold : ∀ id, (after.frames.get? id).map Frame.hold = (store.frames.get? id).map Frame.hold

variable {store middle after : Store} {id : PageId} {page : Page} {table : Table} {txn : TxnId}

theorem Continues.refl (store : Store) : Continues store store :=
  ⟨rfl, rfl, rfl, fun _ _ _ => rfl⟩

theorem Continues.trans (first : Continues store middle) (second : Continues middle after) :
    Continues store after where
  catalog := second.catalog.trans first.catalog
  unwritable := second.unwritable.trans first.unwritable
  capacity := second.capacity.trans first.capacity
  counts id table found :=
    (second.counts id table (first.catalog ▸ found)).trans (first.counts id table found)

theorem Still.refl (store : Store) : Still store store :=
  ⟨.refl store, rfl, rfl, rfl, fun _ => rfl⟩

theorem Still.trans (first : Still store middle) (second : Still middle after) :
    Still store after where
  toContinues := first.toContinues.trans second.toContinues
  locks := second.locks.trans first.locks
  policy := second.policy.trans first.policy
  nextSerial := second.nextSerial.trans first.nextSerial
  hold id := (second.hold id).trans (first.hold id)

theorem Continues.takes (still : Continues store after) (id : PageId) : after.takes id = store.takes id := by
  rw [Store.takes, Store.takes, still.unwritable]

structure Becomes (store after : Store) (states : PageId → PageState) : Prop where
  still : Still store after
  sound : after.Sound
  page : ∀ id, after.pageState id = states id

theorem Sound.becomes (sound : store.Sound) : Becomes store store store.pageState :=
  ⟨.refl store, sound, fun _ => rfl⟩

theorem Becomes.trans {first second : PageId → PageState} (before : Becomes store middle first)
    (later : Becomes middle after second) : Becomes store after second :=
  ⟨before.still.trans later.still, later.sound, later.page⟩

theorem Becomes.congr {first second : PageId → PageState} (run : Becomes store after first)
    (same : ∀ id, first id = second id) : Becomes store after second :=
  ⟨run.still, run.sound, fun id => (run.page id).trans (same id)⟩

theorem Continues.lost (continues : Continues store after) : after.Lost = store.Lost := by
  funext id
  apply propext
  constructor
  · rintro ⟨table, registered, whole⟩
    rw [continues.catalog] at registered
    exact ⟨table, registered, (continues.counts id table registered).symm.trans whole⟩
  · rintro ⟨table, registered, whole⟩
    exact ⟨table, continues.catalog ▸ registered,
      (continues.counts id table registered).trans whole⟩

theorem Continues.addressable (continues : Continues store after)
    (addressable : store.Addressable) : after.Addressable := by
  intro id table registered
  rw [continues.catalog] at registered
  rw [continues.counts id table registered]
  exact addressable id table registered

theorem Becomes.outline {states : PageId → PageState} (run : Becomes store after states) :
    after.outline = { store.outline with page := states } :=
  Outline.ext (funext run.page) (congrArg LockTable.mode? run.still.locks)
    run.still.toContinues.lost

theorem Becomes.cons (change : PageId → PageState → PageState) {ids : List PageId}
    (fresh : id ∉ ids)
    (first : Becomes store middle fun other =>
      if other = id then change other (store.pageState other) else store.pageState other)
    (rest : Becomes middle after fun other =>
      if other ∈ ids then change other (middle.pageState other) else middle.pageState other) :
    Becomes store after fun other =>
      if other ∈ id :: ids then change other (store.pageState other)
      else store.pageState other := by
  apply (first.trans rest).congr
  intro other
  rw [first.page other]
  by_cases here : other = id
  · subst here
    simp [fresh]
  · simp [here]

/-! ## Single pages -/

theorem cached?_setPage (cached : store.cached? page.id ≠ none) (other : PageId) :
    (store.setPage page).cached? other =
      if other = page.id then some page else store.cached? other := by
  simp only [cached?, setPage, SortedMap.get?_modify] at cached ⊢
  split
  · cases found : store.frames.get? page.id with
    | none => simp [found] at cached
    | some frame => rfl
  · rfl

theorem Sound.setPage (sound : store.Sound) {old : Page} (cached : store.cached? id = some old)
    (registered : store.catalog.tables.get? id.table = some table) (fits : page.Fits table id) :
    Becomes store (store.setPage page) fun other =>
      if other = id then { store.pageState other with cached := some page.copy }
      else store.pageState other := by
  have present : store.cached? page.id ≠ none := by
    rw [fits.id, cached]
    exact Option.some_ne_none old
  have after := cached?_setPage present
  rw [fits.id] at after
  refine ⟨⟨⟨rfl, rfl, rfl, fun _ _ _ => rfl⟩, rfl, rfl, rfl, fun other => ?_⟩,
    ⟨sound.catalog, sound.locks, fun other found => ?_⟩, fun other => ?_⟩
  · simp only [Store.setPage, SortedMap.get?_modify]
    split
    · next here =>
        subst here
        cases store.frames.get? page.id <;> rfl
    · rfl
  · rw [after other]
    split
    · next here =>
        rintro ⟨⟩
        rw [here]
        exact ⟨⟨table, registered, fits⟩, (sound.page id old cached).2⟩
    · exact sound.page other found
  · rw [pageState, after other]
    split <;> rfl

section

variable (sound : store.Sound) {name : TableId}
  (registered : store.catalog.tables.get? name = some table) {content : FileBytes}
  (disk : after.disk = store.disk.insert table.file content)

include sound registered disk

/-- A page has the same contents if the only file that changed gives it the same for its
table. -/
theorem Sound.stored_of_file (catalog : after.catalog = store.catalog)
    (same : table.readPage after.disk id = table.readPage store.disk id) :
    after.stored id = store.stored id := by
  apply stored_congr
  cases found : store.catalog.tables.get? id.table with
  | none => rw [readPage_of_unregistered found, readPage_of_unregistered (catalog ▸ found)]
  | some own =>
      rw [readPage_of_table found, readPage_of_table (catalog ▸ found)]
      by_cases file : own.file = table.file
      · have shared := sound.catalog.files _ _ _ _ found registered file
        rw [shared] at found
        cases found.symm.trans registered
        exact same
      · rw [disk, Table.readPage_insert_other file]

theorem Sound.wholePages_of_file {other : TableId} {own : Table}
    (found : store.catalog.tables.get? other = some own) (different : other ≠ name) :
    own.wholePages after.disk = own.wholePages store.disk := by
  have file : own.file ≠ table.file := fun same =>
    different (sound.catalog.files _ _ _ _ found registered same)
  rw [Table.wholePages, Table.wholePages, disk, Table.pages_insert_other file]

end

/-- A cached page gets into its file, and nothing else changes. -/
theorem Sound.file_becomes (sound : store.Sound) (cached : store.cached? id = some page)
    (registered : store.catalog.tables.get? id.table = some table) {content : FileBytes}
    (frames : after.frames = store.frames)
    (written : after = { store with
      disk := store.disk.insert table.file content, unflushed := store.unflushed.erase id })
    (wholePages : table.wholePages after.disk = table.wholePages store.disk)
    (here : after.stored id = (store.pageState id).filed page.contents)
    (others : ∀ other, other ≠ id →
      table.readPage after.disk other = table.readPage store.disk other) :
    Becomes store after fun other =>
      if other = id then ⟨some page.copy, (store.pageState id).filed page.contents, false⟩
      else store.pageState other := by
  have disk : after.disk = store.disk.insert table.file content := by rw [written]
  have catalog : after.catalog = store.catalog := by rw [written]
  have still (other : PageId) : after.cached? other = store.cached? other := by
    rw [cached?, frames]
    rfl
  have same (other : PageId) (different : other ≠ id) :
      after.stored other = store.stored other :=
    sound.stored_of_file registered disk catalog (others other different)
  have counts (other : TableId) (own : Table)
      (found : store.catalog.tables.get? other = some own) :
      own.wholePages after.disk = own.wholePages store.disk := by
    by_cases known : other = id.table
    · rw [known] at found
      cases found.symm.trans registered
      exact wholePages
    · exact sound.wholePages_of_file registered disk found known
  have continues : Continues store after :=
    ⟨catalog, by rw [written], by rw [written], counts⟩
  refine ⟨⟨continues, by rw [written], by rw [written], by rw [written], fun _ => by rw [frames]⟩,
    ⟨catalog ▸ sound.catalog, by rw [written]; exact sound.locks, fun other found known => ?_⟩,
    fun other => ?_⟩
  · rw [still] at known
    obtain ⟨fits, stored⟩ := sound.page other found known
    rw [catalog, continues.lost]
    refine ⟨fits, ?_⟩
    by_cases changed : other = id
    · subst changed
      apply stored.imp_left
      rintro ⟨contents, stored⟩
      refine ⟨page.contents, ?_⟩
      rw [here, PageState.filed, show (store.pageState other).stored = .ok contents from stored]
      rfl
    · rw [same other changed]
      exact stored
  · have unflushed : after.unflushed.contains other =
        if other = id then false else store.unflushed.contains other := by
      rw [written, SortedMap.contains_erase]
      split
      · next changed => simp [changed]
      · next changed => simp [changed]
    rw [pageState, unflushed, still]
    split
    · next changed =>
        rw [changed, here, cached]
        rfl
    · next changed =>
        rw [same other changed]
        rfl

theorem Sound.writeBack (sound : store.Sound) (cached : store.cached? id = some page)
    (dirty : page.dirtiedBy = some txn) :
    (∃ fault, store.unwritable.get? id = some fault ∧
        store.writeBack page = .error (.io (.other fault))) ∨
      store.takes id = true ∧ ∃ after, store.writeBack page = .ok (page.mark false txn, after) ∧
        Becomes store after (fun other =>
          if other = id then ⟨some page.copy, (store.pageState id).filed page.contents, false⟩
          else store.pageState other) ∧
        after.frames = store.frames := by
  obtain ⟨⟨table, registered, fits⟩, filed⟩ := sound.page id page cached
  obtain ⟨sized, inside⟩ := sound.inside cached registered
  have identity := sound.catalog.identity _ _ registered
  have own : page.id.table = table.id := by
    rw [fits.id, identity]
  obtain ⟨content, write, wholePages, readBack, others⟩ :=
    Table.writePage_of_sound fits.sound own fits.schema fits.size sized
      (by rw [fits.id]; exact inside)
  cases refused : store.unwritable.get? id with
  | some fault =>
      refine .inl ⟨fault, rfl, ?_⟩
      simp only [Store.writeBack, dirty, fits.id, Catalog.table, registered, write, bind,
        Except.bind, refused]
  | none =>
      let written : Store := { store with
        disk := store.disk.insert table.file content
        unflushed := store.unflushed.erase id }
      have run : store.writeBack page = .ok (page.mark false txn, written) := by
        simp only [Store.writeBack, dirty, fits.id, Catalog.table, registered, write, bind,
          Except.bind, refused]
        rfl
      have read : written.readPage id = table.readPage written.disk id :=
        readPage_of_table registered
      have here : written.stored id = (store.pageState id).filed page.contents := by
        rcases filed with ⟨contents, stored⟩ | lost
        · obtain ⟨before, found, -⟩ := readPage_of_stored stored
          have counted : page.id.number.toNat < table.countedPages store.disk := by
            by_contra beyond
            rw [readPage_of_table registered, Table.readPage_of_counted identity.symm sized,
              if_neg (fits.id ▸ beyond)] at found
            cases found
          obtain ⟨copy, again, copied⟩ := readBack counted
          rw [fits.id] at again
          rw [PageState.filed, show (store.pageState id).stored = .ok contents from stored,
            Store.stored, read, show table.readPage written.disk id = .ok copy from again]
          exact congrArg Except.ok copied
        · have whole := wholePages.trans (sized_of_lost lost registered).2
          rw [PageState.filed, show (store.pageState id).stored = .error (.pageNotFound id) from
            sound.stored_of_lost lost, Store.stored, read,
            Table.readPage_of_uncounted identity.symm sized whole]
          rfl
      exact .inr ⟨by simp [takes, SortedMap.contains, refused], written, run,
        sound.file_becomes cached registered rfl rfl wholePages here
          (fun other => fits.id ▸ others other), rfl⟩

/-- A flush of one page writes it, if it is cached and was changed and the files
take it, and does nothing otherwise. -/
theorem Sound.flushPage (sound : store.Sound) (id : PageId) :
    Becomes store (store.flushPage id).2 store.pageState ∨
      ∃ copy txn, (store.pageState id).cached = some copy ∧ copy.dirtiedBy = some txn ∧
        Becomes store (store.flushPage id).2 fun other =>
          if other = id then (store.pageState id).written copy else store.pageState other := by
  rw [Store.flushPage]
  cases cached : store.cached? id with
  | none => exact .inl sound.becomes
  | some page =>
      obtain ⟨⟨table, registered, fits⟩, -⟩ := sound.page id page cached
      cases dirty : page.dirtiedBy with
      | none =>
          have run : store.writeBack page = .ok (page, store) := by
            rw [Store.writeBack, dirty]
          simp only [run]
          refine .inl ((sound.setPage cached registered fits).congr fun other => ?_)
          split
          · next here =>
              rw [here, pageState, cached]
              rfl
          · rfl
      | some txn =>
          rcases sound.writeBack cached dirty with
            ⟨fault, -, run⟩ | ⟨-, written, run, becomes, frames⟩
          · simp only [run]
            exact .inl sound.becomes
          · simp only [run]
            refine .inr ⟨page.copy, txn, copy_of_cached cached, dirty, ?_⟩
            have still : written.cached? id = some page := by
              rw [cached?, frames]
              exact cached
            have replaced := becomes.sound.setPage still (becomes.still.catalog ▸ registered)
              (fits.mark false txn)
            apply (becomes.trans replaced).congr
            intro other
            rw [becomes.page other]
            split <;> rfl

theorem Sound.flushCommitted (sound : store.Sound) (cached : store.cached? id = some page)
    (dirty : page.dirtiedBy = some txn) :
    (Becomes store (store.flushCommitted id).2 fun other =>
        if other = id then (store.pageState other).committed txn (store.takes other)
        else store.pageState other) ∧
      ((store.flushCommitted id).1 = .ok () ↔ store.takes id = true) := by
  obtain ⟨⟨table, registered, fits⟩, -⟩ := sound.page id page cached
  have state : (store.pageState id).cached = some page.copy := copy_of_cached cached
  have dirtyCopy : page.copy.dirtiedBy = some txn := dirty
  rw [Store.flushCommitted, cached]
  rcases sound.writeBack cached dirty with
    ⟨fault, known, run⟩ | ⟨taken, written, run, becomes, frames⟩
  · have refused := takes_of_refused known
    simp only [run, refused, reduceCtorEq, Bool.false_eq_true, and_true]
    refine ⟨⟨⟨rfl, rfl, rfl, fun _ _ _ => rfl⟩, rfl, rfl, rfl, fun _ => rfl⟩,
      ⟨sound.catalog, sound.locks, sound.page⟩, fun other => ?_⟩
    have noted : (store.unflushed.add id).contains other =
        (decide (other = id) || store.unflushed.contains other) :=
      SortedMap.contains_add store.unflushed id other
    by_cases here : other = id
    · subst here
      rw [if_pos rfl, PageState.committed, state]
      simp only [dirtyCopy, refused, if_true, Bool.false_eq_true, if_false]
      rw [pageState, noted, decide_eq_true rfl, Bool.true_or, ← state]
      rfl
    · rw [if_neg here, pageState, noted, decide_eq_false here, Bool.false_or]
      rfl
  · obtain ⟨capturedFits, capturedCopy, captured⟩ := (fits.mark false txn).captured
    simp only [run, captured, taken]
    refine ⟨?_, by simp⟩
    have still : written.cached? id = some page := by
      rw [cached?, frames]
      exact cached
    have replaced := becomes.sound.setPage still (becomes.still.catalog ▸ registered) capturedFits
    apply (becomes.trans replaced).congr
    intro other
    rw [becomes.page other]
    by_cases here : other = id
    · subst here
      rw [if_pos rfl, if_pos rfl, if_pos rfl, PageState.committed, state, capturedCopy]
      simp only [dirtyCopy, taken, if_true]
      rfl
    · rw [if_neg here, if_neg here, if_neg here]

end Store

end TableStore
