import TableStore.Proofs.LockFrames
import TableStore.Proofs.Pins

/-!
# Edits of cached pages

Flushes, commits, rollbacks and changes of rows edit cached pages where they are:
a page is written, noted as unflushed, or replaced by one that fits where it did.
Locks may change meanwhile, and files may grow.  None of this rests on the files, the
tables or the locks being in order: a write may fail at any time, a table may be gone,
and two tables may share a file.  All that is asked of the store is that each cached
page is in the form in which it was read.
-/

set_option autoImplicit false

namespace TableStore

/-! ## Files -/

def Disk.GrowsTo (disk after : Disk) : Prop :=
  ∀ file, ((disk.get? file).getD ∅).length ≤ ((after.get? file).getD ∅).length

namespace Disk.GrowsTo

variable {disk middle after : Disk}

theorem refl (disk : Disk) : disk.GrowsTo disk := fun _ => Nat.le_refl _

theorem trans (first : disk.GrowsTo middle) (second : middle.GrowsTo after) :
    disk.GrowsTo after :=
  fun file => Nat.le_trans (first file) (second file)

theorem of_write {table : Table} {number : UInt32} {data : Bytes} {file : PageFile}
    (run : (table.pages disk).write number data = .ok file) :
    disk.GrowsTo (disk.insert table.file file.content) := by
  obtain ⟨-, -, rfl⟩ := PageFile.write_eq_ok_iff.mp run
  intro other
  rw [SortedMap.get?_insert]
  split
  · next same =>
      rw [same, Option.getD_some, FileBytes.length_overwrite]
      exact Nat.le_max_left _ _
  · exact Nat.le_refl _

end Disk.GrowsTo

namespace Table

variable {table : Table} {disk after : Disk} {id : PageId} {page : Page}

theorem writePage_eq_ok_iff : table.writePage disk page = .ok after ↔
    page.id.table = table.id ∧ ∃ data file, page.encode = .ok data ∧
      (table.pages disk).write page.id.number data = .ok file ∧
      after = disk.insert table.file file.content := by
  by_cases own : page.id.table = table.id
  · cases encoded : page.encode with
    | error error => simp [writePage, checkPage, own, encoded, bind, Except.bind]
    | ok data =>
        cases written : (table.pages disk).write page.id.number data with
        | error fault => simp [writePage, checkPage, own, encoded, written, bind, Except.bind]
        | ok file =>
            simp [writePage, checkPage, own, encoded, written, bind, Except.bind, eq_comm]
  · simp [writePage, checkPage, own, bind, Except.bind]

theorem grows_of_writePage (run : table.writePage disk page = .ok after) :
    disk.GrowsTo after := by
  obtain ⟨-, data, file, -, written, rfl⟩ := writePage_eq_ok_iff.mp run
  exact .of_write written

theorem grows_of_allocatePage (run : table.allocatePage disk = .ok (id, after)) :
    disk.GrowsTo after := by
  unfold allocatePage PageFile.allocate at run
  cases counted : (table.pages disk).count with
  | error fault =>
      simp only [counted, bind, Except.bind] at run
      cases run
  | ok number =>
      by_cases unbuffered : PageFile.bufferLimit ≤ (table.pages disk).pageSize ∧
          (table.pages disk).wholePages = 0
      · simp only [counted, bind, Except.bind, if_pos unbuffered] at run
        cases run
      simp only [counted, bind, Except.bind, if_neg unbuffered] at run
      cases written : (table.pages disk).write number (Bytes.zeros (table.pages disk).pageSize) with
      | error fault =>
          simp only [written] at run
          cases run
      | ok file =>
          simp only [written, pure, Except.pure] at run
          cases run
          exact .of_write written

/-- A page that is read fits its table, and its file reaches to its end. -/
theorem fits_of_readPage (run : table.readPage disk id = .ok page) :
    page.Fits table id ∧ page.dirtiedBy = none ∧ id.table = table.id ∧
      (id.number.toNat + 1) * table.pageSize ≤ ((disk.get? table.file).getD ∅).length := by
  by_cases own : id.table = table.id
  · rcases Nat.eq_zero_or_pos table.pageSize with unsized | sized
    · rw [readPage_of_unsized own unsized] at run
      cases run
    · simp only [readPage, checkPage, own, if_true, pageCount_eq sized, bind, Except.bind] at run
      split at run
      · cases read : (table.pages disk).read id.number table.pageSize with
        | error fault =>
            simp only [read] at run
            cases run
        | ok data =>
            simp only [read] at run
            obtain ⟨fits, -, clean⟩ := Page.fits_of_decode (PageFile.length_of_read read) run
            refine ⟨fits, clean, own, ?_⟩
            rw [Nat.succ_mul]
            exact (PageFile.read_eq_ok_iff.mp read).1
      · cases run
  · rw [readPage_of_foreign own] at run
    cases run

end Table

namespace Store

variable {store middle after : Store} {id : PageId} {page clean : Page}
  {handles : List Handle} {handle : Handle}

/-- Each cached page is in the form in which it was read: it fits a table and
can be rolled back. -/
def Fitting (store : Store) : Prop :=
  ∀ id page, store.cached? id = some page → ∃ table, page.Fits table id

theorem Fitting.id_eq (fitting : store.Fitting) (cached : store.cached? id = some page) :
    page.id = id := by
  obtain ⟨table, fits⟩ := fitting id page cached
  exact fits.id

theorem cached?_replace {changed : Page} (cached : store.cached? id = some page)
    (own : changed.id = id) (other : PageId) : (store.setPage changed).cached? other =
      if other = id then some changed else store.cached? other := by
  have present : store.cached? changed.id ≠ none := by
    rw [own, cached]
    exact Option.some_ne_none page
  rw [cached?_setPage present, own]

/-- The store had the cached page already: it was loaded at the same time, and it fits
where it did. -/
def Had (store : Store) (id : PageId) (frame : Frame) : Prop :=
  ∃ old, store.frames.get? id = some old ∧ old.serial = frame.serial ∧
    ∀ table, old.page.Fits table id → frame.page.Fits table id

theorem Had.here {frame : Frame} (found : store.frames.get? id = some frame) :
    store.Had id frame :=
  ⟨frame, found, rfl, fun _ fits => fits⟩

theorem Had.later {frame last : Frame} (had : store.Had id frame)
    (serial : frame.serial = last.serial)
    (fits : ∀ table, frame.page.Fits table id → last.page.Fits table id) : store.Had id last := by
  obtain ⟨old, known, same, fitted⟩ := had
  exact ⟨old, known, same.trans serial, fun table first => fits table (fitted table first)⟩

theorem Sound.fitting (sound : store.Sound) : store.Fitting := by
  intro id page cached
  obtain ⟨⟨table, -, fits⟩, -⟩ := sound.page id page cached
  exact ⟨table, fits⟩

theorem fitting_of_empty (empty : store.frames = ∅) : store.Fitting := by
  intro id page cached
  rw [cached?, empty] at cached
  cases cached

/-! ## Edits -/

theorem writeBack_cases (run : store.writeBack page = .ok (clean, after)) :
    (page.dirtiedBy = none ∧ clean = page ∧ after = store) ∨
    ∃ txn table disk, page.dirtiedBy = some txn ∧
      store.catalog.table page.id.table = .ok table ∧
      table.writePage store.disk page = .ok disk ∧ store.unwritable.get? page.id = none ∧
      clean = page.mark false txn ∧
      after = { store with disk, unflushed := store.unflushed.erase page.id } := by
  unfold writeBack at run
  split at run
  · next unchanged =>
      cases run
      exact .inl ⟨unchanged, rfl, rfl⟩
  · next txn changed =>
      cases found : store.catalog.table page.id.table with
      | error error =>
          rw [found] at run
          cases run
      | ok table =>
          cases written : table.writePage store.disk page with
          | error error =>
              simp only [found, written, bind, Except.bind] at run
              cases run
          | ok disk =>
              simp only [found, written, bind, Except.bind] at run
              split at run
              · cases run
              · next free =>
                  cases run
                  exact .inr ⟨txn, table, disk, changed, rfl, written, free, rfl, rfl⟩

theorem dirty_of_writeBack_error {error : StoreError} (run : store.writeBack page = .error error) :
    page.dirtiedBy.isSome = true := by
  cases changed : page.dirtiedBy with
  | none =>
      simp only [writeBack, changed] at run
      cases run
  | some txn => rfl

/-- Writing a page is not a matter of the locks and of the order of use. -/
theorem writeBack_beside (store : Store) (locks : LockTable) (policy : EvictionPolicy)
    (page : Page) : ({ store with locks, policy }).writeBack page =
      (store.writeBack page).map fun written => (written.1, { written.2 with locks, policy }) := by
  unfold writeBack
  cases page.dirtiedBy with
  | none => rfl
  | some txn =>
      cases found : store.catalog.table page.id.table with
      | error error => simp only [bind, Except.bind, Except.map]
      | ok table =>
          cases written : table.writePage store.disk page with
          | error error => simp only [written, bind, Except.bind, Except.map]
          | ok disk =>
              simp only [written, bind, Except.bind]
              cases store.unwritable.get? page.id <;> rfl

/-- A change of a store in which no page comes into the cache or leaves it, and
no handle is made or given up. -/
inductive Edit (store : Store) : Store → Prop
  | relock (locks : LockTable) : Edit store { store with locks }
  | append {table : Table} {number : PageId} {disk : Disk}
      (run : table.allocatePage store.disk = .ok (number, disk)) : Edit store { store with disk }
  | write {id : PageId} {page clean : Page} {written : Store}
      (cached : store.cached? id = some page) (dirty : page.dirtiedBy.isSome = true)
      (run : store.writeBack page = .ok (clean, written)) : Edit store (written.setPage clean)
  | note {id : PageId} {page : Page} (cached : store.cached? id = some page)
      (dirty : page.dirtiedBy.isSome = true) :
      Edit store { store with unflushed := store.unflushed.add id }
  | change {id : PageId} {page changed : Page} (cached : store.cached? id = some page)
      (fits : ∀ table, page.Fits table id → changed.Fits table id)
      (dirty : store.unflushed.contains id = true → page.dirtiedBy.isSome = true →
        changed.dirtiedBy.isSome = true) : Edit store (store.setPage changed)

abbrev Edits : Store → Store → Prop := Relation.ReflTransGen Edit

structure Stays (store after : Store) : Prop where
  catalog : after.catalog = store.catalog
  unwritable : after.unwritable = store.unwritable
  capacity : after.capacity = store.capacity
  policy : after.policy = store.policy
  nextSerial : after.nextSerial = store.nextSerial
  hold : ∀ id, (after.frames.get? id).map Frame.hold = (store.frames.get? id).map Frame.hold
  disk : store.disk.GrowsTo after.disk

theorem Stays.refl (store : Store) : Stays store store :=
  ⟨rfl, rfl, rfl, rfl, rfl, fun _ => rfl, .refl _⟩

theorem Stays.trans (first : Stays store middle) (second : Stays middle after) :
    Stays store after where
  catalog := second.catalog.trans first.catalog
  unwritable := second.unwritable.trans first.unwritable
  capacity := second.capacity.trans first.capacity
  policy := second.policy.trans first.policy
  nextSerial := second.nextSerial.trans first.nextSerial
  hold id := (second.hold id).trans (first.hold id)
  disk := first.disk.trans second.disk

theorem hold_setPage (store : Store) (page : Page) (id : PageId) :
    ((store.setPage page).frames.get? id).map Frame.hold =
      (store.frames.get? id).map Frame.hold := by
  simp only [setPage, SortedMap.get?_modify]
  split
  · next here =>
      rw [here, Option.map_map]
      rfl
  · rfl

theorem Edit.stays (edit : Edit store after) : Stays store after := by
  cases edit with
  | relock locks => exact ⟨rfl, rfl, rfl, rfl, rfl, fun _ => rfl, .refl _⟩
  | append run =>
      exact ⟨rfl, rfl, rfl, rfl, rfl, fun _ => rfl, Table.grows_of_allocatePage run⟩
  | write cached dirty run =>
      rcases writeBack_cases run with ⟨-, rfl, rfl⟩ | ⟨txn, table, disk, -, -, written, -, rfl, rfl⟩
      · exact ⟨rfl, rfl, rfl, rfl, rfl, hold_setPage _ _, .refl _⟩
      · exact ⟨rfl, rfl, rfl, rfl, rfl, hold_setPage _ _, Table.grows_of_writePage written⟩
  | note cached dirty => exact ⟨rfl, rfl, rfl, rfl, rfl, fun _ => rfl, .refl _⟩
  | change cached fits dirty => exact ⟨rfl, rfl, rfl, rfl, rfl, hold_setPage _ _, .refl _⟩

theorem Edits.stays (edits : Edits store after) : Stays store after := by
  induction edits with
  | refl => exact .refl store
  | tail rest edit ih => exact ih.trans edit.stays

theorem Stays.isCached (stays : Stays store after) (id : PageId) :
    (after.cached? id).isSome = (store.cached? id).isSome := by
  have same := congrArg Option.isSome (stays.hold id)
  rw [Option.isSome_map, Option.isSome_map] at same
  rw [cached?, cached?, Option.isSome_map, Option.isSome_map, same]

theorem Edit.before (edit : Edit store after) (fitting : store.Fitting)
    (cached : after.cached? id = some page) : ∃ before, store.cached? id = some before ∧
      ∀ table, before.Fits table id → page.Fits table id := by
  have kept (unchanged : after.cached? id = store.cached? id) : ∃ before,
      store.cached? id = some before ∧ ∀ table, before.Fits table id → page.Fits table id :=
    ⟨page, unchanged ▸ cached, fun _ fits => fits⟩
  have replaced {place : PageId} {old new : Page} {written : Store}
      (frames : written.frames = store.frames) (known : store.cached? place = some old)
      (fits : ∀ table, old.Fits table place → new.Fits table place)
      (run : after.cached? id = (written.setPage new).cached? id) : ∃ before,
      store.cached? id = some before ∧ ∀ table, before.Fits table id → page.Fits table id := by
    obtain ⟨table, oldFits⟩ := fitting place old known
    have same : written.cached? = store.cached? := by
      funext other
      rw [cached?, cached?, frames]
    rw [← same] at known
    rw [run, cached?_replace known (fits table oldFits).id, same] at cached
    split at cached
    · next here =>
        cases cached
        subst here
        exact ⟨old, same ▸ known, fits⟩
    · exact ⟨page, cached, fun _ fits => fits⟩
  cases edit with
  | relock locks => exact kept rfl
  | append run => exact kept rfl
  | write known dirty run =>
      rcases writeBack_cases run with ⟨-, rfl, rfl⟩ | ⟨txn, table, disk, -, -, -, -, rfl, rfl⟩
      · exact replaced rfl known (fun _ fits => fits) rfl
      · exact replaced rfl known (fun _ fits => fits.mark false txn) rfl
  | note known dirty => exact kept rfl
  | change known fits dirty => exact replaced rfl known fits rfl

theorem Fitting.edit (fitting : store.Fitting) (edit : Edit store after) : after.Fitting := by
  intro id page cached
  obtain ⟨before, known, fits⟩ := edit.before fitting cached
  obtain ⟨table, fitted⟩ := fitting id before known
  exact ⟨table, fits table fitted⟩

theorem Fitting.edits (fitting : store.Fitting) (edits : Edits store after) : after.Fitting := by
  induction edits with
  | refl => exact fitting
  | tail rest edit ih => exact ih.edit edit

theorem Edit.frame (edit : Edit store after) (fitting : store.Fitting) {frame : Frame}
    (found : after.frames.get? id = some frame) : store.Had id frame := by
  obtain ⟨before, cached, fits⟩ := edit.before fitting (cached?_of_frame found)
  obtain ⟨old, known, rfl⟩ := Option.map_eq_some_iff.mp cached
  have same := edit.stays.hold id
  rw [found, known] at same
  exact ⟨old, known, congrArg Prod.snd (Option.some.inj same).symm, fits⟩

theorem Edits.frame (edits : Edits store after) (fitting : store.Fitting) {frame : Frame}
    (found : after.frames.get? id = some frame) : store.Had id frame := by
  induction edits generalizing frame with
  | refl => exact .here found
  | tail rest edit ih =>
      obtain ⟨middle, between, serial, fits⟩ := edit.frame (fitting.edits rest) found
      exact (ih between).later serial fits

theorem setPage_self (fitting : store.Fitting) (cached : store.cached? id = some page) :
    store.setPage page = store := by
  obtain ⟨frame, found, rfl⟩ := Option.map_eq_some_iff.mp cached
  have same : store.frames.modify frame.page.id (fun old => { old with page := frame.page }) =
      store.frames := by
    apply SortedMap.ext
    intro other
    rw [SortedMap.get?_modify, fitting.id_eq cached, found]
    split
    · next here => rw [here, found]; rfl
    · rfl
  rw [setPage, same]

/-- A cached page is written where it is, if it was changed, and then counts as
unchanged. -/
theorem Fitting.written (fitting : store.Fitting) (cached : store.cached? id = some page)
    (run : store.writeBack page = .ok (clean, middle)) :
    Edits store (middle.setPage clean) ∧ (middle.setPage clean).cached? id = some clean ∧
      clean.dirtiedBy = none := by
  rcases writeBack_cases run with ⟨unchanged, rfl, rfl⟩ |
    ⟨txn, table, disk, changed, -, -, -, rfl, rfl⟩
  · rw [setPage_self fitting cached]
    exact ⟨.refl, cached, unchanged⟩
  · refine ⟨.single (.write cached (by rw [changed]; rfl) run), ?_, rfl⟩
    have own : (page.mark false txn).id = id := (page.id_mark ..).trans (fitting.id_eq cached)
    exact (cached?_replace cached own id).trans (if_pos rfl)

theorem Fitting.flushPage (fitting : store.Fitting) (id : PageId) :
    Edits store (store.flushPage id).2 := by
  unfold Store.flushPage
  split
  · exact .refl
  · next page cached =>
      split
      · next run => exact (fitting.written cached run).1
      · exact .refl

theorem Fitting.flushEach (ids : List PageId) (fitting : store.Fitting) :
    Edits store (flushEach ids store).2 := by
  induction ids generalizing store with
  | nil => exact .refl
  | cons id ids ih =>
      have first := fitting.flushPage id
      unfold Store.flushEach
      split
      · next flushed run =>
          rw [run] at first
          exact first.trans (ih (fitting.edits first))
      · next run =>
          rw [run] at first
          exact first

theorem Edit.capture (cached : store.cached? id = some page)
    {captured : Page} (run : page.capture = .ok captured) : Edit store (store.setPage captured) := by
  have same : page.captured = captured := by rw [Page.captured, run]
  have dirty : captured.dirtiedBy = page.dirtiedBy := by
    unfold Page.capture at run
    split at run
    · cases run
      rfl
    · cases run
  apply Edit.change cached
  · intro table fits
    exact same ▸ fits.captured.1
  · intro noted changed
    rw [dirty]
    exact changed

/-- The content of a page in the form in which it was read can always be made the one that a
rollback returns to. -/
theorem Fitting.capture (fitting : store.Fitting) (cached : store.cached? id = some page) :
    ∃ captured, page.capture = .ok captured := by
  obtain ⟨table, fits⟩ := fitting id page cached
  exact ⟨page.captured, fits.captured.2.2⟩

theorem Fitting.flushCommitted (fitting : store.Fitting) (id : PageId) :
    Edits store (store.flushCommitted id).2 := by
  unfold Store.flushCommitted
  split
  · exact .refl
  · next page cached =>
      split
      · next error run => exact .single (.note cached (dirty_of_writeBack_error run))
      · next clean written run =>
          obtain ⟨edits, known, -⟩ := fitting.written cached run
          obtain ⟨captured, captures⟩ := (fitting.edits edits).capture known
          have edit := Edit.capture known captures
          have own : captured.id = clean.id := by
            obtain ⟨table, fits⟩ := fitting.edits edits id clean known
            have same : clean.captured = captured := by rw [Page.captured, captures]
            rw [← same, fits.captured.1.id, fits.id]
          have again : (written.setPage clean).setPage captured = written.setPage captured := by
            simp only [setPage, own]
            congr 1
            apply SortedMap.ext
            intro other
            simp only [SortedMap.get?_modify]
            split
            · cases written.frames.get? clean.id <;> rfl
            · rfl
          rw [again] at edit
          rw [captures]
          exact edits.tail edit

theorem Fitting.flushCommittedEach (ids : List PageId) (fitting : store.Fitting) :
    Edits store (flushCommittedEach ids store).2 := by
  induction ids generalizing store with
  | nil => exact .refl
  | cons id ids ih =>
      have first := fitting.flushCommitted id
      exact first.trans (ih (fitting.edits first))

theorem edits_capturePage (store : Store) (id : PageId) : Edits store (store.capturePage id) := by
  unfold capturePage
  split
  · exact .refl
  · next page cached =>
      split
      · next captured run => exact .single (.capture cached run)
      · exact .refl

theorem edits_captureEach (ids : List PageId) (store : Store) :
    Edits store (ids.foldl capturePage store) := by
  induction ids generalizing store with
  | nil => exact .refl
  | cons id ids ih => exact (edits_capturePage store id).trans (ih _)

theorem edits_restorePage (store : Store) (txn : TxnId) (id : PageId) :
    Edits store (store.restorePage txn id).2 := by
  unfold restorePage
  split
  · exact .refl
  · next page cached =>
      split
      · exact .refl
      · split
        · next restored run =>
            have same : page.restored = restored := by rw [Page.restored, run]
            apply Relation.ReflTransGen.single
            apply Edit.change cached
            · intro table fits
              have back : restored.Fits table id := same ▸ fits.restored.1
              split
              · exact back.mark true txn
              · exact back
            · intro noted changed
              rw [if_pos noted]
              rfl
        · exact .refl

theorem edits_restoreEach (txn : TxnId) (ids : List PageId) (store : Store) :
    Edits store (restoreEach txn ids store).2 := by
  induction ids generalizing store with
  | nil => exact .refl
  | cons id ids ih => exact (edits_restorePage store txn id).trans (ih _)

theorem Fitting.commit (fitting : store.Fitting) (txn : TxnId) :
    Edits store (store.commit txn).2 := by
  have flushed : Edits store (store.flushTransaction txn).2 := fitting.flushCommittedEach _
  have captured := edits_captureEach ((store.flushTransaction txn).2.exclusivePages txn)
    (store.flushTransaction txn).2
  exact (flushed.trans captured).tail (.relock _)

theorem edits_abort (store : Store) (txn : TxnId) : Edits store (store.abort txn).2 :=
  (edits_restoreEach txn (store.exclusivePages txn) store).tail (.relock _)

end Store

/-! ## Rows -/

section

variable {store after : Store} {handle : Handle} {row : Row} {txn : TxnId}

theorem Store.Fitting.pageOf (fitting : store.Fitting)
    (holds : store.Holds handle.page handle.serial) {page : Page}
    (known : store.pageOf? handle = some page) :
    store.cached? handle.page = some page ∧ page.Sound := by
  obtain ⟨frame, found, serial⟩ := holds
  rw [Store.pageOf?_of_frame found serial] at known
  cases known
  have cached := Store.cached?_of_frame found
  obtain ⟨table, fits⟩ := fitting _ _ cached
  exact ⟨cached, fits.sound⟩

theorem Store.Fitting.setPageOf (fitting : store.Fitting)
    (holds : store.Holds handle.page handle.serial) {page changed : Page}
    (cached : store.cached? handle.page = some page) (sound : changed.Sound)
    (same : changed = { page with header := changed.header, slots := changed.slots })
    (txn : TxnId) : Store.Edits store (store.setPageOf handle (changed.mark true txn)) := by
  obtain ⟨frame, found, serial⟩ := holds
  have own : (changed.mark true txn).id = handle.page := by
    have unchanged : changed.id = page.id := by rw [same]
    rw [Page.id_mark, unchanged]
    exact fitting.id_eq cached
  rw [Store.setPageOf_of_frame found serial own]
  apply Relation.ReflTransGen.single
  apply Store.Edit.change cached
  · intro table fits
    exact (fits.change sound same txn).1
  · intro noted dirty
    rfl

theorem Insertion.place_edits (fitting : store.Fitting)
    (holds : store.Holds handle.page handle.serial)
    {result : Option (Except StoreError Inserted)}
    (run : place row handle store = (result, after)) : Store.Edits store after := by
  unfold place at run
  split at run
  · cases run
    exact .refl
  · next page known =>
      split at run
      · cases run
        exact .refl
      · split at run
        · cases run
          exact .refl
        · next changed placed inserted =>
            cases run
            obtain ⟨cached, sound⟩ := fitting.pageOf holds known
            obtain ⟨slot, -, -, -, later, -, same⟩ := sound.insert_ok inserted
            exact fitting.setPageOf holds cached later same handle.owner

theorem Deletion.remove_edits (fitting : store.Fitting)
    (holds : store.Holds handle.page handle.serial) {result : Except StoreError PageId}
    (run : remove row handle store = (result, after)) : Store.Edits store after := by
  unfold remove at run
  split at run
  · cases run
    exact .refl
  · next page known =>
      split at run
      · cases run
        exact .refl
      · next changed removed =>
          cases run
          obtain ⟨cached, sound⟩ := fitting.pageOf holds known
          obtain ⟨location, -, -, -, later, -, same⟩ := sound.delete_ok removed
          exact fitting.setPageOf holds cached later same handle.owner

theorem Insertion.append_edits {table : Table} {result : Except StoreError Insertion}
    (run : append table txn row store = (result, after)) : Store.Edits store after := by
  unfold append at run
  split at run
  · cases run
    exact .refl
  · next allocated =>
      cases run
      exact .single (.append allocated)

theorem Insertion.goOn_edits {task : Insertion} {result : Except StoreError Insertion}
    (run : task.goOn store = (result, after)) : Store.Edits store after := by
  unfold goOn at run
  dsimp only at run
  split at run
  · cases run
    exact .refl
  · exact append_edits run

theorem Insertion.start_edits {table : Table} {result : Except StoreError Insertion}
    (run : start table txn row store = (result, after)) : Store.Edits store after := by
  unfold start at run
  split at run
  · split at run
    · cases run
      exact .refl
    · split at run
      · cases run
        exact .refl
      · exact append_edits run
  · cases run
    exact .refl

theorem Call.start_edits {call : Call} {begun : Option Operation}
    (run : call.start txn store = (begun, after)) : Store.Edits store after := by
  cases Call.begins run with
  | refused => exact .refl
  | fetch => exact .refl
  | failed found started => exact Insertion.start_edits started
  | insertion found started => exact Insertion.start_edits started
  | deletion => exact .refl
  | scan => exact .refl

end

end TableStore
