import Mathlib.Tactic.ByContra
import TableStore.Store.Deletion
import TableStore.Store.Insertion
import TableStore.Store.Scan
import TableStore.Proofs.Fetches

/-!
# Changes of single rows

While a page is pinned for a transaction, a row goes into its first free slot,
or out of the slot that its location names.  On the outline of the store this is
a change of one slot; giving up the pin changes nothing there, and a page that is
appended to a table is a move of the store.
-/

set_option autoImplicit false

namespace TableStore

namespace Page

variable {page after : Page} {table : Table} {id : PageId}

theorem Fits.change (fits : page.Fits table id) (sound : after.Sound)
    (same : after = { page with header := after.header, slots := after.slots }) (txn : TxnId) :
    (after.mark true txn).Fits table id ∧
      (after.mark true txn).copy = ⟨after.contents, page.copy.image, some txn⟩ := by
  have image : after.imageContents = page.imageContents := by
    rw [same]
    rfl
  have fitting : after.Fits table id := by
    refine ⟨?_, ?_, ?_, sound, ?_, image ▸ fits.image⟩
    · rw [same]
      exact fits.id
    · rw [same]
      exact fits.schema
    · rw [same]
      exact fits.size
    · rw [same]
      exact fits.length
  refine ⟨fitting.mark true txn, ?_⟩
  obtain ⟨contents, known⟩ := fits.image
  rw [copy_dirty, copy_eq (image.trans known), copy_eq known]

end Page

namespace Store

variable {store middle after : Store} {id : PageId} {page : Page} {table : Table}
  {frame : Frame} {handle : Handle} {txn : TxnId} {writes : TxnId → Prop}

theorem pageOf?_of_frame (found : store.frames.get? handle.page = some frame)
    (serial : frame.serial = handle.serial) : store.pageOf? handle = some frame.page := by
  simp only [pageOf?, found, serial, if_true]

theorem setPageOf_of_frame (found : store.frames.get? handle.page = some frame)
    (serial : frame.serial = handle.serial) (own : page.id = handle.page) :
    store.setPageOf handle page = store.setPage page := by
  simp only [setPageOf, setPage, found, serial, if_true, SortedMap.modify, own]

theorem cached?_unpin (store : Store) (handle : Handle) (id : PageId) :
    (store.unpin handle).cached? id = store.cached? id := by
  simp only [unpin]
  split
  · next frame found =>
      split
      · rw [cached?, cached?, SortedMap.get?_insert]
        split
        · next here =>
            rw [here, found]
            rfl
        · rfl
      · rfl
  · rfl

theorem Sound.unpin (sound : store.Sound) (handle : Handle) :
    Rests store (store.unpin handle) ∧ (store.unpin handle).locks = store.locks := by
  have same : (store.unpin handle).catalog = store.catalog ∧
      (store.unpin handle).disk = store.disk ∧
      (store.unpin handle).unflushed = store.unflushed ∧
      (store.unpin handle).unwritable = store.unwritable ∧
      (store.unpin handle).capacity = store.capacity ∧
      (store.unpin handle).locks = store.locks := by
    simp only [Store.unpin]
    split
    · split <;> exact ⟨rfl, rfl, rfl, rfl, rfl, rfl⟩
    · exact ⟨rfl, rfl, rfl, rfl, rfl, rfl⟩
  obtain ⟨catalog, disk, unflushed, unwritable, capacity, locks⟩ := same
  exact ⟨⟨catalog, disk, unflushed, unwritable, capacity, cached?_unpin store handle,
    locks ▸ sound.locks⟩, locks⟩

structure Changes (store after : Store) (txn : TxnId) (change : Change) : Prop
    extends Still store after where
  sound : after.Sound
  copy : ∃ copy, (store.pageState change.page).cached = some copy ∧
    change.slot < copy.contents.length ∧ after.outline = store.outline.change txn copy change

theorem Changes.pages {change : Change} (changes : Changes store after txn change) :
    ∃ copy, (store.pageState change.page).cached = some copy ∧
      change.slot < copy.contents.length ∧
      ∀ id, after.pageState id =
        if id = change.page then
          { store.pageState change.page with
            cached := some ⟨change.apply copy.contents, copy.image, some txn⟩ }
        else store.pageState id := by
  obtain ⟨copy, cached, inside, outline⟩ := changes.copy
  exact ⟨copy, cached, inside, fun id => congrFun (congrArg Outline.page outline) id⟩

theorem Sound.change (sound : store.Sound) {changed : Page} (txn : TxnId) (change : Change)
    (cached : store.cached? change.page = some page) (changedSound : changed.Sound)
    (same : changed = { page with header := changed.header, slots := changed.slots })
    (inside : change.slot < page.contents.length)
    (contents : changed.contents = change.apply page.contents) :
    Changes store (store.setPage (changed.mark true txn)) txn change := by
  obtain ⟨⟨table, registered, fits⟩, -⟩ := sound.page _ page cached
  obtain ⟨fitting, copied⟩ := fits.change changedSound same txn
  have becomes := sound.setPage cached registered fitting
  refine ⟨becomes.still, becomes.sound, page.copy, copy_of_cached cached, inside, ?_⟩
  · refine Outline.ext (funext fun other => ?_) (funext fun txn => funext fun other => ?_)
      becomes.still.toContinues.lost
    · apply (becomes.page other).trans
      simp only [Outline.change, Outline.set]
      split
      · next here =>
          rw [copied, contents, here]
          rfl
      · rfl
    · change _ = store.locks.mode? txn other
      rw [← becomes.still.locks]
      rfl

/-! ## Appended pages -/

structure Reaches (writes : TxnId → Prop) (store after : Store) : Prop where
  catalog : after.catalog = store.catalog
  sound : after.Sound
  shifts : Outline.Shifts store.catalog.blank writes store.outline after.outline

theorem Moves.reaches (moves : Moves writes store after) : Reaches writes store after :=
  ⟨moves.catalog, moves.sound, moves.shifts⟩

theorem Reaches.trans (first : Reaches writes store middle) (second : Reaches writes middle after) :
    Reaches writes store after :=
  ⟨second.catalog.trans first.catalog, second.sound,
    first.shifts.trans (first.catalog ▸ second.shifts)⟩

def nextPage (store : Store) (table : Table) : PageId :=
  table.page (UInt32.ofNat (table.wholePages store.disk))

structure Appends (store after : Store) (table : Table) : Prop where
  disk : after = { store with disk := after.disk }
  sized : 0 < table.pageSize
  sound : after.Sound
  few : table.wholePages after.disk < 2 ^ 32
  count : table.wholePages after.disk = table.wholePages store.disk + 1
  counts : ∀ id other, store.catalog.tables.get? id = some other → id ≠ table.id →
    other.wholePages after.disk = other.wholePages store.disk
  uncached : store.cached? (store.nextPage table) = none
  missing : store.stored (store.nextPage table) = .error (.pageNotFound (store.nextPage table))
  read : after.readPage (store.nextPage table) =
    Page.empty (store.nextPage table) table.schema table.pageSize
  stored : ∀ other, other ≠ store.nextPage table → after.stored other = store.stored other

/-- The table got as many pages as there are numbers, or had more already. -/
structure Overflows (store after : Store) (table : Table) : Prop where
  disk : after = { store with disk := after.disk }
  many : 2 ^ 32 ≤ table.wholePages after.disk
  reaches : ∀ writes, Reaches writes store after

theorem Overflows.unaddressable (overflows : Overflows store after table)
    (registered : store.catalog.tables.get? table.id = some table) : ¬ after.Addressable := by
  intro addressable
  have known : after.catalog.tables.get? table.id = some table := by
    rw [overflows.disk]
    exact registered
  have few := addressable _ _ known
  have many := overflows.many
  omega

theorem Sound.uncached_of_missing (sound : store.Sound) (kept : ¬ store.Lost id.table)
    {error : StoreError} (missing : store.stored id = .error error) : store.cached? id = none := by
  cases cached : store.cached? id with
  | none => rfl
  | some page =>
      obtain ⟨contents, stored⟩ := (sound.page id page cached).2.resolve_right kept
      cases missing.symm.trans stored

theorem nextPage_missing (registered : store.catalog.tables.get? table.id = some table)
    (sized : 0 < table.pageSize) :
    store.stored (store.nextPage table) = .error (.pageNotFound (store.nextPage table)) := by
  have beyond : ¬ (store.nextPage table).number.toNat < table.countedPages store.disk :=
    Nat.lt_irrefl _
  rw [stored, readPage_of_table (show store.catalog.tables.get? (store.nextPage table).table =
    some table from registered), Table.readPage_of_counted rfl sized, if_neg beyond]
  rfl

theorem kept_of_few (registered : store.catalog.tables.get? table.id = some table)
    (few : table.wholePages store.disk < 2 ^ 32) : ¬ store.Lost table.id := by
  rintro ⟨own, found, whole⟩
  cases found.symm.trans registered
  omega

section

variable (sound : store.Sound) (registered : store.catalog.tables.get? table.id = some table)
  {content : FileBytes}

include sound registered

theorem Sound.append_appends (sized : 0 < table.pageSize)
    (few : table.wholePages store.disk + 1 < 2 ^ 32)
    (count : table.wholePages (store.disk.insert table.file content) =
      table.wholePages store.disk + 1)
    (read : table.readPage (store.disk.insert table.file content) (store.nextPage table) =
      Page.empty (store.nextPage table) table.schema table.pageSize)
    (others : ∀ id, id ≠ store.nextPage table →
      table.readPage (store.disk.insert table.file content) id = table.readPage store.disk id) :
    Appends store { store with disk := store.disk.insert table.file content } table := by
  let after : Store := { store with disk := store.disk.insert table.file content }
  have missing := nextPage_missing registered sized
  have stored (other : PageId) (different : other ≠ store.nextPage table) :
      after.stored other = store.stored other :=
    sound.stored_of_file registered (show after.disk = _ from rfl) rfl (others other different)
  have uncached : store.cached? (store.nextPage table) = none :=
    sound.uncached_of_missing (kept_of_few registered (by omega)) missing
  have counts (id : TableId) (own : Table) (found : store.catalog.tables.get? id = some own)
      (different : id ≠ table.id) : own.wholePages after.disk = own.wholePages store.disk :=
    sound.wholePages_of_file registered (show after.disk = _ from rfl) found different
  have lost (id : TableId) (lost : store.Lost id) : after.Lost id := by
    have ⟨own, found, whole⟩ := lost
    have different : id ≠ table.id := by
      rintro rfl
      exact kept_of_few registered (by omega) lost
    exact ⟨own, found, (counts id own found different).trans whole⟩
  refine ⟨rfl, sized, ⟨sound.catalog, sound.locks, ?_⟩, count ▸ few, count, counts, uncached,
    missing, ?_, stored⟩
  · intro id page cached
    obtain ⟨fits, filed⟩ := sound.page id page cached
    refine ⟨fits, filed.imp ?_ (lost _)⟩
    rintro ⟨contents, found⟩
    refine ⟨contents, ?_⟩
    rw [stored id]
    · exact found
    · rintro rfl
      cases missing.symm.trans found
  · rw [readPage_of_table (show after.catalog.tables.get? (store.nextPage table).table =
      some table from registered)]
    exact read

/-- With the last number all pages of the table are lost. -/
theorem Sound.append_loses
    (count : table.wholePages (store.disk.insert table.file content) = 2 ^ 32) :
    Overflows store { store with disk := store.disk.insert table.file content } table := by
  let after : Store := { store with disk := store.disk.insert table.file content }
  have own : after.Lost table.id := ⟨table, registered, count⟩
  have lost (id : TableId) : after.Lost id ↔ id = table.id ∨ store.Lost id := by
    by_cases same : id = table.id
    · simp [same, own]
    · simp only [same, false_or]
      exact exists_congr fun other => and_congr_right fun found => by
        rw [sound.wholePages_of_file registered (show after.disk = _ from rfl) found same]
  have foreign (id : PageId) (different : id.table ≠ table.id) :
      after.stored id = store.stored id := by
    apply sound.stored_of_file registered (show after.disk = _ from rfl) rfl
    rw [Table.readPage_of_foreign different, Table.readPage_of_foreign different]
  have grown : after.Sound := by
    refine ⟨sound.catalog, sound.locks, fun id page cached => ?_⟩
    obtain ⟨fits, filed⟩ := sound.page id page cached
    refine ⟨fits, ?_⟩
    by_cases here : id.table = table.id
    · exact .inr (here ▸ own)
    · rw [foreign id here]
      exact filed.imp_right fun before => (lost _).mpr (.inr before)
  refine ⟨rfl, Nat.le_of_eq count.symm, fun writes => ⟨rfl, grown, ?_⟩⟩
  have same : after.outline = store.outline.lose table.id := by
    refine Outline.ext (funext fun id => ?_) rfl (funext fun id => propext (lost id))
    change after.pageState id = if _ then _ else _
    split
    · next here =>
        rw [pageState, grown.stored_of_lost (here ▸ own)]
        rfl
    · next here =>
        rw [pageState, foreign id here]
        rfl
  rw [same]
  exact .single (.lose table.id)

/-- With more pages than numbers nothing changes that can be read. -/
theorem Sound.append_overruns (many : 2 ^ 32 ≤ table.wholePages store.disk)
    (count : table.wholePages (store.disk.insert table.file content) =
      table.wholePages store.disk)
    (same : ∀ id, table.readPage (store.disk.insert table.file content) id =
      table.readPage store.disk id) :
    Overflows store { store with disk := store.disk.insert table.file content } table := by
  let after : Store := { store with disk := store.disk.insert table.file content }
  have continues : Continues store after := by
    refine ⟨rfl, rfl, rfl, fun id other found => ?_⟩
    by_cases here : id = table.id
    · subst here
      cases found.symm.trans registered
      exact count
    · exact sound.wholePages_of_file registered (show after.disk = _ from rfl) found here
  have stored (id : PageId) : after.stored id = store.stored id :=
    sound.stored_of_file registered (show after.disk = _ from rfl) rfl (same id)
  have states (id : PageId) : after.pageState id = store.pageState id := by
    rw [pageState, stored]
    rfl
  refine ⟨rfl, count ▸ many, fun writes => ⟨rfl, ⟨sound.catalog, sound.locks, ?_⟩, ?_⟩⟩
  · intro id page cached
    rw [stored, continues.lost]
    exact sound.page id page cached
  · have outline : after.outline = store.outline :=
      Outline.ext (funext states) rfl continues.lost
    rw [outline]
    exact .refl

/-- A page is appended to the table, unless no buffer holds it, and then it is one more
page, or all pages of the table are lost. -/
theorem Sound.append (row : Row) :
    (∃ fault, fault.isFatal = true ∧
      (table.pageSize = 0 ∨ table.Unbuffered store.disk) ∧
      Insertion.append table txn row store = (.error (.io fault), store)) ∨
    ∃ after, Insertion.append table txn row store =
        (.ok (Insertion.askFor table txn row 0 (store.nextPage table) after), after) ∧
      (Appends store after table ∨ Overflows store after table) := by
  rcases Nat.eq_zero_or_pos table.pageSize with unsized | sized
  · refine .inl ⟨.zeroPageSize, rfl, .inl unsized, ?_⟩
    simp only [Insertion.append, Table.allocatePage_of_unsized unsized]
  by_cases unbuffered : table.Unbuffered store.disk
  · refine .inl ⟨.noBuffer, rfl, .inr unbuffered, ?_⟩
    simp only [Insertion.append, Table.allocatePage_of_unbuffered sized unbuffered]
  have run {content : FileBytes}
      (allocated : table.allocatePage store.disk =
        .ok (store.nextPage table, store.disk.insert table.file content)) :
      Insertion.append table txn row store =
        (.ok (Insertion.askFor table txn row 0 (store.nextPage table)
          { store with disk := store.disk.insert table.file content }),
          { store with disk := store.disk.insert table.file content }) := by
    simp only [Insertion.append, allocated]
  rcases Nat.lt_or_ge (table.wholePages store.disk) (2 ^ 32) with small | many
  · obtain ⟨content, allocated, count, laws⟩ :=
      Table.allocatePage_of_sized sized unbuffered small
    refine .inr ⟨_, run allocated, ?_⟩
    by_cases few : table.wholePages store.disk + 1 < 2 ^ 32
    · obtain ⟨read, others⟩ := laws few
      exact .inl (sound.append_appends registered sized few count read others)
    · exact .inr (sound.append_loses registered (count.trans (by omega)))
  · obtain ⟨content, allocated, count, same⟩ := Table.allocatePage_of_more sized many
    exact .inr ⟨_, run allocated, .inr (sound.append_overruns registered many count same)⟩

theorem Sound.append_few (sized : 0 < table.pageSize)
    (buffered : ¬ table.Unbuffered store.disk)
    (room : table.wholePages store.disk + 1 < 2 ^ 32) (row : Row) :
    ∃ after, Insertion.append table txn row store =
        (.ok (Insertion.askFor table txn row 0 (store.nextPage table) after), after) ∧
      Appends store after table := by
  obtain ⟨content, allocated, count, laws⟩ :=
    Table.allocatePage_of_sized sized buffered (Nat.lt_of_succ_lt room)
  obtain ⟨read, others⟩ := laws room
  have run : Insertion.append table txn row store =
      (.ok (Insertion.askFor table txn row 0 (store.nextPage table)
        { store with disk := store.disk.insert table.file content }),
        { store with disk := store.disk.insert table.file content }) := by
    simp only [Insertion.append, allocated]
    rfl
  exact ⟨_, run, sound.append_appends registered sized room count read others⟩

end

theorem Appends.state (appends : Appends store after table) (id : PageId) :
    after.pageState id = { store.pageState id with stored := after.stored id } := by
  have same : after.cached? id = store.cached? id ∧ after.unflushed = store.unflushed := by
    rw [appends.disk]
    exact ⟨rfl, rfl⟩
  rw [pageState, same.1, same.2]
  rfl

theorem Appends.others (appends : Appends store after table) {id : PageId}
    (different : id ≠ store.nextPage table) : after.pageState id = store.pageState id := by
  rw [appends.state, appends.stored id different]
  rfl

theorem Appends.kept (appends : Appends store after table)
    (registered : store.catalog.tables.get? table.id = some table) : ¬ store.Lost table.id :=
  kept_of_few registered (by
    have more := appends.count
    have few := appends.few
    omega)

theorem Appends.lost (appends : Appends store after table)
    (registered : store.catalog.tables.get? table.id = some table) : after.Lost = store.Lost := by
  have catalog : after.catalog = store.catalog := by rw [appends.disk]
  funext id
  apply propext
  by_cases same : id = table.id
  · subst same
    exact iff_of_false (kept_of_few (catalog ▸ registered) appends.few) (appends.kept registered)
  · rw [Lost, Lost, catalog]
    exact exists_congr fun other => and_congr_right fun found => by
      rw [appends.counts id other found same]

theorem Appends.addressable (appends : Appends store after table)
    (registered : store.catalog.tables.get? table.id = some table)
    (addressable : store.Addressable) : after.Addressable := by
  have catalog : after.catalog = store.catalog := by rw [appends.disk]
  intro id other found
  rw [catalog] at found
  by_cases same : id = table.id
  · subst same
    cases found.symm.trans registered
    exact appends.few
  · rw [appends.counts id other found same]
    exact addressable id other found

theorem Appends.reaches (appends : Appends store after table)
    (registered : store.catalog.tables.get? table.id = some table) :
    Reaches writes store after where
  catalog := by rw [appends.disk]
  sound := appends.sound
  shifts := by
    have modes (txn : TxnId) (id : PageId) :
        after.locks.mode? txn id = store.locks.mode? txn id := by
      rw [appends.disk]
    have others (id : PageId) (different : id ≠ store.nextPage table) :
        after.pageState id = store.pageState id := appends.others different
    have here := appends.state (store.nextPage table)
    rw [outline_of_single modes (appends.lost registered) others here]
    refine .single (.append _ _ _ (appends.kept registered) ?_ appends.missing
      fun contents stored => ?_)
    · exact copy_of_uncached appends.uncached
    · rw [Store.stored, appends.read] at stored
      rw [Catalog.blank, show store.catalog.tables.get? (store.nextPage table).table = some table
        from registered]
      cases empty : Page.empty (store.nextPage table) table.schema table.pageSize with
      | error error =>
          rw [empty] at stored
          cases stored
      | ok page =>
          rw [empty] at stored
          cases stored
          simp only [empty]

structure Grows (store after : Store) : Prop where
  reaches : ∀ writes, Reaches writes store after
  locks : after.locks = store.locks
  frames : after.frames = store.frames
  policy : after.policy = store.policy

theorem Sound.grows (sound : store.Sound) : Grows store store :=
  ⟨fun _ => ⟨rfl, sound, .refl⟩, rfl, rfl, rfl⟩

theorem Appends.grows (appends : Appends store after table)
    (registered : store.catalog.tables.get? table.id = some table) : Grows store after :=
  ⟨fun _ => appends.reaches registered, by rw [appends.disk], by rw [appends.disk],
    by rw [appends.disk]⟩

theorem Overflows.grows (overflows : Overflows store after table) : Grows store after :=
  ⟨overflows.reaches, by rw [overflows.disk], by rw [overflows.disk], by rw [overflows.disk]⟩

/-! ## Rows -/

theorem Sound.place (sound : store.Sound) (row : Row) (handle : Handle)
    (found : store.frames.get? handle.page = some frame)
    (serial : frame.serial = handle.serial) :
    (frame.page.contents.findIdx? Option.isNone = none ∧
      Insertion.place row handle store = (none, store)) ∨
    (row.schema.alike frame.page.schema = false ∧ ∃ error,
      Insertion.place row handle store = (some (.error error), store)) ∨
    ∃ slot, frame.page.contents.findIdx? Option.isNone = some slot ∧
      (UInt16.ofNat slot).toNat = slot ∧
      (Insertion.place row handle store).1 =
        some (.ok ⟨row.placeAt (some ⟨handle.page, UInt16.ofNat slot⟩), handle.page⟩) ∧
      Changes store (Insertion.place row handle store).2 handle.owner
        ⟨handle.page, slot, some row.values⟩ := by
  have cached : store.cached? handle.page = some frame.page := cached?_of_frame found
  obtain ⟨⟨table, registered, fits⟩, -⟩ := sound.page _ _ cached
  have handled := pageOf?_of_frame found serial
  by_cases full : frame.page.freeCount = 0
  · refine .inl ⟨?_, by simp only [Insertion.place, handled, full, if_true]⟩
    rw [fits.sound.freeCount_eq] at full
    rw [List.findIdx?_eq_none_iff]
    intro slot member
    have taken := List.countP_eq_zero.mp full slot member
    simpa [Option.isSome_iff_ne_none] using taken
  · cases placed : frame.page.insert row with
    | error error =>
        refine .inr (.inl ⟨?_, error, by simp only [Insertion.place, handled, full, if_false, placed]⟩)
        by_contra alike
        obtain ⟨after, row, run⟩ := fits.sound.insert_of_free (by simpa using alike) full
        cases placed.symm.trans run
    | ok result =>
        obtain ⟨changed, placedRow⟩ := result
        obtain ⟨slot, free, inside, rfl, changedSound, contents, same⟩ :=
          fits.sound.insert_ok placed
        have own : changed.id = handle.page := by
          rw [same]
          exact fits.id
        have run : Insertion.place row handle store =
            (some (.ok ⟨row.placeAt (some ⟨handle.page, UInt16.ofNat slot⟩), handle.page⟩),
              store.setPage (changed.mark true handle.owner)) := by
          simp only [Insertion.place, handled, full, if_false, placed, own, fits.id]
          rw [setPageOf_of_frame found serial
            (show (changed.mark true handle.owner).id = handle.page from own)]
        have changes : Changes store (store.setPage (changed.mark true handle.owner)) handle.owner
            ⟨handle.page, slot, some row.values⟩ :=
          sound.change _ _ cached changedSound same inside contents
        rw [run]
        have numbered : (UInt16.ofNat slot).toNat = slot :=
          Page.toNat_slot fits.sound.slotCount (fits.sound.length_contents ▸ inside)
        exact .inr (.inr ⟨slot, free, numbered, rfl, changes⟩)

theorem Sound.remove (sound : store.Sound) (row : Row) (handle : Handle)
    (found : store.frames.get? handle.page = some frame)
    (serial : frame.serial = handle.serial) :
    (Deletion.remove row handle store = (.error (.notOnPage handle.page row.location), store) ∧
      ∀ location values, row.location = some location → location.page = handle.page →
        frame.page.contents[location.slot.toNat]? ≠ some (some values)) ∨
    ∃ location values, row.location = some location ∧ location.page = handle.page ∧
      frame.page.contents[location.slot.toNat]? = some (some values) ∧
      (Deletion.remove row handle store).1 = .ok handle.page ∧
      Changes store (Deletion.remove row handle store).2 handle.owner
        ⟨handle.page, location.slot.toNat, none⟩ := by
  have cached : store.cached? handle.page = some frame.page := cached?_of_frame found
  obtain ⟨⟨table, registered, fits⟩, -⟩ := sound.page _ _ cached
  have handled := pageOf?_of_frame found serial
  cases removed : frame.page.delete row with
  | error error =>
      refine .inl ⟨?_, fun location values placed here used => ?_⟩
      · simp only [Deletion.remove, handled, removed]
        rw [Page.delete_error removed, fits.id]
      · have isUsed := (fits.sound.isUsed_iff location.slot.toNat).mpr ⟨values, used⟩
        simp [Page.delete, placed, here, fits.id, isUsed] at removed
  | ok changed =>
      obtain ⟨location, placed, here, inside, changedSound, contents, same⟩ :=
        fits.sound.delete_ok removed
      obtain ⟨values, used⟩ : ∃ values,
          frame.page.contents[location.slot.toNat]? = some (some values) := by
        rw [← fits.sound.isUsed_iff]
        simp only [Page.delete, placed] at removed
        split at removed
        · next used => exact used.2
        · cases removed
      have own : changed.id = handle.page := by
        rw [same]
        exact fits.id
      have run : Deletion.remove row handle store =
          (.ok handle.page, store.setPage (changed.mark true handle.owner)) := by
        simp only [Deletion.remove, handled, removed, own]
        rw [setPageOf_of_frame found serial
          (show (changed.mark true handle.owner).id = handle.page from own)]
      have changes : Changes store (store.setPage (changed.mark true handle.owner)) handle.owner
          ⟨handle.page, location.slot.toNat, none⟩ :=
        sound.change _ _ cached changedSound same inside contents
      rw [run]
      exact .inr ⟨location, values, placed, here.trans fits.id, used, rfl, changes⟩

end Store

end TableStore
