import TableStore.Store.Commit
import TableStore.Store.Fetch
import TableStore.Proofs.Files
import TableStore.Proofs.Locks
import TableStore.Proofs.Outlines

/-!
# The outline of a store

Every store has an outline: the states of its pages and the modes of its locks.
A store is sound when every cached page fits its table, can be rolled back and
is in its file; its outline then says all that matters about its pages.  A file
of as many pages as there are numbers counts as empty, and then its pages are
lost.
-/

set_option autoImplicit false

namespace TableStore

/-- Every table is kept under its own identity, and no two tables share a
file. -/
structure Catalog.Sound (catalog : Catalog) : Prop where
  identity : ∀ id table, catalog.tables.get? id = some table → table.id = id
  files : ∀ (a b : TableId) (s t : Table), catalog.tables.get? a = some s →
    catalog.tables.get? b = some t → s.file = t.file → a = b

instance (catalog : Catalog) : Decidable catalog.Sound :=
  decidable_of_iff
    ((∀ entry ∈ catalog.tables.entries, entry.2.id = entry.1) ∧
      ∀ a ∈ catalog.tables.entries, ∀ b ∈ catalog.tables.entries,
        a.2.file = b.2.file → a.1 = b.1)
    ⟨fun all => ⟨fun id table found => all.1 (id, table) (SortedMap.mem_entries_iff.mpr found),
        fun a b s t first second => all.2 (a, s) (SortedMap.mem_entries_iff.mpr first)
          (b, t) (SortedMap.mem_entries_iff.mpr second)⟩,
      fun sound => ⟨fun entry member =>
          sound.identity entry.1 entry.2 (SortedMap.mem_entries_iff.mp member),
        fun a first b second => sound.files a.1 b.1 a.2 b.2
          (SortedMap.mem_entries_iff.mp first) (SortedMap.mem_entries_iff.mp second)⟩⟩

namespace Page

def imageContents (page : Page) : Except StoreError Contents := page.restore.map contents

def captured (page : Page) : Page :=
  match page.capture with
  | .ok after => after
  | .error _ => page

def restored (page : Page) : Page :=
  match page.restore with
  | .ok after => after
  | .error _ => page

structure Fits (page : Page) (table : Table) (id : PageId) : Prop where
  id : page.id = id
  schema : page.schema = table.schema
  size : page.size = table.pageSize
  sound : page.Sound
  length : page.image.length = page.size
  image : ∃ contents, page.imageContents = .ok contents

variable {page : Page} {table : Table} {id : PageId}

theorem Fits.mark (fits : page.Fits table id) (dirty : Bool) (txn : TxnId) :
    (page.mark dirty txn).Fits table id :=
  ⟨fits.id, fits.schema, fits.size, fits.sound.mark dirty txn, fits.length, fits.image⟩

def copy (page : Page) : Copy :=
  ⟨page.contents, match page.imageContents with
    | .ok contents => contents
    | .error _ => [], page.dirtiedBy⟩

theorem copy_eq {contents : Contents} (image : page.imageContents = .ok contents) :
    page.copy = ⟨page.contents, contents, page.dirtiedBy⟩ := by
  rw [copy, image]

@[simp] theorem copy_dirty (txn : TxnId) :
    (page.mark true txn).copy = { page.copy with dirtiedBy := some txn } := rfl

/-- A page that is read from as many bytes as its size fits its table, and is
rolled back to itself. -/
theorem fits_of_decode {data : Bytes} (length : data.length = table.pageSize)
    (run : Page.decode id table.schema table.pageSize data = .ok page) :
    page.Fits table id ∧ page.imageContents = .ok page.contents ∧ page.dirtiedBy = none := by
  obtain ⟨sound, sameId, schema, size, clean, image⟩ := decode_ok run
  rw [← length, List.take_length] at image
  have again : page.restore = .ok page := by
    rw [restore, sameId, schema, size, image]
    exact run
  have contents : page.imageContents = .ok page.contents := by
    rw [imageContents, again]
    rfl
  exact ⟨⟨sameId, schema, size, sound, by rw [image, size, length], ⟨_, contents⟩⟩,
    contents, clean⟩

theorem Fits.captured (fits : page.Fits table id) :
    page.captured.Fits table id ∧
      page.captured.copy = { page.copy with image := page.contents } ∧
      page.capture = .ok page.captured := by
  obtain ⟨bytes, encoded, length, again, decoded, contents⟩ := fits.sound.encode_decode
  have run : page.capture = .ok { page with image := bytes } := by
    rw [capture, encoded]
  have after : page.captured = { page with image := bytes } := by
    rw [Page.captured, run]
  have image : ({ page with image := bytes } : Page).imageContents = .ok page.contents := by
    rw [imageContents, restore]
    rw [show Page.decode page.id page.schema page.size bytes = .ok again from decoded]
    exact congrArg Except.ok contents
  rw [after]
  exact ⟨⟨fits.id, fits.schema, fits.size,
      ⟨fits.sound.slotCount, fits.sound.header, fits.sound.occupied, fits.sound.row⟩, length,
      ⟨_, image⟩⟩, copy_eq image, run⟩

theorem Fits.restored (fits : page.Fits table id) :
    page.restored.Fits table id ∧
      page.restored.copy = ⟨page.copy.image, page.copy.image, none⟩ ∧
      page.restore = .ok page.restored := by
  obtain ⟨contents, image⟩ := fits.image
  cases run : page.restore with
  | error error => simp [imageContents, run, Except.map] at image
  | ok after =>
      have same : page.restored = after := by
        rw [Page.restored, run]
      rw [restore, fits.schema, fits.size, fits.id] at run
      obtain ⟨afterFits, afterImage, clean⟩ :=
        fits_of_decode (fits.length.trans fits.size) run
      have before : page.imageContents = .ok after.contents := by
        rw [imageContents, restore, fits.schema, fits.size, fits.id, run]
        rfl
      rw [same, copy_eq afterImage, copy_eq before, clean]
      exact ⟨afterFits, rfl, rfl⟩

end Page

namespace Store

def stored (store : Store) (id : PageId) : Except StoreError Contents :=
  (store.readPage id).map Page.contents

def pageState (store : Store) (id : PageId) : PageState :=
  ⟨(store.cached? id).map Page.copy, store.stored id, store.unflushed.contains id⟩

/-- The table has as many pages as there are numbers. -/
def Lost (store : Store) (id : TableId) : Prop :=
  ∃ table, store.catalog.tables.get? id = some table ∧ table.wholePages store.disk = 2 ^ 32

def outline (store : Store) : Outline where
  page := store.pageState
  mode := store.locks.mode?
  lost := store.Lost
  alone _ _ _ exclusive holds := LockTable.alone_of_exclusive exclusive holds

/-- Every file has fewer pages than there are words to count them. -/
def Addressable (store : Store) : Prop :=
  ∀ id table, store.catalog.tables.get? id = some table →
    table.wholePages store.disk < 2 ^ 32

instance (store : Store) : Decidable store.Addressable :=
  decidable_of_iff
    ((store.catalog.tables.entries.all fun (_, table) =>
      decide (table.wholePages store.disk < 2 ^ 32)) = true)
    (by simp only [List.all_eq_true, decide_eq_true_eq, Prod.forall, SortedMap.mem_entries_iff,
      Addressable])

/-- Every cached page fits its table and is in the file of the table. -/
structure Sound (store : Store) : Prop where
  catalog : store.catalog.Sound
  locks : store.locks.Sound
  page : ∀ id page, store.cached? id = some page →
    (∃ table, store.catalog.tables.get? id.table = some table ∧ page.Fits table id) ∧
      ((∃ contents, store.stored id = .ok contents) ∨ store.Lost id.table)

variable {store after : Store} {id : PageId} {page : Page} {table : Table}

theorem readPage_congr (catalog : after.catalog = store.catalog) (disk : after.disk = store.disk) :
    after.readPage id = store.readPage id := by
  rw [readPage, readPage, catalog, disk]

theorem stored_congr (same : after.readPage id = store.readPage id) :
    after.stored id = store.stored id := by
  rw [stored, stored, same]

theorem readPage_of_table (registered : store.catalog.tables.get? id.table = some table) :
    store.readPage id = table.readPage store.disk id := by
  rw [readPage, Catalog.table, registered]
  rfl

theorem readPage_of_unregistered (missing : store.catalog.tables.get? id.table = none) :
    store.readPage id = .error (.noSuchTable id.table) := by
  rw [readPage, Catalog.table, missing]
  rfl

theorem Sound.readPage_ok (sound : store.Sound) (run : store.readPage id = .ok page) :
    ∃ table, store.catalog.tables.get? id.table = some table ∧ 0 < table.pageSize ∧
      id.number.toNat < table.wholePages store.disk ∧ page.Fits table id ∧
      page.imageContents = .ok page.contents ∧ page.dirtiedBy = none := by
  cases found : store.catalog.tables.get? id.table with
  | none =>
      rw [readPage_of_unregistered found] at run
      cases run
  | some table =>
      rw [readPage_of_table found] at run
      have own : id.table = table.id := (sound.catalog.identity _ _ found).symm
      rcases Nat.eq_zero_or_pos table.pageSize with unsized | sized
      · rw [Table.readPage_of_unsized own unsized] at run
        cases run
      · rw [Table.readPage_of_counted own sized] at run
        split at run
        · next counted =>
            have inside := Nat.lt_of_lt_of_le counted (table.countedPages_le store.disk)
            have whole := (PageFile.page_inside (table.pages store.disk) _ sized).mp inside
            have length : (table.pageBytes store.disk id.number).length = table.pageSize := by
              have size : (table.pages store.disk).pageSize = table.pageSize := rfl
              rw [size] at whole
              rw [Table.pageBytes, FileBytes.length_slice]
              omega
            obtain ⟨fits, image, clean⟩ := Page.fits_of_decode length run
            exact ⟨table, rfl, sized, inside, fits, image, clean⟩
        · cases run

theorem readPage_of_stored {contents : Contents} (run : store.stored id = .ok contents) :
    ∃ page, store.readPage id = .ok page ∧ page.contents = contents := by
  rw [stored] at run
  cases read : store.readPage id with
  | error error => simp [read, Except.map] at run
  | ok page =>
      rw [read] at run
      exact ⟨page, rfl, Except.ok.inj run⟩

theorem sized_of_lost (lost : store.Lost id.table)
    (registered : store.catalog.tables.get? id.table = some table) :
    0 < table.pageSize ∧ table.wholePages store.disk = 2 ^ 32 := by
  obtain ⟨own, found, whole⟩ := lost
  cases found.symm.trans registered
  exact ⟨Table.sized_of_wholePages (show 0 < table.wholePages store.disk by omega), whole⟩

theorem kept_of_counted (registered : store.catalog.tables.get? table.id = some table)
    (counted : 0 < table.countedPages store.disk) : ¬ store.Lost table.id := by
  rintro ⟨own, found, whole⟩
  cases found.symm.trans registered
  rw [Table.countedPages, whole] at counted
  cases counted

/-- The pages of a table with as many pages as numbers cannot be read. -/
theorem Sound.stored_of_lost (sound : store.Sound) (lost : store.Lost id.table) :
    store.stored id = .error (.pageNotFound id) := by
  have ⟨table, registered, _⟩ := lost
  obtain ⟨sized, whole⟩ := sized_of_lost lost registered
  have own : id.table = table.id := (sound.catalog.identity _ _ registered).symm
  rw [stored, readPage_of_table registered, Table.readPage_of_uncounted own sized whole]
  rfl

theorem Sound.outline_filed (sound : store.Sound) : store.outline.Filed := by
  intro id copy cached
  obtain ⟨page, found, -⟩ := Option.map_eq_some_iff.mp
    (show (store.cached? id).map Page.copy = some copy from cached)
  exact (sound.page id page found).2

theorem Sound.inside (sound : store.Sound) (cached : store.cached? id = some page)
    (registered : store.catalog.tables.get? id.table = some table) :
    0 < table.pageSize ∧ id.number.toNat < table.wholePages store.disk := by
  rcases (sound.page id page cached).2 with ⟨contents, stored⟩ | lost
  · obtain ⟨again, read, -⟩ := readPage_of_stored stored
    obtain ⟨own, found, sized, inside, -⟩ := sound.readPage_ok read
    cases found.symm.trans registered
    exact ⟨sized, inside⟩
  · obtain ⟨sized, whole⟩ := sized_of_lost lost registered
    exact ⟨sized, whole ▸ UInt32.toNat_lt _⟩

theorem Addressable.kept (addressable : store.Addressable) (id : TableId) : ¬ store.Lost id := by
  rintro ⟨table, registered, whole⟩
  have few := addressable id table registered
  omega

/-- As long as the pages of all tables can be numbered, every cached page can be read from
its file. -/
theorem Sound.filed (sound : store.Sound) (addressable : store.Addressable)
    (cached : store.cached? id = some page) : ∃ contents, store.stored id = .ok contents :=
  (sound.page id page cached).2.resolve_right (addressable.kept id.table)

theorem readPage_of_unstored {error : StoreError} (run : store.stored id = .error error) :
    store.readPage id = .error error := by
  rw [stored] at run
  cases read : store.readPage id with
  | error reason =>
      rw [read] at run
      cases run
      rfl
  | ok page =>
      rw [read] at run
      cases run

theorem Sound.kept_of_read (sound : store.Sound) (read : store.readPage id = .ok page) :
    ¬ store.Lost id.table := by
  intro lost
  cases (readPage_of_unstored (sound.stored_of_lost lost)).symm.trans read

theorem cached?_of_frame {frame : Frame} (found : store.frames.get? id = some frame) :
    store.cached? id = some frame.page := by
  rw [cached?, found]
  rfl

theorem cached?_of_missing (missing : store.frames.get? id = none) : store.cached? id = none := by
  rw [cached?, missing]
  rfl

theorem copy_of_cached (cached : store.cached? id = some page) :
    (store.pageState id).cached = some page.copy := by
  rw [pageState, cached]
  rfl

theorem copy_of_uncached (uncached : store.cached? id = none) :
    (store.pageState id).cached = none := by
  rw [pageState, uncached]
  rfl

theorem cached_of_pageState {copy : Copy}
    (cached : (store.pageState id).cached = some copy) :
    ∃ page, store.cached? id = some page ∧ page.copy = copy :=
  Option.map_eq_some_iff.mp cached

theorem Sound.filed_copy (sound : store.Sound) (addressable : store.Addressable) {copy : Copy}
    (cached : (store.pageState id).cached = some copy) :
    ∃ contents, (store.pageState id).stored = .ok contents := by
  obtain ⟨page, found, -⟩ := cached_of_pageState cached
  exact sound.filed addressable found

end Store

end TableStore
