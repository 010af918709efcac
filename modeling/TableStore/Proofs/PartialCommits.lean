import TableStore.Proofs.Rollbacks

/-!
# Commits in which writes fail

Tables may leave the catalog and come back while pages of them are changed, and files may
refuse bytes, so a commit comes to pages that it cannot write.  Whether a page can be
written does not depend on the pages that the commit came to before: each page that can
be written is, the others stay changed and are noted, and the answer is the error of the
first one.  Nothing else is touched, and the transaction ends in any case.
-/

set_option autoImplicit false

namespace TableStore

theorem Page.dirtiedBy_captured (page : Page) : page.captured.dirtiedBy = page.dirtiedBy := by
  rw [Page.captured, Page.capture]
  cases page.encode <;> rfl

namespace Table

variable {table : Table} {disk after : Disk} {number : UInt32} {data : Bytes}

theorem read_congr (same : table.pageBytes after number = table.pageBytes disk number)
    (read : (table.pages disk).read number table.pageSize = .ok data) :
    (table.pages after).read number table.pageSize = .ok data := by
  have length := @PageFile.length_of_read (table.pages disk) _ _ read
  obtain ⟨-, rfl⟩ := PageFile.read_eq_ok_iff.mp (show (table.pages disk).read number
    (table.pages disk).pageSize = .ok data from read)
  refine PageFile.read_eq_ok_iff.mpr ⟨?_, same.symm⟩
  change (table.pageBytes disk number).length = table.pageSize at length
  rw [← same, pageBytes, FileBytes.length_slice] at length
  change number.toNat * table.pageSize + table.pageSize ≤ (table.pages after).content.length
  rcases Nat.eq_zero_or_pos table.pageSize with unsized | sized
  · rw [unsized]
    exact Nat.zero_le _
  · change min table.pageSize (_ - number.toNat * table.pageSize) = table.pageSize at length
    omega

/-- The bytes of a page are changed by no write to another page of the known tables. -/
theorem pageBytes_write {known : Catalog} (sound : known.Sound) {other : Table} {id place : PageId}
    {file : PageFile} (own : known.tables.get? id.table = some table)
    (others : known.tables.get? place.table = some other) (different : place ≠ id)
    (run : (table.pages disk).write id.number data = .ok file) :
    other.pageBytes (disk.insert table.file file.content) place.number =
      other.pageBytes disk place.number := by
  by_cases shared : other.file = table.file
  · have tables : place.table = id.table := sound.files _ _ _ _ others own shared
    rw [tables, own] at others
    cases others
    have numbers : place.number ≠ id.number := fun same =>
      different (PageId.eq_of_parts tables same)
    have slices := PageFile.slice_write_other run numbers
    obtain ⟨-, -, rfl⟩ := PageFile.write_eq_ok_iff.mp run
    rw [pageBytes, pages_insert_same]
    exact slices
  · rw [pageBytes, pages_insert_other shared]
    rfl

end Table

namespace Store

variable {known : Catalog} {store middle after : Store} {txn : TxnId} {id other : PageId}
  {page : Page} {error : StoreError}

/-! ## Known tables -/

/-- The tables of the catalog are known ones, and so are those of the cached pages, which
are all in their files. -/
structure Housed (known : Catalog) (store : Store) : Prop where
  tables : ∀ id table, store.catalog.tables.get? id = some table →
    known.tables.get? id = some table
  pages : ∀ id page, store.cached? id = some page → ∃ table,
    known.tables.get? id.table = some table ∧ page.Fits table id ∧
      (id.number.toNat + 1) * table.pageSize ≤ ((store.disk.get? table.file).getD ∅).length

theorem Housed.fitting (housed : store.Housed known) : store.Fitting := by
  intro id page cached
  obtain ⟨table, -, fits, -⟩ := housed.pages id page cached
  exact ⟨table, fits⟩

/-- Files that grow and pages that fit where they did leave every page in its file. -/
theorem Housed.keeps (housed : store.Housed known)
    (tables : ∀ id table, after.catalog.tables.get? id = some table →
      known.tables.get? id = some table)
    (disk : store.disk.GrowsTo after.disk)
    (pages : ∀ id page, after.cached? id = some page → ∃ before, store.cached? id = some before ∧
      ∀ table, before.Fits table id → page.Fits table id) : after.Housed known where
  tables := tables
  pages := by
    intro id page cached
    obtain ⟨before, found, fits⟩ := pages id page cached
    obtain ⟨table, registered, fitted, inside⟩ := housed.pages id before found
    exact ⟨table, registered, fits table fitted, Nat.le_trans inside (disk table.file)⟩

theorem Housed.around (housed : store.Housed known)
    (tables : ∀ id table, after.catalog.tables.get? id = some table →
      known.tables.get? id = some table)
    (disk : store.disk.GrowsTo after.disk) (frames : after.frames = store.frames) :
    after.Housed known := by
  apply housed.keeps tables disk
  intro id page cached
  rw [cached?, frames] at cached
  exact ⟨page, cached, fun _ fits => fits⟩

/-- Pages that come into the cache were just read from the files of known tables. -/
theorem Housed.steps {before later : Store × List Handle} (housed : before.1.Housed known)
    (steps : CacheSteps before later) : later.1.Housed known where
  tables := by
    rw [steps.lasts.catalog]
    exact housed.tables
  pages := by
    intro id page cached
    obtain ⟨frame, found, rfl⟩ := Option.map_eq_some_iff.mp cached
    rcases steps.frame housed.fitting found with ⟨old, had, -, fits⟩ | took
    · obtain ⟨table, registered, fitted, inside⟩ :=
        housed.pages id old.page (cached?_of_frame had)
      exact ⟨table, registered, fits table fitted,
        Nat.le_trans inside (steps.lasts.disk table.file)⟩
    · obtain ⟨table, registered, fitted, inside⟩ := took.table
      exact ⟨table, housed.tables _ _ registered, fitted, inside⟩

theorem Housed.edits (housed : store.Housed known) (edits : Edits store after) :
    after.Housed known :=
  housed.steps (edits.steps [])

/-! ## One page -/

def refusal? (store : Store) (id : PageId) : Option StoreError :=
  match store.catalog.tables.get? id.table with
  | none => some (.noSuchTable id.table)
  | some _ => (store.unwritable.get? id).map fun text => .io (.other text)

theorem refusal?_congr (catalog : after.catalog = store.catalog)
    (unwritable : after.unwritable = store.unwritable) : after.refusal? = store.refusal? := by
  funext id
  rw [refusal?, refusal?, catalog, unwritable]

/-- The file of a registered table takes each cached page of the table. -/
theorem Housed.takes (housed : store.Housed known) (sound : known.Sound) {table : Table}
    (cached : store.cached? id = some page)
    (registered : store.catalog.tables.get? id.table = some table) :
    ∃ bytes file, page.Fits table id ∧ table.id = id.table ∧ page.encode = .ok bytes ∧
      (table.pages store.disk).write id.number bytes = .ok file := by
  have listed := housed.tables _ _ registered
  obtain ⟨form, found, fits, inside⟩ := housed.pages id page cached
  cases listed.symm.trans found
  obtain ⟨bytes, encoded, length, -⟩ := fits.sound.encode_decode
  have place : (table.pages store.disk).offset id.number ≤
      (table.pages store.disk).content.length :=
    Nat.le_trans (Nat.mul_le_mul_right _ (Nat.le_succ _)) inside
  exact ⟨bytes, _, fits, sound.identity _ _ listed, encoded,
    PageFile.write_eq_ok_iff.mpr ⟨length.trans fits.size, place, rfl⟩⟩

theorem Housed.writeBack_of_refused (housed : store.Housed known) (sound : known.Sound)
    (cached : store.cached? id = some page) (dirty : page.dirtiedBy = some txn)
    (refused : store.refusal? id = some error) : store.writeBack page = .error error := by
  unfold refusal? at refused
  cases registered : store.catalog.tables.get? id.table with
  | none =>
      rw [registered] at refused
      cases refused
      simp only [writeBack, dirty, Catalog.table, housed.fitting.id_eq cached, registered, bind,
        Except.bind]
  | some table =>
      rw [registered] at refused
      obtain ⟨text, blocked, rfl⟩ := Option.map_eq_some_iff.mp refused
      obtain ⟨bytes, file, fits, own, encoded, written⟩ := housed.takes sound cached registered
      simp only [writeBack, dirty, Catalog.table, fits.id, registered, Table.writePage,
        Table.checkPage, own, if_true, encoded, written, blocked, bind, Except.bind]

theorem Housed.writeBack_of_writable (housed : store.Housed known) (sound : known.Sound)
    (cached : store.cached? id = some page) (dirty : page.dirtiedBy = some txn)
    (writable : store.refusal? id = none) : ∃ table bytes file,
      store.catalog.tables.get? id.table = some table ∧ page.Fits table id ∧
        page.encode = .ok bytes ∧ (table.pages store.disk).write id.number bytes = .ok file ∧
        store.writeBack page = .ok (page.mark false txn,
          { store with
            disk := store.disk.insert table.file file.content
            unflushed := store.unflushed.erase id }) := by
  unfold refusal? at writable
  cases registered : store.catalog.tables.get? id.table with
  | none =>
      rw [registered] at writable
      cases writable
  | some table =>
      rw [registered] at writable
      have free := Option.map_eq_none_iff.mp writable
      obtain ⟨bytes, file, fits, own, encoded, written⟩ := housed.takes sound cached registered
      refine ⟨table, bytes, file, rfl, fits, encoded, written, ?_⟩
      simp only [writeBack, dirty, Catalog.table, fits.id, registered, Table.writePage,
        Table.checkPage, own, if_true, encoded, written, free, bind, Except.bind, pure,
        Except.pure]

structure Untouched (known : Catalog) (store after : Store) (id : PageId) : Prop where
  frame : after.frames.get? id = store.frames.get? id
  noted : after.unflushed.contains id = store.unflushed.contains id
  bytes : ∀ table, known.tables.get? id.table = some table →
    table.pageBytes after.disk id.number = table.pageBytes store.disk id.number

theorem Untouched.refl (known : Catalog) (store : Store) (id : PageId) :
    Untouched known store store id :=
  ⟨rfl, rfl, fun _ _ => rfl⟩

theorem Untouched.trans (first : Untouched known store middle id)
    (second : Untouched known middle after id) : Untouched known store after id where
  frame := second.frame.trans first.frame
  noted := second.noted.trans first.noted
  bytes table listed := (second.bytes table listed).trans (first.bytes table listed)

theorem Untouched.cached (untouched : Untouched known store after id) :
    after.cached? id = store.cached? id := by
  rw [cached?, cached?, untouched.frame]

structure Intact (known : Catalog) (store after : Store) (id : PageId) : Prop where
  cached : ∀ page, store.cached? id = some page → ∃ last, after.cached? id = some last ∧
    page.SameRows last ∧ last.dirtiedBy = page.dirtiedBy
  noted : after.unflushed.contains id = store.unflushed.contains id
  bytes : ∀ table, known.tables.get? id.table = some table →
    table.pageBytes after.disk id.number = table.pageBytes store.disk id.number

theorem Intact.trans (first : Intact known store middle id)
    (second : Intact known middle after id) : Intact known store after id where
  cached := by
    intro page found
    obtain ⟨old, between, rows, mark⟩ := first.cached page found
    obtain ⟨last, cached, same, kept⟩ := second.cached old between
    exact ⟨last, cached, rows.trans same, kept.trans mark⟩
  noted := second.noted.trans first.noted
  bytes table listed := (second.bytes table listed).trans (first.bytes table listed)

theorem Untouched.intact (untouched : Untouched known store after id) :
    Intact known store after id where
  cached page found := ⟨page, untouched.cached.trans found, .refl page, rfl⟩
  noted := untouched.noted
  bytes := untouched.bytes

/-- A page of a transaction was written: it counts as unchanged, and its rows are those
that its file has. -/
structure Written (store after : Store) (id : PageId) (page : Page) : Prop where
  cached : ∃ last, after.cached? id = some last ∧ page.SameRows last ∧ last.dirtiedBy = none
  noted : after.unflushed.contains id = false
  stored : ∃ table bytes again, store.catalog.tables.get? id.table = some table ∧
    (table.pages after.disk).read id.number table.pageSize = .ok bytes ∧
    Page.decode id table.schema table.pageSize bytes = .ok again ∧
    again.contents = page.contents

/-- A page of a transaction could not be written: it counts as changed, and is noted. -/
structure Refused (known : Catalog) (store after : Store) (id : PageId) (page : Page) : Prop where
  cached : ∃ last, after.cached? id = some last ∧ page.SameRows last ∧
    last.dirtiedBy = page.dirtiedBy
  noted : after.unflushed.contains id = true
  bytes : ∀ table, known.tables.get? id.table = some table →
    table.pageBytes after.disk id.number = table.pageBytes store.disk id.number

theorem Housed.flushCommitted_of_refused (housed : store.Housed known) (sound : known.Sound)
    (cached : store.cached? id = some page) (dirty : page.dirtiedBy = some txn)
    (refused : store.refusal? id = some error) : store.flushCommitted id =
      (.error error, { store with unflushed := store.unflushed.add id }) := by
  have failed := housed.writeBack_of_refused sound cached dirty refused
  rw [flushCommitted, cached]
  simp only [failed]

theorem Housed.flushCommitted_of_writable (housed : store.Housed known) (sound : known.Sound)
    (cached : store.cached? id = some page) (dirty : page.dirtiedBy = some txn)
    (writable : store.refusal? id = none) : ∃ table bytes file,
      store.catalog.tables.get? id.table = some table ∧ page.Fits table id ∧
        page.encode = .ok bytes ∧ (table.pages store.disk).write id.number bytes = .ok file ∧
        store.flushCommitted id = (.ok (),
          { store with
            disk := store.disk.insert table.file file.content
            unflushed := store.unflushed.erase id
            frames := store.frames.modify id fun frame =>
              { frame with page := (page.mark false txn).captured } }) := by
  obtain ⟨table, bytes, file, registered, fits, encoded, written, wrote⟩ :=
    housed.writeBack_of_writable sound cached dirty writable
  refine ⟨table, bytes, file, registered, fits, encoded, written, ?_⟩
  obtain ⟨captured, -, captures⟩ := (fits.mark false txn).captured
  rw [flushCommitted, cached]
  simp only [wrote, captures, setPage, captured.id]

/-- The page is written or noted, and that alone decides the answer. -/
theorem Housed.flushes (housed : store.Housed known) (sound : known.Sound)
    (cached : store.cached? id = some page) (dirty : page.dirtiedBy = some txn) :
    (store.refusal? id = none ∧ (store.flushCommitted id).1 = .ok () ∧
      Written store (store.flushCommitted id).2 id page) ∨
    ∃ error, store.refusal? id = some error ∧ (store.flushCommitted id).1 = .error error ∧
      Refused known store (store.flushCommitted id).2 id page := by
  cases refused : store.refusal? id with
  | some error =>
      have run := housed.flushCommitted_of_refused sound cached dirty refused
      refine .inr ⟨error, rfl, ?_, ?_⟩
      · rw [run]
      · rw [run]
        refine ⟨⟨page, cached, .refl page, rfl⟩, ?_, fun _ _ => rfl⟩
        rw [SortedMap.contains_add, decide_eq_true rfl, Bool.true_or]
  | none =>
      obtain ⟨table, bytes, file, registered, fits, encoded, written, run⟩ :=
        housed.flushCommitted_of_writable sound cached dirty refused
      refine .inl ⟨rfl, ?_, ?_⟩
      · rw [run]
      · rw [run]
        obtain ⟨frame, found, rfl⟩ := Option.map_eq_some_iff.mp cached
        refine ⟨⟨(frame.page.mark false txn).captured, ?_, ?_, ?_⟩, ?_, ?_⟩
        · rw [cached?, SortedMap.get?_modify, if_pos rfl, found]
          rfl
        · exact (Page.SameRows.mark frame.page false txn).trans (.captured _)
        · exact Page.dirtiedBy_captured _
        · rw [SortedMap.contains_erase, decide_eq_true rfl]
          rfl
        · obtain ⟨data, encodes, -, again, decoded, contents⟩ := fits.sound.encode_decode
          cases encoded.symm.trans encodes
          rw [fits.id, fits.schema, fits.size] at decoded
          refine ⟨table, bytes, again, registered, ?_, decoded, contents⟩
          have back := PageFile.read_write_same written
          obtain ⟨-, -, rfl⟩ := PageFile.write_eq_ok_iff.mp written
          rw [Table.pages_insert_same]
          exact back

theorem Housed.flush_spares (housed : store.Housed known) (sound : known.Sound)
    (cached : store.cached? id = some page) (dirty : page.dirtiedBy = some txn)
    (different : other ≠ id) : Untouched known store (store.flushCommitted id).2 other := by
  cases refused : store.refusal? id with
  | some error =>
      rw [housed.flushCommitted_of_refused sound cached dirty refused]
      refine ⟨rfl, ?_, fun _ _ => rfl⟩
      rw [SortedMap.contains_add, decide_eq_false different, Bool.false_or]
  | none =>
      obtain ⟨table, bytes, file, registered, -, -, written, run⟩ :=
        housed.flushCommitted_of_writable sound cached dirty refused
      rw [run]
      refine ⟨?_, ?_, ?_⟩
      · rw [SortedMap.get?_modify, if_neg different]
      · rw [SortedMap.contains_erase, decide_eq_false different]
        rfl
      · intro own listed
        exact Table.pageBytes_write sound (housed.tables _ _ registered) listed different written

/-! ## All pages of a transaction -/

/-- What comes of a page depends on whether it could be written before the first page
was. -/
structure Settled (known : Catalog) (store after : Store) (id : PageId) (page : Page) : Prop where
  written : store.refusal? id = none → Written store after id page
  refused : ∀ error, store.refusal? id = some error → Refused known store after id page

theorem Settled.intact (settled : Settled known store middle id page)
    (tables : ∀ id table, store.catalog.tables.get? id = some table →
      known.tables.get? id = some table)
    (intact : Intact known middle after id) : Settled known store after id page where
  written := by
    intro writable
    obtain ⟨⟨last, cached, rows, clean⟩, noted, table, bytes, again, registered, read, decoded⟩ :=
      settled.written writable
    obtain ⟨final, found, same, mark⟩ := intact.cached last cached
    refine ⟨⟨final, found, rows.trans same, mark.trans clean⟩, intact.noted.trans noted,
      table, bytes, again, registered, ?_, decoded⟩
    exact Table.read_congr (intact.bytes table (tables _ _ registered)) read
  refused := by
    intro error refused
    obtain ⟨⟨last, cached, rows, dirty⟩, noted, bytes⟩ := settled.refused error refused
    obtain ⟨final, found, same, mark⟩ := intact.cached last cached
    refine ⟨⟨final, found, rows.trans same, mark.trans dirty⟩, intact.noted.trans noted, ?_⟩
    intro table listed
    exact (intact.bytes table listed).trans (bytes table listed)

theorem Settled.before (settled : Settled known middle after id page)
    (untouched : Untouched known store middle id) (catalog : middle.catalog = store.catalog)
    (unwritable : middle.unwritable = store.unwritable) : Settled known store after id page where
  written := by
    intro writable
    rw [← refusal?_congr catalog unwritable] at writable
    obtain ⟨cached, noted, stored⟩ := settled.written writable
    exact ⟨cached, noted, catalog ▸ stored⟩
  refused := by
    intro error refused
    rw [← refusal?_congr catalog unwritable] at refused
    obtain ⟨cached, noted, bytes⟩ := settled.refused error refused
    exact ⟨cached, noted, fun table listed =>
      (bytes table listed).trans (untouched.bytes table listed)⟩

/-- Each page comes to the same as if it were the only one, and the first page that
cannot be written gives the answer. -/
theorem Housed.flushesEach (housed : store.Housed known) (sound : known.Sound)
    {ids : List PageId} (distinct : ids.Nodup)
    (dirty : ∀ id ∈ ids, ∃ page, store.cached? id = some page ∧ page.dirtiedBy = some txn) :
    (flushCommittedEach ids store).1 = (ids.findSome? store.refusal?).elim (.ok ()) .error ∧
    (∀ id ∈ ids, ∀ page, store.cached? id = some page →
      Settled known store (flushCommittedEach ids store).2 id page) ∧
    ∀ id ∉ ids, Untouched known store (flushCommittedEach ids store).2 id := by
  induction ids generalizing store with
  | nil => exact ⟨rfl, nofun, fun id _ => .refl known store id⟩
  | cons first ids ih =>
      obtain ⟨fresh, distinct⟩ := List.nodup_cons.mp distinct
      obtain ⟨page, cached, changed⟩ := dirty first List.mem_cons_self
      have edits : Edits store (store.flushCommitted first).2 := housed.fitting.flushCommitted first
      have stays := edits.stays
      have spared (id : PageId) (different : id ≠ first) :=
        housed.flush_spares sound cached changed different
      have apart (id : PageId) (member : id ∈ ids) : id ≠ first := fun same =>
        fresh (same ▸ member)
      obtain ⟨answer, settled, untouched⟩ := ih (housed.edits edits) distinct (by
        intro id member
        obtain ⟨other, known, marked⟩ := dirty id (List.mem_cons_of_mem _ member)
        exact ⟨other, (spared id (apart id member)).cached.trans known, marked⟩)
      have outcome := housed.flushes sound cached changed
      rw [refusal?_congr stays.catalog stays.unwritable] at answer
      refine ⟨?_, ?_, ?_⟩
      · rw [flushCommittedEach, List.findSome?_cons]
        rcases outcome with ⟨writable, done, -⟩ | ⟨error, refused, failed, -⟩
        · simp only [done, firstError, answer, writable]
        · simp only [failed, firstError, refused, Option.elim_some]
      · intro id member old found
        by_cases here : id = first
        · subst here
          cases cached.symm.trans found
          have alone : Settled known store (store.flushCommitted id).2 id page := by
            rcases outcome with ⟨writable, -, written⟩ | ⟨error, refused, -, kept⟩
            · refine ⟨fun _ => written, ?_⟩
              intro error refused
              cases writable.symm.trans refused
            · refine ⟨?_, fun _ _ => kept⟩
              intro writable
              cases refused.symm.trans writable
          exact alone.intact housed.tables (untouched id fresh).intact
        · have later := (List.mem_cons.mp member).resolve_left here
          exact (settled id later old ((spared id here).cached.trans found)).before
            (spared id here) stays.catalog stays.unwritable
      · intro id outside
        have different : id ≠ first := fun same => outside (same ▸ List.mem_cons_self)
        exact (spared id different).trans
          (untouched id fun member => outside (List.mem_cons_of_mem _ member))

/-! ## Commits -/

theorem Housed.writeBack_error_iff (housed : store.Housed known) (sound : known.Sound)
    (cached : store.cached? id = some page) (dirty : page.dirtiedBy = some txn) :
    store.writeBack page = .error error ↔ store.refusal? id = some error := by
  constructor
  · intro failed
    cases refused : store.refusal? id with
    | some other =>
        cases failed.symm.trans (housed.writeBack_of_refused sound cached dirty refused)
        rfl
    | none =>
        obtain ⟨_, _, _, -, -, -, -, wrote⟩ :=
          housed.writeBack_of_writable sound cached dirty refused
        cases failed.symm.trans wrote
  · exact housed.writeBack_of_refused sound cached dirty

theorem Housed.writable_iff (housed : store.Housed known) (sound : known.Sound)
    (cached : store.cached? id = some page) (dirty : page.dirtiedBy = some txn) :
    (∃ written, store.writeBack page = .ok written) ↔ store.refusal? id = none := by
  constructor
  · rintro ⟨written, wrote⟩
    cases refused : store.refusal? id with
    | none => rfl
    | some error => cases wrote.symm.trans (housed.writeBack_of_refused sound cached dirty refused)
  · intro writable
    obtain ⟨_, _, _, -, -, -, -, wrote⟩ :=
      housed.writeBack_of_writable sound cached dirty writable
    exact ⟨_, wrote⟩

theorem capturePage_eq (store : Store) (id : PageId) :
    store.capturePage id = { store with frames := (store.capturePage id).frames } := by
  unfold capturePage
  split
  · rfl
  · split <;> rfl

theorem captureEach_eq (ids : List PageId) (store : Store) : ids.foldl capturePage store =
    { store with frames := (ids.foldl capturePage store).frames } := by
  induction ids generalizing store with
  | nil => rfl
  | cons id ids ih =>
      rw [List.foldl_cons, ih, capturePage_eq]

theorem Stays.frame_eq (stays : Stays store after) (same : after.cached? id = store.cached? id) :
    after.frames.get? id = store.frames.get? id := by
  have hold := stays.hold id
  rw [cached?, cached?] at same
  cases new : after.frames.get? id with
  | none =>
      rw [new] at hold
      cases old : store.frames.get? id with
      | none => rfl
      | some frame =>
          rw [old] at hold
          cases hold
  | some last =>
      rw [new] at hold same
      cases old : store.frames.get? id with
      | none =>
          rw [old] at hold
          cases hold
      | some frame =>
          rw [old] at hold same
          cases last
          cases frame
          cases hold
          cases same
          rfl

/-- What a commit answers and leaves. -/
structure Commits (known : Catalog) (store : Store) (txn : TxnId)
    (answer : Except StoreError Unit) (after : Store) : Prop where
  written : ∀ id page, store.cached? id = some page → page.dirtiedBy = some txn →
    (∃ written, store.writeBack page = .ok written) → Written store after id page
  refused : ∀ id page error, store.cached? id = some page → page.dirtiedBy = some txn →
    store.writeBack page = .error error → Refused known store after id page
  captured : ∀ id page, store.cached? id = some page →
    store.locks.mode? txn id = some .exclusive → ∃ last restored,
      after.cached? id = some last ∧ page.SameRows last ∧
        Page.decode last.id last.schema last.size last.image = .ok restored ∧
        restored.contents = last.contents
  unmarked : ∀ id, (∀ page, store.cached? id = some page → page.dirtiedBy ≠ some txn) →
    Intact known store after id ∧
      (store.locks.mode? txn id ≠ some .exclusive → Untouched known store after id)
  released : (∀ page, after.locks.mode? txn page = none) ∧ after.locks.waiting.get? txn = none
  others : ∀ other, other ≠ txn →
    (∀ page, after.locks.mode? other page = store.locks.mode? other page) ∧
      after.locks.waiting.get? other = store.locks.waiting.get? other
  ok : answer = .ok () ↔ ∀ id page, store.cached? id = some page → page.dirtiedBy = some txn →
    ∃ written, store.writeBack page = .ok written
  error : ∀ error, answer = .error error ↔
    ∃ id page, store.cached? id = some page ∧ page.dirtiedBy = some txn ∧
      store.writeBack page = .error error ∧
      ∀ other failed, store.cached? other = some failed → failed.dirtiedBy = some txn →
        (∃ later, store.writeBack failed = .error later) → compare id other ≠ .gt

theorem Housed.captureEach_intact (housed : store.Housed known) {ids : List PageId}
    (distinct : ids.Nodup) (id : PageId) :
    Intact known store (ids.foldl capturePage store) id := by
  have frames := housed.fitting.cached_captureEach distinct id
  rw [captureEach_eq] at frames ⊢
  refine ⟨?_, rfl, fun _ _ => rfl⟩
  intro page cached
  rw [cached] at frames
  split at frames
  · exact ⟨page.captured, frames, .captured page, Page.dirtiedBy_captured page⟩
  · exact ⟨page, frames, .refl page, rfl⟩

/-- The first of the pages, in increasing order, for which there is an error. -/
theorem findSome?_eq_some_iff_least {ids : List PageId}
    (increasing : ids.Pairwise fun a b => compare a b = .lt) (fails : PageId → Option StoreError) :
    ids.findSome? fails = some error ↔ ∃ id ∈ ids, fails id = some error ∧
      ∀ other ∈ ids, fails other ≠ none → compare id other ≠ .gt := by
  rw [List.findSome?_eq_some_iff]
  constructor
  · rintro ⟨before, id, behind, rfl, failed, fine⟩
    refine ⟨id, by simp, failed, ?_⟩
    intro other member broken
    rw [List.pairwise_append] at increasing
    rcases List.mem_append.mp member with earlier | later
    · exact absurd (fine other earlier) broken
    · rcases List.mem_cons.mp later with rfl | last
      · simp [Std.ReflCmp.compare_self]
      · rw [(List.pairwise_cons.mp increasing.2.1).1 other last]
        decide
  · rintro ⟨id, member, failed, least⟩
    obtain ⟨before, behind, rfl⟩ := List.append_of_mem member
    refine ⟨before, id, behind, rfl, failed, ?_⟩
    intro other earlier
    by_contra broken
    have less : compare other id = .lt :=
      (List.pairwise_append.mp increasing).2.2 other earlier id List.mem_cons_self
    have more : compare id other = .gt := Std.OrientedCmp.gt_iff_lt.mpr less
    exact least other (List.mem_append_left _ earlier) broken more

/-- Pages that a transaction does not hold exclusively are not captured when it ends. -/
theorem Housed.captures_spare (housed : store.Housed known) (locks : store.locks.Sound)
    (free : store.locks.mode? txn id ≠ some .exclusive) :
    Untouched known store ((store.exclusivePages txn).foldl capturePage store) id := by
  have distinct : (store.exclusivePages txn).Nodup := nodup_exclusivePages
  have outside : id ∉ store.exclusivePages txn := fun member =>
    free ((mem_exclusivePages locks).mp member).1
  have cached := housed.fitting.cached_captureEach distinct id
  rw [if_neg outside] at cached
  have frame := (edits_captureEach (store.exclusivePages txn) store).stays.frame_eq cached
  rw [captureEach_eq] at frame ⊢
  exact ⟨frame, rfl, fun _ _ => rfl⟩

/-- A captured page is rolled back to its own rows. -/
theorem Housed.captures (housed : store.Housed known) (locks : store.locks.Sound)
    (cached : store.cached? id = some page)
    (exclusive : store.locks.mode? txn id = some .exclusive) : ∃ restored,
      ((store.exclusivePages txn).foldl capturePage store).cached? id = some page.captured ∧
        Page.decode page.captured.id page.captured.schema page.captured.size
          page.captured.image = .ok restored ∧
        restored.contents = page.captured.contents := by
  have distinct : (store.exclusivePages txn).Nodup := nodup_exclusivePages
  have inside : id ∈ store.exclusivePages txn :=
    (mem_exclusivePages locks).mpr ⟨exclusive, by simp [cached]⟩
  have after := housed.fitting.cached_captureEach distinct id
  rw [if_pos inside, cached, Option.map_some] at after
  obtain ⟨table, fits⟩ := housed.fitting id page cached
  obtain ⟨bytes, encoded, -, restored, decoded, contents⟩ :=
    fits.captured.1.sound.encode_decode
  cases fits.encode_captured.symm.trans encoded
  exact ⟨restored, after, decoded, contents⟩

theorem Housed.commit_ok_iff (housed : store.Housed known) (sound : known.Sound)
    (txn : TxnId) : (store.commit txn).1 = .ok () ↔
      ∀ id page, store.cached? id = some page → page.dirtiedBy = some txn →
        ∃ written, store.writeBack page = .ok written := by
  have answer : (store.commit txn).1 =
      ((store.dirtyPages txn).findSome? store.refusal?).elim (.ok ()) .error :=
    (housed.flushesEach sound (SortedMap.nodup_keys _) fun _ => mem_dirtyPages_iff.mp).1
  have ok (failure : Option StoreError) :
      failure.elim (.ok ()) .error = (.ok () : Except StoreError Unit) ↔ failure = none := by
    cases failure <;> simp
  rw [answer, ok, List.findSome?_eq_none_iff]
  constructor
  · intro writable id page cached dirty
    exact (housed.writable_iff sound cached dirty).mpr
      (writable id (mem_dirtyPages_iff.mpr ⟨page, cached, dirty⟩))
  · intro writes id member
    obtain ⟨page, cached, dirty⟩ := mem_dirtyPages_iff.mp member
    exact (housed.writable_iff sound cached dirty).mp (writes id page cached dirty)

theorem Housed.commit_error_iff (housed : store.Housed known) (sound : known.Sound)
    (txn : TxnId) (error : StoreError) : (store.commit txn).1 = .error error ↔
      ∃ id page, store.cached? id = some page ∧ page.dirtiedBy = some txn ∧
        store.writeBack page = .error error ∧
        ∀ other failed, store.cached? other = some failed → failed.dirtiedBy = some txn →
          (∃ later, store.writeBack failed = .error later) → compare id other ≠ .gt := by
  have answer : (store.commit txn).1 =
      ((store.dirtyPages txn).findSome? store.refusal?).elim (.ok ()) .error :=
    (housed.flushesEach sound (SortedMap.nodup_keys _) fun _ => mem_dirtyPages_iff.mp).1
  have failed (failure : Option StoreError) :
      failure.elim (.ok ()) .error = (.error error : Except StoreError Unit) ↔
        failure = some error := by
    cases failure <;> simp
  have increasing : (store.dirtyPages txn).Pairwise fun a b => compare a b = .lt :=
    SortedMap.keys_increasing _
  rw [answer, failed, findSome?_eq_some_iff_least increasing]
  constructor
  · rintro ⟨id, member, refused, least⟩
    obtain ⟨page, cached, dirty⟩ := mem_dirtyPages_iff.mp member
    refine ⟨id, page, cached, dirty, housed.writeBack_of_refused sound cached dirty refused, ?_⟩
    rintro other broken found marked ⟨later, fails⟩
    apply least other (mem_dirtyPages_iff.mpr ⟨broken, found, marked⟩)
    rw [(housed.writeBack_error_iff sound found marked).mp fails]
    exact Option.some_ne_none later
  · rintro ⟨id, page, cached, dirty, fails, least⟩
    refine ⟨id, mem_dirtyPages_iff.mpr ⟨page, cached, dirty⟩,
      (housed.writeBack_error_iff sound cached dirty).mp fails, ?_⟩
    intro other member refused
    obtain ⟨broken, found, marked⟩ := mem_dirtyPages_iff.mp member
    obtain ⟨later, known⟩ := Option.ne_none_iff_exists'.mp refused
    exact least other broken found marked
      ⟨later, housed.writeBack_of_refused sound found marked known⟩

theorem Housed.commits (housed : store.Housed known) (sound : known.Sound)
    (locks : store.locks.Sound) (txn : TxnId) :
    Commits known store txn (store.commit txn).1 (store.commit txn).2 := by
  obtain ⟨-, settled, untouched⟩ := housed.flushesEach sound (SortedMap.nodup_keys _)
    fun id (member : id ∈ store.dirtyPages txn) => mem_dirtyPages_iff.mp member
  have edits : Edits store (store.flushTransaction txn).2 := housed.fitting.flushCommittedEach _
  have flushed := housed.edits edits
  have sameLocks : (store.flushTransaction txn).2.locks = store.locks :=
    locks_flushCommittedEach _ store
  have middle : (store.flushTransaction txn).2.locks.Sound := sameLocks ▸ locks
  have intact (id : PageId) :
      Intact known (store.flushTransaction txn).2 (store.commit txn).2 id :=
    have captured := flushed.captureEach_intact nodup_exclusivePages id
    ⟨captured.cached, captured.noted, captured.bytes⟩
  have ends {id : PageId} {page : Page} (cached : store.cached? id = some page)
      (dirty : page.dirtiedBy = some txn) :
      Settled known store (store.commit txn).2 id page :=
    (settled id (mem_dirtyPages_iff.mpr ⟨page, cached, dirty⟩) page cached).intact
      housed.tables (intact id)
  refine ⟨?_, ?_, ?_, ?_, ?_, ?_, housed.commit_ok_iff sound txn, housed.commit_error_iff sound txn⟩
  · intro id page cached dirty writes
    exact (ends cached dirty).written ((housed.writable_iff sound cached dirty).mp writes)
  · intro id page error cached dirty fails
    exact (ends cached dirty).refused error
      ((housed.writeBack_error_iff sound cached dirty).mp fails)
  · intro id page cached exclusive
    obtain ⟨old, known, rows, -⟩ := housed.fitting.cached_flushCommittedEach
      (store.dirtyPages txn) cached
    rw [← sameLocks] at exclusive
    obtain ⟨restored, after, decoded, contents⟩ := flushed.captures middle known exclusive
    exact ⟨old.captured, restored, after, rows.trans (.captured old), decoded, contents⟩
  · intro id clean
    have outside : id ∉ store.dirtyPages txn := by
      intro member
      obtain ⟨page, cached, dirty⟩ := mem_dirtyPages_iff.mp member
      exact clean page cached dirty
    refine ⟨(untouched id outside).intact.trans (intact id), ?_⟩
    intro free
    rw [← sameLocks] at free
    have spared := flushed.captures_spare middle free
    exact (untouched id outside).trans ⟨spared.frame, spared.noted, spared.bytes⟩
  · rw [locks_commit]
    refine ⟨?_, ?_⟩
    · intro page
      rw [LockTable.mode?_releaseAll locks, if_pos rfl]
    · rw [LockTable.waiting_releaseAll, SortedMap.get?_erase, if_pos rfl]
  · intro other different
    rw [locks_commit]
    refine ⟨?_, ?_⟩
    · intro page
      rw [LockTable.mode?_releaseAll locks, if_neg different]
    · rw [LockTable.waiting_releaseAll, SortedMap.get?_erase, if_neg different]

end Store

namespace System

/-- Of all that is done to a system, what is registered is a known table, and the files
that it gets are no shorter than those that it had. -/
def Within (known : Catalog) : System → List Use → Prop
  | _, [] => True
  | system, use :: uses =>
      (match use with
        | .register table _ => known.tables.get? table.id = some table
        | .files disk => system.store.disk.GrowsTo disk
        | _ => True) ∧ Within known (system.use use) uses

variable {known : Catalog} {system : System}

theorem housed_use (housed : system.store.Housed known) (use : Use)
    (within : Within known system [use]) : (system.use use).store.Housed known := by
  have fitting := housed.fitting
  cases use with
  | act action =>
      rcases perform_cases fitting action with steps | ⟨unwritable, same⟩
      · exact housed.steps steps
      · have store := congrArg Prod.fst same
        change (system.perform action).store = _ at store
        rw [System.use, store]
        exact housed.around housed.tables (.refl _) rfl
  | commit txn => exact housed.edits (fitting.commit txn)
  | abort txn => exact housed.edits (Store.edits_abort _ txn)
  | flushTransaction txn => exact housed.edits (fitting.flushCommittedEach _)
  | discard page =>
      have steps : Store.CacheSteps system.cache _ := .single (.discard page)
      exact housed.steps steps
  | evictTable table =>
      have steps : Store.CacheSteps system.cache _ := fitting.evictTable table system.handles
      exact housed.steps steps
  | release txn page =>
      rw [System.use, Store.releasePage_eq]
      exact housed.around housed.tables (.refl _) rfl
  | register table name =>
      refine housed.around ?_ (.refl _) rfl
      intro id other found
      rcases Catalog.tables_of_add found with ⟨rfl, rfl⟩ | registered
      · exact within.1
      · exact housed.tables id other registered
  | unregister table =>
      refine housed.around ?_ (.refl _) rfl
      intro id other found
      exact housed.tables id other (Catalog.tables_of_remove found)
  | files disk => exact housed.around housed.tables within.1 rfl
  | touch handle touch =>
      rw [System.use]
      split
      · split
        · next page found =>
            apply housed.keeps
            · rw [Store.catalog_setPageOf]
              exact housed.tables
            · rw [Store.disk_setPageOf]
              exact .refl _
            · intro id other cached
              exact Store.before_of_touch found touch cached
        · exact housed
      · exact housed

theorem housed_useAll (housed : system.store.Housed known) (uses : List Use)
    (within : Within known system uses) : (system.useAll uses).store.Housed known := by
  induction uses generalizing system with
  | nil => exact housed
  | cons use uses ih =>
      exact ih (housed_use housed use ⟨within.1, trivial⟩) within.2

theorem housed_start (known : Catalog) (disk : Disk) (capacity : Nat) (policy : EvictionPolicy) :
    ({ store := { disk, capacity, policy } } : System).store.Housed known where
  tables := nofun
  pages := nofun

/-- However tables come and go, and whichever pages cannot be written, a commit writes
each page that it can, keeps and notes the others, and ends its transaction. -/
theorem commits_write_what_they_can (known : Catalog) (sound : known.Sound) (disk : Disk)
    (capacity : Nat) (policy : EvictionPolicy) (uses : List Use)
    (within : Within known { store := { disk, capacity, policy } } uses) (txn : TxnId) :
    let store := (({ store := { disk, capacity, policy } } : System).useAll uses).store
    Store.Commits known store txn (store.commit txn).1 (store.commit txn).2 := by
  intro store
  have housed := housed_useAll (housed_start known disk capacity policy) uses within
  have ordered := (ordered_start disk capacity policy).useAll uses
  exact housed.commits sound ordered.locks txn

/-- A transaction fills two pages, and then the first of them cannot be written. -/
def tornInsertions : List Use :=
  [.register .numbers "numbers", .act (.call ⟨1⟩ (.insert ⟨1⟩ (.ofNumber 5))),
    .act (.advance ⟨1⟩), .act (.call ⟨1⟩ (.insert ⟨1⟩ (.ofNumber 6))), .act (.advance ⟨1⟩),
    .act (.advance ⟨1⟩), .act (.fault ((∅ : SortedMap PageId String).insert
      (Table.numbers.page 0) "disk full"))]

theorem commit_writes_page_behind_refused_one :
    let known := ({} : Catalog).add .numbers "numbers"
    let store := (({ store := { capacity := 2 } } : System).useAll tornInsertions).store
    known.Sound ∧ Within known { store := { capacity := 2 } } tornInsertions ∧
      Store.Commits known store ⟨1⟩ (store.commit ⟨1⟩).1 (store.commit ⟨1⟩).2 ∧
      store.dirtyPages ⟨1⟩ = [Table.numbers.page 0, Table.numbers.page 1] ∧
      (store.commit ⟨1⟩).2.dirtyPages ⟨1⟩ = [Table.numbers.page 0] ∧
      (store.commit ⟨1⟩).2.unflushed.keys = [Table.numbers.page 0] := by
  intro known store
  have sound : known.Sound := by decide +kernel
  have registered : known.tables.get? Table.numbers.id = some .numbers := by decide +kernel
  have within : Within known { store := { capacity := 2 } } tornInsertions :=
    ⟨registered, trivial, trivial, trivial, trivial, trivial, trivial, trivial⟩
  exact ⟨sound, within, commits_write_what_they_can known sound ∅ 2 _ tornInsertions within ⟨1⟩,
    by decide +kernel, by decide +kernel, by decide +kernel⟩

end System

end TableStore
