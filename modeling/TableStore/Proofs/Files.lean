import Mathlib.Algebra.Group.Nat.Defs
import TableStore.Catalog
import TableStore.Proofs.PageBytes

/-!
# Files of pages

A page that is written to a file is read back from it, and every other page is
read as before.  The same holds of tables, whose pages are read from the files
as rows; a page that is appended to a table has no rows.  Pages are counted in
words, so a file must have fewer than `2 ^ 32` of them.
-/

set_option autoImplicit false

namespace TableStore

theorem PageId.eq_of_parts {a b : PageId} (tables : a.table = b.table)
    (numbers : a.number = b.number) : a = b := by
  cases a
  cases b
  cases tables
  cases numbers
  rfl

namespace Bytes

theorem overwrite_eq {bytes : Bytes} {offset : Nat} (piece : Bytes)
    (inside : offset ≤ bytes.length) :
    overwrite bytes offset piece =
      bytes.take offset ++ (piece ++ bytes.drop (offset + piece.length)) := by
  have full : offset - bytes.length = 0 := by omega
  rw [overwrite, resize, full]
  simp [zeros]

theorem slice_overwrite_same {bytes : Bytes} {offset : Nat} (piece : Bytes)
    (inside : offset ≤ bytes.length) :
    slice (overwrite bytes offset piece) offset piece.length = piece := by
  have front : (bytes.take offset).length = offset := by
    rw [List.length_take]
    omega
  rw [overwrite_eq piece inside, slice, List.drop_append_of_le_length (by omega),
    List.drop_of_length_le (by omega), List.nil_append, List.take_left]

theorem slice_overwrite_before {bytes : Bytes} {offset start length : Nat} (piece : Bytes)
    (inside : offset ≤ bytes.length) (before : start + length ≤ offset) :
    slice (overwrite bytes offset piece) start length = slice bytes start length := by
  rw [overwrite_eq piece inside, slice, slice,
    List.drop_append_of_le_length (by rw [List.length_take]; omega), List.drop_take,
    List.take_append_of_le_length (by rw [List.length_take, List.length_drop]; omega),
    List.take_take]
  congr 1
  omega

theorem slice_overwrite_behind {bytes : Bytes} {offset start length : Nat} (piece : Bytes)
    (inside : offset ≤ bytes.length) (behind : offset + piece.length ≤ start) :
    slice (overwrite bytes offset piece) start length = slice bytes start length := by
  have front : (bytes.take offset).length = offset := by
    rw [List.length_take]
    omega
  obtain ⟨gap, rfl⟩ := Nat.exists_eq_add_of_le behind
  rw [overwrite_eq piece inside, slice, slice, ← List.append_assoc, List.drop_append,
    List.drop_of_length_le (by rw [List.length_append, front]; omega), List.nil_append,
    List.length_append, front, List.drop_drop]
  congr 2
  omega

end Bytes

namespace FileBytes

variable {file : FileBytes} {offset start length : Nat}

theorem length_overwrite (file : FileBytes) (offset : Nat) (piece : Bytes) :
    (file.overwrite offset piece).length = max file.length (offset + piece.length) := by
  rw [← length_bytes, bytes_overwrite, Bytes.length_overwrite, length_bytes]

theorem slice_overwrite_same (piece : Bytes) (inside : offset ≤ file.length) :
    (file.overwrite offset piece).slice offset piece.length = piece := by
  rw [← bytes_slice, bytes_overwrite]
  exact Bytes.slice_overwrite_same piece (by rwa [length_bytes])

theorem slice_overwrite_before (piece : Bytes) (inside : offset ≤ file.length)
    (before : start + length ≤ offset) :
    (file.overwrite offset piece).slice start length = file.slice start length := by
  rw [← bytes_slice, bytes_overwrite, ← bytes_slice]
  exact Bytes.slice_overwrite_before piece (by rwa [length_bytes]) before

theorem slice_overwrite_behind (piece : Bytes) (inside : offset ≤ file.length)
    (behind : offset + piece.length ≤ start) :
    (file.overwrite offset piece).slice start length = file.slice start length := by
  rw [← bytes_slice, bytes_overwrite, ← bytes_slice]
  exact Bytes.slice_overwrite_behind piece (by rwa [length_bytes]) behind

end FileBytes

namespace PageFile

variable {file after : PageFile} {page : UInt32} {data : Bytes}

theorem write_eq_ok_iff :
    file.write page data = .ok after ↔ data.length = file.pageSize ∧
      file.offset page ≤ file.content.length ∧
      after = { file with content := file.content.overwrite (file.offset page) data } := by
  simp only [write]
  split
  · next wrong => simp [wrong]
  · next right =>
      split
      · next inside => simp [Decidable.not_not.mp right, inside, eq_comm]
      · next past =>
          split
          · simp [past]
          · simp [past]

theorem page_inside (file : PageFile) (page : UInt32) (sized : 0 < file.pageSize) :
    page.toNat < file.wholePages ↔ file.offset page + file.pageSize ≤ file.content.length := by
  rw [wholePages, offset, Nat.lt_iff_add_one_le, Nat.le_div_iff_mul_le sized, Nat.succ_mul]

theorem wholePages_write (sized : 0 < file.pageSize)
    (run : file.write page data = .ok after) :
    after.wholePages = max file.wholePages (page.toNat + 1) := by
  obtain ⟨length, inside, rfl⟩ := write_eq_ok_iff.mp run
  have size : file.offset page + data.length = (page.toNat + 1) * file.pageSize := by
    rw [length, offset, Nat.succ_mul]
  simp only [wholePages, FileBytes.length_overwrite, size]
  rcases Nat.le_total file.content.length ((page.toNat + 1) * file.pageSize) with short | long
  · have small : file.content.length / file.pageSize ≤ page.toNat + 1 :=
      Nat.div_le_of_le_mul (by rwa [Nat.mul_comm])
    rw [Nat.max_eq_right short, Nat.mul_div_cancel _ sized, Nat.max_eq_right small]
  · have large : page.toNat + 1 ≤ file.content.length / file.pageSize :=
      (Nat.le_div_iff_mul_le sized).mpr long
    rw [Nat.max_eq_left long, Nat.max_eq_left large]

theorem read_eq_ok_iff : file.read page file.pageSize = .ok data ↔
    file.offset page + file.pageSize ≤ file.content.length ∧
      data = file.content.slice (file.offset page) file.pageSize := by
  simp only [read, ne_eq, not_true_eq_false, if_false]
  split
  · next inside => simp [inside, eq_comm]
  · next short =>
      split
      · simp [short]
      · simp [short]

theorem length_of_read (run : file.read page file.pageSize = .ok data) :
    data.length = file.pageSize := by
  obtain ⟨inside, rfl⟩ := read_eq_ok_iff.mp run
  rw [FileBytes.length_slice]
  omega

theorem slice_write_same (run : file.write page data = .ok after) :
    after.content.slice (file.offset page) file.pageSize = data := by
  obtain ⟨length, inside, rfl⟩ := write_eq_ok_iff.mp run
  rw [← length]
  exact FileBytes.slice_overwrite_same data inside

theorem read_write_same (run : file.write page data = .ok after) :
    after.read page file.pageSize = .ok data := by
  have back := slice_write_same run
  obtain ⟨length, inside, rfl⟩ := write_eq_ok_iff.mp run
  refine read_eq_ok_iff.mpr ⟨?_, back.symm⟩
  rw [FileBytes.length_overwrite, length]
  exact Nat.le_max_right _ _

theorem slice_write_other {other : UInt32} (run : file.write page data = .ok after)
    (different : other ≠ page) :
    after.content.slice (file.offset other) file.pageSize =
      file.content.slice (file.offset other) file.pageSize := by
  obtain ⟨length, inside, rfl⟩ := write_eq_ok_iff.mp run
  have apart : other.toNat ≠ page.toNat := fun same => different (UInt32.toNat_inj.mp same)
  rcases Nat.lt_or_gt_of_ne apart with before | behind
  · apply FileBytes.slice_overwrite_before data inside
    rw [offset, offset, ← Nat.succ_mul]
    exact Nat.mul_le_mul_right _ before
  · apply FileBytes.slice_overwrite_behind data inside
    rw [length, offset, offset, ← Nat.succ_mul]
    exact Nat.mul_le_mul_right _ behind

end PageFile

namespace Table

variable {table : Table} {disk after : Disk}

def wholePages (table : Table) (disk : Disk) : Nat := (table.pages disk).wholePages

def pageBytes (table : Table) (disk : Disk) (number : UInt32) : Bytes :=
  (table.pages disk).content.slice ((table.pages disk).offset number) table.pageSize

theorem pages_insert_other {file : String} {content : FileBytes} (other : table.file ≠ file) :
    table.pages (disk.insert file content) = table.pages disk := by
  rw [pages, pages, SortedMap.get?_insert, if_neg other]

theorem readPage_insert_other {file : String} {content : FileBytes} {id : PageId}
    (other : table.file ≠ file) :
    table.readPage (disk.insert file content) id = table.readPage disk id := by
  rw [readPage, readPage, pageCount, pageCount, pages_insert_other other]

theorem pages_insert_same {content : FileBytes} :
    table.pages (disk.insert table.file content) = ⟨table.pageSize, content⟩ := by
  rw [pages, SortedMap.get?_insert, if_pos rfl]
  rfl

theorem sized_of_wholePages (some : 0 < table.wholePages disk) : 0 < table.pageSize := by
  apply Nat.pos_of_ne_zero
  intro unsized
  rw [wholePages, PageFile.wholePages, show (table.pages disk).pageSize = 0 from unsized,
    Nat.div_zero] at some
  cases some

theorem pageCount_of_unsized (unsized : table.pageSize = 0) :
    table.pageCount disk = .error (.io .zeroPageSize) := by
  simp [pageCount, PageFile.count, pages, unsized]

theorem pageCount_eq (sized : 0 < table.pageSize) :
    table.pageCount disk = .ok (UInt32.ofNat (table.wholePages disk)) := by
  have nonzero : ¬ (table.pages disk).pageSize = 0 := Nat.ne_of_gt sized
  rw [pageCount, PageFile.count, if_neg nonzero]
  rfl

theorem readPage_of_foreign {id : PageId} (foreign : id.table ≠ table.id) :
    table.readPage disk id = .error (.badPageId id table.id) := by
  simp [readPage, checkPage, foreign, bind, Except.bind]

theorem readPage_of_unsized {id : PageId} (own : id.table = table.id)
    (unsized : table.pageSize = 0) :
    table.readPage disk id = .error (.io .zeroPageSize) := by
  simp [readPage, checkPage, own, pageCount, PageFile.count, pages, unsized, bind, Except.bind]

/-- The pages that a word can count: all of them, unless there are more than words. -/
def countedPages (table : Table) (disk : Disk) : Nat :=
  (UInt32.ofNat (table.wholePages disk)).toNat

theorem countedPages_eq (addressable : table.wholePages disk < 2 ^ 32) :
    table.countedPages disk = table.wholePages disk := by
  rw [countedPages, UInt32.toNat_ofNat', Nat.mod_eq_of_lt addressable]

theorem countedPages_le (table : Table) (disk : Disk) :
    table.countedPages disk ≤ table.wholePages disk := by
  rw [countedPages, UInt32.toNat_ofNat']
  exact Nat.mod_le _ _

theorem readPage_of_counted {id : PageId} (own : id.table = table.id)
    (sized : 0 < table.pageSize) :
    table.readPage disk id =
      if id.number.toNat < table.countedPages disk then
        Page.decode id table.schema table.pageSize (table.pageBytes disk id.number)
      else .error (.pageNotFound id) := by
  have word : id.number < UInt32.ofNat (table.wholePages disk) ↔
      id.number.toNat < table.countedPages disk := UInt32.lt_iff_toNat_lt
  simp only [readPage, checkPage, own, if_true, pageCount_eq sized, word, bind, Except.bind]
  by_cases counted : id.number.toNat < table.countedPages disk
  · have inside := Nat.lt_of_lt_of_le counted (table.countedPages_le disk)
    have whole := (PageFile.page_inside (table.pages disk) _ sized).mp inside
    have read : (table.pages disk).read id.number table.pageSize =
        .ok (table.pageBytes disk id.number) := PageFile.read_eq_ok_iff.mpr ⟨whole, rfl⟩
    rw [if_pos counted, if_pos counted, read]
  · rw [if_neg counted, if_neg counted]

theorem readPage_eq {id : PageId} (own : id.table = table.id) (sized : 0 < table.pageSize)
    (addressable : table.wholePages disk < 2 ^ 32) :
    table.readPage disk id =
      if id.number.toNat < table.wholePages disk then
        Page.decode id table.schema table.pageSize (table.pageBytes disk id.number)
      else .error (.pageNotFound id) := by
  rw [readPage_of_counted own sized, countedPages_eq addressable]

/-- As many pages as there are numbers count as none. -/
theorem readPage_of_uncounted {id : PageId} (own : id.table = table.id) (sized : 0 < table.pageSize)
    (whole : table.wholePages disk = 2 ^ 32) :
    table.readPage disk id = .error (.pageNotFound id) := by
  have none : table.countedPages disk = 0 := by
    rw [countedPages, whole]
    rfl
  rw [readPage_of_counted own sized, none, if_neg (Nat.not_lt_zero _)]

/-- One page of the file of a table was written, perhaps the one behind the last; its bytes
are the given ones, and those of the other pages are as before. -/
structure Writes (table : Table) (disk after : Disk) (number : UInt32) (bytes : Bytes) :
    Prop where
  inside : number.toNat ≤ table.wholePages disk
  count : table.wholePages after = max (table.wholePages disk) (number.toNat + 1)
  here : table.pageBytes after number = bytes
  others : ∀ other, other ≠ number → table.pageBytes after other = table.pageBytes disk other

variable {number : UInt32} {bytes : Bytes}

theorem writes_of_run {written : PageFile} (sized : 0 < table.pageSize)
    (run : (table.pages disk).write number bytes = .ok written) :
    table.Writes disk (disk.insert table.file written.content) number bytes := by
  obtain ⟨length, inside, same⟩ := PageFile.write_eq_ok_iff.mp run
  have pagesAfter : table.pages (disk.insert table.file written.content) = written := by
    rw [pages_insert_same, same]
    rfl
  have offset (other : UInt32) : written.offset other = (table.pages disk).offset other := by
    rw [same]
    rfl
  refine ⟨(Nat.le_div_iff_mul_le sized).mpr inside, ?_, ?_, fun other different => ?_⟩
  · rw [wholePages, pagesAfter, PageFile.wholePages_write sized run]
    rfl
  · rw [pageBytes, pagesAfter, offset]
    exact PageFile.slice_write_same run
  · rw [pageBytes, pagesAfter, offset]
    exact PageFile.slice_write_other run different

/-- The pages that were not written are read as before, if a page of the file was written
or the one behind the last has a number. -/
theorem Writes.readPage_other (writes : table.Writes disk after number bytes)
    (sized : 0 < table.pageSize)
    (counted : number.toNat < table.wholePages disk ∨ table.wholePages after < 2 ^ 32)
    {id : PageId} (different : id ≠ table.page number) :
    table.readPage after id = table.readPage disk id := by
  have count := writes.count
  by_cases own : id.table = table.id
  · have apart : id.number ≠ number := fun same => different (PageId.eq_of_parts own same)
    have below : id.number.toNat < table.countedPages after ↔
        id.number.toNat < table.countedPages disk := by
      by_cases before : number.toNat < table.wholePages disk
      · rw [countedPages, countedPages, count, Nat.max_eq_left (Nat.succ_le_of_lt before)]
      · have addressable := counted.resolve_left before
        have distinct : id.number.toNat ≠ number.toNat := fun same =>
          apart (UInt32.toNat_inj.mp same)
        have inside := writes.inside
        rw [countedPages_eq addressable, countedPages_eq (by omega)]
        omega
    rw [readPage_of_counted own sized, readPage_of_counted own sized, writes.others _ apart]
    simp only [below]
  · rw [readPage_of_foreign own, readPage_of_foreign own]

theorem writePage_of_sound {page : Page} (sound : page.Sound)
    (own : page.id.table = table.id) (schema : page.schema = table.schema)
    (size : page.size = table.pageSize) (sized : 0 < table.pageSize)
    (inside : page.id.number.toNat < table.wholePages disk) :
    ∃ content, table.writePage disk page = .ok (disk.insert table.file content) ∧
      table.wholePages (disk.insert table.file content) = table.wholePages disk ∧
      (page.id.number.toNat < table.countedPages disk →
        ∃ again, table.readPage (disk.insert table.file content) page.id = .ok again ∧
          again.contents = page.contents) ∧
      ∀ id, id ≠ page.id →
        table.readPage (disk.insert table.file content) id = table.readPage disk id := by
  obtain ⟨bytes, encoded, length, again, decoded, contents⟩ := sound.encode_decode
  have whole := (PageFile.page_inside (table.pages disk) _ sized).mp inside
  obtain ⟨written, run⟩ : ∃ written,
      (table.pages disk).write page.id.number bytes = .ok written :=
    ⟨_, PageFile.write_eq_ok_iff.mpr ⟨length.trans size, by omega, rfl⟩⟩
  have writes := writes_of_run sized run
  have count : table.wholePages (disk.insert table.file written.content) =
      table.wholePages disk := writes.count.trans (Nat.max_eq_left inside)
  refine ⟨written.content, ?_, count, fun counted => ⟨again, ?_, contents⟩,
    fun id different => ?_⟩
  · simp [writePage, checkPage, own, encoded, run, bind, Except.bind]
  · have still : page.id.number.toNat <
        table.countedPages (disk.insert table.file written.content) := by
      rw [countedPages, count]
      exact counted
    rw [readPage_of_counted own sized, if_pos still, writes.here, ← schema, ← size]
    exact decoded
  · apply writes.readPage_other sized (.inl inside)
    rwa [show table.page page.id.number = page.id from PageId.eq_of_parts own.symm rfl]

/-! ## Appended pages -/

def Unbuffered (table : Table) (disk : Disk) : Prop :=
  PageFile.bufferLimit ≤ table.pageSize ∧ table.wholePages disk = 0

instance (table : Table) (disk : Disk) : Decidable (table.Unbuffered disk) :=
  inferInstanceAs (Decidable (_ ∧ _))

theorem allocatePage_of_unsized (unsized : table.pageSize = 0) :
    table.allocatePage disk = .error (.io .zeroPageSize) := by
  simp [allocatePage, PageFile.allocate, PageFile.count, pages, unsized, bind, Except.bind]

theorem count_pages (sized : 0 < table.pageSize) :
    (table.pages disk).count = .ok (UInt32.ofNat (table.wholePages disk)) := by
  have nonzero : ¬ (table.pages disk).pageSize = 0 := Nat.ne_of_gt sized
  rw [PageFile.count, if_neg nonzero]
  rfl

theorem allocatePage_of_unbuffered (sized : 0 < table.pageSize)
    (unbuffered : table.Unbuffered disk) :
    table.allocatePage disk = .error (.io .noBuffer) := by
  have refused : PageFile.bufferLimit ≤ (table.pages disk).pageSize ∧
      (table.pages disk).wholePages = 0 := unbuffered
  simp only [allocatePage, PageFile.allocate, count_pages sized, bind, Except.bind, if_pos refused]

/-- The allocation of a page writes zeros behind the last page.  If there are more pages
than numbers, it writes over one that no word counts. -/
theorem allocatePage_writes (sized : 0 < table.pageSize)
    (buffered : ¬ table.Unbuffered disk) :
    ∃ content,
      table.allocatePage disk = .ok (table.page (UInt32.ofNat (table.wholePages disk)),
        disk.insert table.file content) ∧
      table.Writes disk (disk.insert table.file content) (UInt32.ofNat (table.wholePages disk))
        (Bytes.zeros table.pageSize) := by
  let number := UInt32.ofNat (table.wholePages disk)
  have inside : (table.pages disk).offset number ≤ (table.pages disk).content.length := by
    apply Nat.le_trans (Nat.mul_le_mul_right _ (table.countedPages_le disk))
    exact Nat.div_mul_le_self _ _
  have length : (Bytes.zeros table.pageSize).length = (table.pages disk).pageSize :=
    Bytes.length_zeros _
  obtain ⟨written, run⟩ : ∃ written,
      (table.pages disk).write number (Bytes.zeros table.pageSize) = .ok written :=
    ⟨_, PageFile.write_eq_ok_iff.mpr ⟨length, inside, rfl⟩⟩
  refine ⟨written.content, ?_, writes_of_run sized run⟩
  have accepted : ¬ (PageFile.bufferLimit ≤ (table.pages disk).pageSize ∧
      (table.pages disk).wholePages = 0) := buffered
  have sameSize : (table.pages disk).pageSize = table.pageSize := rfl
  simp only [allocatePage, PageFile.allocate, count_pages sized, bind, Except.bind,
    if_neg accepted]
  rw [sameSize, show (table.pages disk).write (UInt32.ofNat (table.wholePages disk))
    (Bytes.zeros table.pageSize) = .ok written from run]
  rfl

theorem allocatePage_of_sized (sized : 0 < table.pageSize) (buffered : ¬ table.Unbuffered disk)
    (addressable : table.wholePages disk < 2 ^ 32) :
    ∃ content,
      table.allocatePage disk = .ok (table.page (UInt32.ofNat (table.wholePages disk)),
        disk.insert table.file content) ∧
      table.wholePages (disk.insert table.file content) = table.wholePages disk + 1 ∧
      (table.wholePages disk + 1 < 2 ^ 32 →
        (table.readPage (disk.insert table.file content)
            (table.page (UInt32.ofNat (table.wholePages disk))) =
          Page.empty (table.page (UInt32.ofNat (table.wholePages disk))) table.schema
            table.pageSize) ∧
        ∀ id, id ≠ table.page (UInt32.ofNat (table.wholePages disk)) →
          table.readPage (disk.insert table.file content) id = table.readPage disk id) := by
  obtain ⟨content, run, writes⟩ := allocatePage_writes sized buffered
  have last : (UInt32.ofNat (table.wholePages disk)).toNat = table.wholePages disk :=
    countedPages_eq addressable
  have count : table.wholePages (disk.insert table.file content) =
      table.wholePages disk + 1 := by
    rw [writes.count, last]
    exact Nat.max_eq_right (Nat.le_succ _)
  refine ⟨content, run, count, fun addressable => ⟨?_, fun id different => ?_⟩⟩
  · have inside : (table.page (UInt32.ofNat (table.wholePages disk))).number.toNat <
        table.wholePages disk + 1 := Nat.lt_succ_of_le (Nat.le_of_eq last)
    rw [readPage_eq rfl sized (by omega), count, if_pos inside]
    exact congrArg (Page.decode _ _ _) writes.here
  · exact writes.readPage_other sized (.inr (count ▸ addressable)) different

/-- If there are more pages than numbers, the allocation of a page changes no page that can
be read. -/
theorem allocatePage_of_more (sized : 0 < table.pageSize)
    (more : 2 ^ 32 ≤ table.wholePages disk) :
    ∃ content,
      table.allocatePage disk = .ok (table.page (UInt32.ofNat (table.wholePages disk)),
        disk.insert table.file content) ∧
      table.wholePages (disk.insert table.file content) = table.wholePages disk ∧
      ∀ id, table.readPage (disk.insert table.file content) id = table.readPage disk id := by
  have buffered : ¬ table.Unbuffered disk := fun unbuffered => by
    have none := unbuffered.2
    omega
  obtain ⟨content, run, writes⟩ := allocatePage_writes sized buffered
  have inside : (UInt32.ofNat (table.wholePages disk)).toNat < table.wholePages disk :=
    Nat.lt_of_lt_of_le (UInt32.toNat_lt _) more
  have count : table.wholePages (disk.insert table.file content) = table.wholePages disk :=
    writes.count.trans (Nat.max_eq_left inside)
  refine ⟨content, run, count, fun id => ?_⟩
  by_cases here : id = table.page (UInt32.ofNat (table.wholePages disk))
  · have uncounted (later : Disk) (same : table.wholePages later = table.wholePages disk) :
        ¬ id.number.toNat < table.countedPages later := by
      rw [here, countedPages, same]
      exact Nat.lt_irrefl _
    rw [readPage_of_counted (congrArg PageId.table here) sized, if_neg (uncounted _ count),
      readPage_of_counted (congrArg PageId.table here) sized, if_neg (uncounted _ rfl)]
  · exact writes.readPage_other sized (.inl inside) here

end Table

end TableStore
