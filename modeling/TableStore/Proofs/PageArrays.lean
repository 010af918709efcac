import TableStore.Proofs.Files

/-!
# Files as arrays of pages

A file of pages is an array: its pages one after the other, and a rest that is shorter than
a page and belongs to none.  A page of the array can be read and replaced, one more can be
put behind the last, in place of the rest, and nothing else is ever changed.  Whatever calls
a file gets, it answers as its array, as long as it has fewer than `2 ^ 32` pages, and a
page is no longer than a buffer can be.
-/

set_option autoImplicit false

namespace TableStore

/-! ## Calls -/

namespace PageFile

inductive Call where
  | read (page : UInt32) (bufferLength : Nat)
  | write (page : UInt32) (data : Bytes)
  | allocate
  | count
deriving DecidableEq

inductive Answer where
  | page (data : Bytes)
  | number (page : Nat)
  | done
  | fault (fault : IoFault)
deriving DecidableEq

def serve (file : PageFile) : Call → Answer × PageFile
  | .read page bufferLength =>
      match file.read page bufferLength with
      | .ok data => (.page data, file)
      | .error fault => (.fault fault, file)
  | .write page data =>
      match file.write page data with
      | .ok after => (.done, after)
      | .error fault => (.fault fault, file)
  | .allocate =>
      match file.allocate with
      | .ok (page, after) => (.number page.toNat, after)
      | .error fault => (.fault fault, file)
  | .count =>
      match file.count with
      | .ok count => (.number count.toNat, file)
      | .error fault => (.fault fault, file)

namespace Call

def serveAll {σ : Type} (serve : σ → Call → Answer × σ) (state : σ) :
    List Call → List Answer × σ
  | [] => ([], state)
  | call :: calls =>
      let (answer, state) := serve state call
      let (answers, state) := serveAll serve state calls
      (answer :: answers, state)

end Call

/-- Whenever the file gets a call it has fewer pages than there are numbers for them. -/
def Countable (file : PageFile) : List Call → Prop
  | [] => True
  | call :: calls => file.wholePages < 2 ^ 32 ∧ (file.serve call).2.Countable calls

instance decidableCountable : (calls : List Call) → (file : PageFile) →
    Decidable (file.Countable calls)
  | [], _ => inferInstanceAs (Decidable True)
  | call :: calls, file =>
      have := decidableCountable calls (file.serve call).2
      inferInstanceAs (Decidable (_ ∧ _))

end PageFile

/-! ## Arrays -/

/-- Pages of one size, and the bytes behind them that make up no page. -/
structure PageArray where
  pageSize : Nat
  pages : List Bytes
  rest : Bytes
  full : ∀ page ∈ pages, page.length = pageSize
  short : rest.length < pageSize

namespace PageArray

variable (array : PageArray)

def bytes : Bytes := array.pages.flatten ++ array.rest

structure Holds (file : PageFile) : Prop where
  size : file.pageSize = array.pageSize
  bytes : file.content.bytes = array.bytes

def replace (page : Nat) (data : Bytes) (fits : data.length = array.pageSize) : PageArray :=
  { array with
    pages := array.pages.set page data
    full := by
      intro other inside
      rcases List.mem_or_eq_of_mem_set inside with old | rfl
      · exact array.full other old
      · exact fits }

/-- The array with one page more, in place of the rest. -/
def append (data : Bytes) (fits : data.length = array.pageSize) : PageArray :=
  { array with
    pages := array.pages ++ [data]
    rest := []
    full := by
      intro other inside
      rcases List.mem_append.mp inside with old | new
      · exact array.full other old
      · rw [List.mem_singleton.mp new]
        exact fits
    short := Nat.zero_lt_of_lt array.short }

/-- Why a page that the array does not have cannot be read. -/
def readFault (page : UInt32) : IoFault :=
  if (page.toNat + 1) * array.pageSize < PageFile.offsetLimit then .missingPage page
  else .offsetOverflow

def writeFault (page : UInt32) : IoFault :=
  if page.toNat * array.pageSize < PageFile.offsetLimit then .pastEnd page array.pages.length
  else .offsetOverflow

/-- Answers a call.  A page can be read if the array has it, and written if the array has
it or ends before it.  Buffers and data must have the size of a page. -/
def serve : PageFile.Call → PageFile.Answer × PageArray
  | .read page bufferLength =>
      if bufferLength = array.pageSize then
        match array.pages[page.toNat]? with
        | some data => (.page data, array)
        | none => (.fault (array.readFault page), array)
      else (.fault (.bufferSize array.pageSize bufferLength), array)
  | .write page data =>
      if fits : data.length = array.pageSize then
        if page.toNat < array.pages.length then (.done, array.replace page.toNat data fits)
        else if page.toNat = array.pages.length then (.done, array.append data fits)
        else (.fault (array.writeFault page), array)
      else (.fault (.bufferSize array.pageSize data.length), array)
  | .allocate =>
      (.number array.pages.length,
        array.append (Bytes.zeros array.pageSize) (Bytes.length_zeros array.pageSize))
  | .count => (.number array.pages.length, array)

/-! ## Where the pages stand -/

variable {array} {file : PageFile}

theorem length_bytes : array.bytes.length =
    array.pages.length * array.pageSize + array.rest.length := by
  rw [bytes, List.length_append, Bytes.length_flatten array.full]

theorem bytes_split {page : Nat} (inside : page ≤ array.pages.length) :
    array.bytes.take (page * array.pageSize) = (array.pages.take page).flatten ∧
      array.bytes.drop (page * array.pageSize) =
        (array.pages.drop page).flatten ++ array.rest := by
  have parts : array.bytes =
      (array.pages.take page).flatten ++ ((array.pages.drop page).flatten ++ array.rest) := by
    rw [bytes, ← List.append_assoc, ← List.flatten_append, List.take_append_drop]
  have front : (array.pages.take page).flatten.length = page * array.pageSize := by
    rw [Bytes.length_flatten fun other old => array.full other (List.mem_of_mem_take old),
      List.length_take, Nat.min_eq_left inside]
  rw [parts]
  exact ⟨List.take_left' front, List.drop_left' front⟩

theorem slice_bytes {page : Nat} {data : Bytes} (found : array.pages[page]? = some data) :
    array.bytes.slice (page * array.pageSize) array.pageSize = data := by
  obtain ⟨inside, here⟩ := List.getElem?_eq_some_iff.mp found
  have length : data.length = array.pageSize := array.full data (List.mem_of_getElem? found)
  rw [Bytes.slice, (bytes_split (Nat.le_of_lt inside)).2, List.drop_eq_getElem_cons inside, here,
    List.flatten_cons, List.append_assoc, List.take_left' length]

theorem overwrite_inside {page : Nat} {data : Bytes} (fits : data.length = array.pageSize)
    (inside : page < array.pages.length) :
    array.bytes.overwrite (page * array.pageSize) data = (array.replace page data fits).bytes := by
  have front : page * array.pageSize ≤ array.bytes.length := by
    have below := Nat.mul_le_mul_right array.pageSize (Nat.le_of_lt inside)
    rw [length_bytes]
    omega
  have after : (array.replace page data fits).bytes =
      (array.pages.take page ++ data :: array.pages.drop (page + 1)).flatten ++ array.rest := by
    have pages := List.set_eq_take_append_cons_drop (l := array.pages) (i := page) (a := data)
    rw [if_pos inside] at pages
    rw [← pages]
    rfl
  rw [after, Bytes.overwrite_eq data front, (bytes_split (Nat.le_of_lt inside)).1, fits,
    ← Nat.succ_mul, (bytes_split inside).2, List.flatten_append, List.flatten_cons,
    List.append_assoc, List.append_assoc]

theorem overwrite_end {data : Bytes} (fits : data.length = array.pageSize) :
    array.bytes.overwrite (array.pages.length * array.pageSize) data =
      (array.append data fits).bytes := by
  have front : array.pages.length * array.pageSize ≤ array.bytes.length := by
    rw [length_bytes]
    exact Nat.le_add_right _ _
  have behind : array.bytes.drop (array.pages.length * array.pageSize + data.length) = [] := by
    apply List.drop_of_length_le
    have short := array.short
    rw [length_bytes]
    omega
  rw [Bytes.overwrite_eq data front, behind, (bytes_split (Nat.le_refl _)).1, List.take_length,
    bytes, append, List.flatten_append, List.append_nil, List.append_nil, List.flatten_singleton]

/-! ## One call, and any number of them -/

namespace Holds

variable (holds : array.Holds file)

include holds

theorem length : file.content.length =
    array.pages.length * array.pageSize + array.rest.length := by
  rw [← FileBytes.length_bytes, holds.bytes, length_bytes]

theorem sized : 0 < file.pageSize := holds.size ▸ Nat.zero_lt_of_lt array.short

theorem wholePages : file.wholePages = array.pages.length := by
  have sized : 0 < array.pageSize := Nat.zero_lt_of_lt array.short
  rw [PageFile.wholePages, holds.length, Nat.add_comm, holds.size,
    Nat.add_mul_div_right _ _ sized, Nat.div_eq_of_lt array.short, Nat.zero_add]

theorem offset_le_iff (page : UInt32) :
    file.offset page ≤ file.content.length ↔ page.toNat ≤ array.pages.length := by
  have short := array.short
  rw [PageFile.offset, holds.length, holds.size]
  constructor
  · intro within
    rcases Nat.lt_or_ge array.pages.length page.toNat with beyond | inside
    · have next := Nat.mul_le_mul_right array.pageSize (Nat.succ_le_of_lt beyond)
      rw [Nat.succ_mul] at next
      omega
    · exact inside
  · intro inside
    have below := Nat.mul_le_mul_right array.pageSize inside
    omega

theorem read (page : UInt32) : file.read page array.pageSize =
    match array.pages[page.toNat]? with
    | some data => .ok data
    | none => .error (array.readFault page) := by
  have inside := file.page_inside page holds.sized
  rw [holds.wholePages] at inside
  cases found : array.pages[page.toNat]? with
  | some data =>
      have whole := inside.mp (List.getElem?_eq_some_iff.mp found).1
      rw [← holds.size]
      refine PageFile.read_eq_ok_iff.mpr ⟨whole, ?_⟩
      rw [← FileBytes.bytes_slice, holds.bytes, PageFile.offset, holds.size]
      exact (slice_bytes found).symm
  | none =>
      have outside := mt inside.mpr (Nat.not_lt.mpr (List.getElem?_eq_none_iff.mp found))
      have last : file.offset page + file.pageSize = (page.toNat + 1) * array.pageSize := by
        rw [PageFile.offset, holds.size, Nat.succ_mul]
      rw [PageFile.read, if_neg (Decidable.not_not.mpr holds.size.symm), if_neg outside, last,
        readFault]
      split
      · rfl
      · rfl

theorem write_inside {page : UInt32} {data : Bytes} (fits : data.length = array.pageSize)
    (inside : page.toNat < array.pages.length) : ∃ after, file.write page data = .ok after ∧
      (array.replace page.toNat data fits).Holds after := by
  have within := (holds.offset_le_iff page).mpr (Nat.le_of_lt inside)
  refine ⟨_, PageFile.write_eq_ok_iff.mpr ⟨fits.trans holds.size.symm, within, rfl⟩,
    holds.size, ?_⟩
  rw [FileBytes.bytes_overwrite, holds.bytes, PageFile.offset, holds.size,
    overwrite_inside fits inside]

theorem write_end {page : UInt32} {data : Bytes} (fits : data.length = array.pageSize)
    (next : page.toNat = array.pages.length) : ∃ after, file.write page data = .ok after ∧
      (array.append data fits).Holds after := by
  have within := (holds.offset_le_iff page).mpr (Nat.le_of_eq next)
  refine ⟨_, PageFile.write_eq_ok_iff.mpr ⟨fits.trans holds.size.symm, within, rfl⟩,
    holds.size, ?_⟩
  rw [FileBytes.bytes_overwrite, holds.bytes, PageFile.offset, holds.size, next,
    overwrite_end fits]

theorem write_beyond {page : UInt32} {data : Bytes} (fits : data.length = array.pageSize)
    (beyond : array.pages.length < page.toNat) :
    file.write page data = .error (array.writeFault page) := by
  have outside := mt (holds.offset_le_iff page).mp (Nat.not_le.mpr beyond)
  rw [PageFile.write, if_neg (Decidable.not_not.mpr (fits.trans holds.size.symm)),
    if_neg outside, holds.wholePages, PageFile.offset, holds.size, writeFault]
  split
  · rfl
  · rfl

theorem count : file.count = .ok (UInt32.ofNat array.pages.length) := by
  rw [PageFile.count, if_neg (Nat.ne_of_gt holds.sized), holds.wholePages]

theorem allocate (countable : array.pages.length < 2 ^ 32)
    (buffered : array.pageSize < PageFile.bufferLimit) :
    ∃ after, file.allocate = .ok (UInt32.ofNat array.pages.length, after) ∧
      (array.append (Bytes.zeros array.pageSize)
        (Bytes.length_zeros array.pageSize)).Holds after := by
  have exact : (UInt32.ofNat array.pages.length).toNat = array.pages.length := by
    rw [UInt32.toNat_ofNat', Nat.mod_eq_of_lt countable]
  obtain ⟨after, written, held⟩ := holds.write_end (Bytes.length_zeros array.pageSize) exact
  have short : ¬ (PageFile.bufferLimit ≤ file.pageSize ∧ file.wholePages = 0) := by
    rw [holds.size]
    exact fun long => Nat.not_le.mpr buffered long.1
  refine ⟨after, ?_, held⟩
  simp only [PageFile.allocate, holds.count, bind, Except.bind, if_neg short]
  rw [holds.size, written]
  rfl

/-- The file answers a call as the array does, and has the bytes of the array then. -/
theorem serve (countable : array.pages.length < 2 ^ 32)
    (buffered : array.pageSize < PageFile.bufferLimit) (call : PageFile.Call) :
    (file.serve call).1 = (array.serve call).1 ∧ (array.serve call).2.Holds (file.serve call).2 := by
  have exact : (UInt32.ofNat array.pages.length).toNat = array.pages.length := by
    rw [UInt32.toNat_ofNat', Nat.mod_eq_of_lt countable]
  cases call with
  | read page bufferLength =>
      rw [PageFile.serve, PageArray.serve]
      by_cases same : bufferLength = array.pageSize
      · rw [if_pos same, same, holds.read]
        cases array.pages[page.toNat]? with
        | some data => exact ⟨rfl, holds⟩
        | none => exact ⟨rfl, holds⟩
      · rw [if_neg same, PageFile.read, holds.size, if_pos same]
        exact ⟨rfl, holds⟩
  | write page data =>
      rw [PageFile.serve, PageArray.serve]
      by_cases fits : data.length = array.pageSize
      · rw [dif_pos fits]
        rcases Nat.lt_trichotomy page.toNat array.pages.length with inside | next | beyond
        · obtain ⟨after, written, held⟩ := holds.write_inside fits inside
          rw [written, if_pos inside]
          exact ⟨rfl, held⟩
        · obtain ⟨after, written, held⟩ := holds.write_end fits next
          rw [written, if_neg (Nat.not_lt_of_le (Nat.le_of_eq next.symm)), if_pos next]
          exact ⟨rfl, held⟩
        · rw [holds.write_beyond fits beyond, if_neg (Nat.lt_asymm beyond),
            if_neg (Nat.ne_of_gt beyond)]
          exact ⟨rfl, holds⟩
      · rw [dif_neg fits, PageFile.write, holds.size, if_pos fits]
        exact ⟨rfl, holds⟩
  | allocate =>
      obtain ⟨after, allocated, held⟩ := holds.allocate countable buffered
      rw [PageFile.serve, PageArray.serve, allocated]
      exact ⟨congrArg PageFile.Answer.number exact, held⟩
  | count =>
      rw [PageFile.serve, PageArray.serve, holds.count]
      exact ⟨congrArg PageFile.Answer.number exact, holds⟩

end Holds

/-! ## What stands on a page -/

def stores (pageSize page : Nat) : PageFile.Call × PageFile.Answer → Option Bytes
  | (.write number data, .done) => if number.toNat = page then some data else none
  | (.allocate, .number number) => if number = page then some (Bytes.zeros pageSize) else none
  | _ => none

/-- What was stored last on a page by answered calls, or what stood there before. -/
def lastStored (pageSize page : Nat) (before : Option Bytes)
    (events : List (PageFile.Call × PageFile.Answer)) : Option Bytes :=
  events.foldl (fun last event => (stores pageSize page event).or last) before

theorem getElem?_replace {number : Nat} {data : Bytes} (fits : data.length = array.pageSize)
    (inside : number < array.pages.length) (page : Nat) :
    (array.replace number data fits).pages[page]? =
      (if number = page then some data else none).or array.pages[page]? := by
  rw [replace, List.getElem?_set, if_pos inside]
  split
  · rfl
  · rfl

theorem getElem?_append {data : Bytes} (fits : data.length = array.pageSize) (page : Nat) :
    (array.append data fits).pages[page]? =
      (if array.pages.length = page then some data else none).or array.pages[page]? := by
  rw [append]
  rcases Nat.lt_trichotomy page array.pages.length with inside | same | beyond
  · rw [List.getElem?_append_left inside, if_neg (by omega)]
    rfl
  · rw [same, List.getElem?_concat_length, if_pos rfl]
    rfl
  · rw [List.getElem?_eq_none (by rw [List.length_append, List.length_singleton]; omega),
      List.getElem?_eq_none (Nat.le_of_lt beyond), if_neg (by omega)]
    rfl

theorem getElem?_serve (call : PageFile.Call) (page : Nat) :
    (array.serve call).2.pages[page]? =
      (stores array.pageSize page (call, (array.serve call).1)).or array.pages[page]? := by
  cases call with
  | read number bufferLength =>
      rw [serve]
      split
      · cases array.pages[number.toNat]? <;> rfl
      · rfl
  | write number data =>
      rw [serve]
      split
      · next fits =>
          split
          · next inside => exact getElem?_replace fits inside page
          · split
            · next same =>
                rw [stores, same]
                exact getElem?_append fits page
            · rfl
      · rfl
  | allocate => exact getElem?_append (Bytes.length_zeros array.pageSize) page
  | count => rfl

/-- A rest is left alone until a page takes its place. -/
theorem serve_keeps (call : PageFile.Call) : (array.serve call).2.pageSize = array.pageSize ∧
    ((array.serve call).2.rest = array.rest ∨ (array.serve call).2.rest = []) := by
  cases call with
  | read number bufferLength =>
      rw [serve]
      split
      · cases array.pages[number.toNat]? <;> exact ⟨rfl, .inl rfl⟩
      · exact ⟨rfl, .inl rfl⟩
  | write number data =>
      rw [serve]
      split
      · split
        · exact ⟨rfl, .inl rfl⟩
        · split
          · exact ⟨rfl, .inr rfl⟩
          · exact ⟨rfl, .inl rfl⟩
      · exact ⟨rfl, .inl rfl⟩
  | allocate => exact ⟨rfl, .inr rfl⟩
  | count => exact ⟨rfl, .inl rfl⟩

theorem serveAll_keeps (calls : List PageFile.Call) :
    (PageFile.Call.serveAll serve array calls).2.pageSize = array.pageSize ∧
      (array.rest = [] → (PageFile.Call.serveAll serve array calls).2.rest = []) ∧
      ∀ page, (PageFile.Call.serveAll serve array calls).2.pages[page]? =
        lastStored array.pageSize page array.pages[page]?
          (calls.zip (PageFile.Call.serveAll serve array calls).1) := by
  induction calls generalizing array with
  | nil => exact ⟨rfl, id, fun _ => rfl⟩
  | cons call calls ih =>
      obtain ⟨size, rest⟩ := array.serve_keeps call
      obtain ⟨lastSize, lastRest, lastPages⟩ := @ih (array.serve call).2
      refine ⟨lastSize.trans size, ?_, ?_⟩
      · intro none
        exact lastRest (rest.elim (Eq.trans · none) id)
      · intro page
        have stored := lastPages page
        rw [getElem?_serve call page, size] at stored
        exact stored

theorem Holds.serveAll {calls : List PageFile.Call} (holds : array.Holds file)
    (buffered : array.pageSize < PageFile.bufferLimit) (countable : file.Countable calls) :
    (PageFile.Call.serveAll PageFile.serve file calls).1 =
        (PageFile.Call.serveAll PageArray.serve array calls).1 ∧
      (PageFile.Call.serveAll PageArray.serve array calls).2.Holds
        (PageFile.Call.serveAll PageFile.serve file calls).2 := by
  induction calls generalizing array file with
  | nil => exact ⟨rfl, holds⟩
  | cons call calls ih =>
      obtain ⟨now, later⟩ := countable
      rw [holds.wholePages] at now
      obtain ⟨answer, next⟩ := holds.serve now buffered call
      have size : (array.serve call).2.pageSize = array.pageSize := (array.serve_keeps call).1
      obtain ⟨answers, last⟩ := ih next (size ▸ buffered) later
      exact ⟨List.cons_eq_cons.mpr ⟨answer, answers⟩, last⟩

theorem Holds.rest_eq_nil_iff (holds : array.Holds file) :
    array.rest = [] ↔ file.pageSize ∣ file.content.length := by
  rw [holds.length, holds.size, Nat.dvd_add_right (Nat.dvd_mul_left _ _)]
  constructor
  · intro none
    rw [none]
    exact Nat.dvd_zero _
  · intro multiple
    exact List.length_eq_zero_iff.mp (Nat.eq_zero_of_dvd_of_lt multiple array.short)

end PageArray

namespace PageFile

/-! ## Every file is an array -/

def page? (file : PageFile) (page : Nat) : Option Bytes :=
  if page < file.wholePages then
    some (file.content.slice (page * file.pageSize) file.pageSize)
  else none

theorem length_slice (file : PageFile) (sized : 0 < file.pageSize) {page : Nat}
    (inside : page < file.wholePages) :
    (file.content.slice (page * file.pageSize) file.pageSize).length = file.pageSize := by
  have whole : (page + 1) * file.pageSize ≤ file.content.length :=
    (Nat.le_div_iff_mul_le sized).mp inside
  rw [Nat.succ_mul] at whole
  rw [FileBytes.length_slice]
  omega

theorem length_rest_lt (file : PageFile) (sized : 0 < file.pageSize) :
    (file.content.bytes.drop (file.wholePages * file.pageSize)).length < file.pageSize := by
  rw [List.length_drop, FileBytes.length_bytes, wholePages]
  have parts := Nat.div_add_mod' file.content.length file.pageSize
  have short := Nat.mod_lt file.content.length sized
  omega

def array (file : PageFile) (sized : 0 < file.pageSize) : PageArray where
  pageSize := file.pageSize
  pages := (List.range file.wholePages).map fun page =>
    file.content.slice (page * file.pageSize) file.pageSize
  rest := file.content.bytes.drop (file.wholePages * file.pageSize)
  full := by
    intro page inside
    obtain ⟨number, counted, rfl⟩ := List.mem_map.mp inside
    exact file.length_slice sized (List.mem_range.mp counted)
  short := file.length_rest_lt sized

theorem flatten_slices (content : FileBytes) (size count : Nat) :
    ((List.range count).map fun page => content.slice (page * size) size).flatten =
      content.bytes.take (count * size) := by
  induction count with
  | zero => simp
  | succ count ih =>
      rw [List.range_succ, List.map_append, List.flatten_append, ih, List.map_singleton,
        List.flatten_singleton, ← FileBytes.bytes_slice, Bytes.slice, Nat.succ_mul, List.take_add]

variable {file : PageFile}

theorem holds_array (sized : 0 < file.pageSize) : (file.array sized).Holds file where
  size := rfl
  bytes := by rw [PageArray.bytes, array, flatten_slices, List.take_append_drop]

theorem getElem?_array (sized : 0 < file.pageSize) (page : Nat) :
    (file.array sized).pages[page]? = file.page? page := by
  rw [array, List.getElem?_map, page?]
  split
  · next inside =>
      rw [List.getElem?_range inside]
      rfl
  · next outside =>
      rw [List.getElem?_eq_none (by rw [List.length_range]; exact Nat.le_of_not_lt outside)]
      rfl

/-! ## Short pages -/

/-- Pages of fewer bytes than there are page numbers end at offsets that are words. -/
theorem end_lt_offsetLimit (short : file.pageSize < 2 ^ 32) (page : UInt32) :
    file.offset page + file.pageSize < offsetLimit := by
  have number : page.toNat + 1 ≤ 2 ^ 32 := page.toNat_lt
  calc file.offset page + file.pageSize = (page.toNat + 1) * file.pageSize :=
        (Nat.succ_mul page.toNat file.pageSize).symm
    _ ≤ 2 ^ 32 * file.pageSize := Nat.mul_le_mul_right file.pageSize number
    _ < 2 ^ 32 * 2 ^ 32 := Nat.mul_lt_mul_of_pos_left short (by decide)

theorem read_fits (short : file.pageSize < 2 ^ 32) (page : UInt32) (length : Nat) :
    file.read page length ≠ .error .offsetOverflow := by
  have inside := end_lt_offsetLimit short page
  simp only [read, inside, if_true]
  split
  · rintro ⟨⟩
  · split <;> rintro ⟨⟩

theorem write_fits (short : file.pageSize < 2 ^ 32) (page : UInt32) (data : Bytes) :
    file.write page data ≠ .error .offsetOverflow := by
  have inside : file.offset page < offsetLimit :=
    Nat.lt_of_le_of_lt (Nat.le_add_right _ file.pageSize) (end_lt_offsetLimit short page)
  simp only [write, inside, if_true]
  split
  · rintro ⟨⟩
  · split <;> rintro ⟨⟩

theorem count_fits : file.count ≠ .error .offsetOverflow := by
  rw [count]
  split
  · rintro ⟨⟩
  · rintro ⟨⟩

theorem allocate_cases (file : PageFile) :
    (∃ fault, file.count = .error fault ∧ file.allocate = .error fault) ∨
    file.allocate = .error .noBuffer ∨
    ∃ page, file.allocate = (file.write page (Bytes.zeros file.pageSize)).map (page, ·) := by
  cases counted : file.count with
  | error fault =>
      refine .inl ⟨fault, rfl, ?_⟩
      simp only [allocate, counted, bind, Except.bind]
  | ok page =>
      right
      simp only [allocate, counted, bind, Except.bind]
      split
      · exact .inl rfl
      · exact .inr ⟨page, rfl⟩

theorem allocate_fits (short : file.pageSize < 2 ^ 32) :
    file.allocate ≠ .error .offsetOverflow := by
  intro run
  rcases allocate_cases file with ⟨fault, counted, failed⟩ | failed | ⟨page, wrote⟩
  · cases failed.symm.trans run
    exact count_fits counted
  · cases failed.symm.trans run
  · rw [wrote] at run
    cases written : file.write page (Bytes.zeros file.pageSize) with
    | error fault =>
        rw [written] at run
        cases run
        exact write_fits short page _ written
    | ok after =>
        rw [written] at run
        cases run

/-- No call for short pages fails for an offset that is no word. -/
theorem serve_fits (short : file.pageSize < 2 ^ 32) (call : Call) :
    (file.serve call).1 ≠ .fault .offsetOverflow := by
  intro overflows
  cases call with
  | read page length =>
      simp only [serve] at overflows
      split at overflows
      · cases overflows
      · next run =>
          cases overflows
          exact read_fits short page length run
  | write page data =>
      simp only [serve] at overflows
      split at overflows
      · cases overflows
      · next run =>
          cases overflows
          exact write_fits short page data run
  | allocate =>
      simp only [serve] at overflows
      split at overflows
      · cases overflows
      · next run =>
          cases overflows
          exact allocate_fits short run
  | count =>
      simp only [serve] at overflows
      split at overflows
      · cases overflows
      · next run =>
          cases overflows
          exact count_fits run

theorem pageSize_write {page : UInt32} {data : Bytes} {after : PageFile}
    (run : file.write page data = .ok after) : after.pageSize = file.pageSize := by
  obtain ⟨-, -, rfl⟩ := write_eq_ok_iff.mp run
  rfl

theorem pageSize_allocate {page : UInt32} {after : PageFile}
    (run : file.allocate = .ok (page, after)) : after.pageSize = file.pageSize := by
  rcases allocate_cases file with ⟨fault, -, failed⟩ | failed | ⟨number, wrote⟩
  · cases failed.symm.trans run
  · cases failed.symm.trans run
  · rw [wrote] at run
    cases written : file.write number (Bytes.zeros file.pageSize) with
    | error fault =>
        rw [written] at run
        cases run
    | ok after =>
        rw [written] at run
        cases run
        exact pageSize_write written

theorem pageSize_serve (call : Call) : (file.serve call).2.pageSize = file.pageSize := by
  cases call with
  | read page length =>
      simp only [serve]
      split
      · rfl
      · rfl
  | write page data =>
      simp only [serve]
      split
      · next run => exact pageSize_write run
      · rfl
  | allocate =>
      simp only [serve]
      split
      · next run => exact pageSize_allocate run
      · rfl
  | count =>
      simp only [serve]
      split
      · rfl
      · rfl

theorem serveAll_fits (short : file.pageSize < 2 ^ 32) (calls : List Call) :
    .fault .offsetOverflow ∉ (Call.serveAll serve file calls).1 := by
  induction calls generalizing file with
  | nil => exact List.not_mem_nil
  | cons call calls ih =>
      have later : (file.serve call).2.pageSize < 2 ^ 32 := (pageSize_serve call).symm ▸ short
      exact List.not_mem_cons_of_ne_of_not_mem (serve_fits short call).symm (ih later)

/-! ## Calls one after the other -/

/-- A file answers every sequence of calls as its array of pages does, and has the bytes of
this array at the end, as long as it has fewer pages than there are numbers for them.  On
each of its pages stands what was stored there last, else what stood there at the start,
and a file without a rest gets none.  No offset leaves the words if pages are short. -/
theorem page_files_are_arrays (file : PageFile) (sized : 0 < file.pageSize)
    (buffered : file.pageSize < bufferLimit) (calls : List Call)
    (countable : file.Countable calls) :
    let run := Call.serveAll serve file calls
    let array := Call.serveAll PageArray.serve (file.array sized) calls
    run.1 = array.1 ∧ run.2.content.bytes = array.2.bytes ∧
      run.2.wholePages = array.2.pages.length ∧
      (∀ page, array.2.pages[page]? =
        PageArray.lastStored file.pageSize page (file.page? page) (calls.zip run.1)) ∧
      (file.pageSize ∣ file.content.length → file.pageSize ∣ run.2.content.length) ∧
      (file.pageSize < 2 ^ 32 → .fault .offsetOverflow ∉ run.1) := by
  intro run array
  have holds := holds_array sized
  obtain ⟨answers, after⟩ := holds.serveAll buffered countable
  obtain ⟨size, rest, pages⟩ := (file.array sized).serveAll_keeps calls
  refine ⟨answers, after.bytes, after.wholePages, ?_, ?_, ?_⟩
  · intro page
    rw [← getElem?_array sized, show run.1 = array.1 from answers]
    exact pages page
  · intro multiple
    have none := after.rest_eq_nil_iff.mp (rest (holds.rest_eq_nil_iff.mpr multiple))
    rw [after.size, size] at none
    exact none
  · intro short
    exact serveAll_fits short calls

def onePageAndRest : PageFile := ⟨4, .ofBytes [1, 2, 3, 4, 5, 6]⟩

/-- The second page is written over the rest, a third one put behind it. -/
def callsOnRest : List Call :=
  [.read 1 4, .write 1 [7, 8, 9, 0], .write 3 [0, 0, 0, 0], .allocate, .read 1 4, .read 0 3,
    .count]

theorem page_and_rest_are_an_array :
    0 < onePageAndRest.pageSize ∧ onePageAndRest.pageSize < bufferLimit ∧
      onePageAndRest.Countable callsOnRest ∧
      (Call.serveAll serve onePageAndRest callsOnRest).1 =
        [.fault (.missingPage 1), .done, .fault (.pastEnd 3 2), .number 2, .page [7, 8, 9, 0],
          .fault (.bufferSize 4 3), .number 3] ∧
      (Call.serveAll serve onePageAndRest callsOnRest).2.content.bytes =
        [1, 2, 3, 4, 7, 8, 9, 0, 0, 0, 0, 0] := by
  have countable : onePageAndRest.Countable callsOnRest := by decide
  have buffered : onePageAndRest.pageSize < bufferLimit := by decide
  obtain ⟨answers, after, -⟩ :=
    page_files_are_arrays onePageAndRest (by decide) buffered callsOnRest countable
  refine ⟨by decide, buffered, countable, answers.trans ?_, after.trans ?_⟩
  · decide
  · decide

/-- A page of half as many bytes as there are words is longer than any buffer, so an empty
file gets none, although an array of such pages could be longer. -/
theorem empty_file_of_longest_pages :
    let file : PageFile := ⟨2 ^ 63, ∅⟩
    ∃ sized : 0 < file.pageSize, file.Countable [.allocate] ∧
      (Call.serveAll serve file [.allocate]).1 = [.fault .noBuffer] ∧
      (Call.serveAll PageArray.serve (file.array sized) [.allocate]).1 = [.number 0] := by
  refine ⟨by decide, by decide, by decide, ?_⟩
  rfl

end PageFile

end TableStore
