import Mathlib.Algebra.Group.Nat.Defs
import Mathlib.Data.List.Nodup
import TableStore.Proofs.PageBytes
import TableStore.Proofs.PlainTables

/-!
# Rows of plain tables

The rows of a table are those of its pages in order, each with its place.  If
every page can be read, a scan yields them all, no two of them at the same place.
A row that goes into a free slot is added to them, and an empty page adds none.
-/

set_option autoImplicit false

namespace TableStore

/-! ## The order of places -/

theorem Location.compare_of_slot {id : PageId} {first second : UInt16}
    (less : first.toNat < second.toNat) :
    compare (⟨id, first⟩ : Location) ⟨id, second⟩ = .lt := by
  have slots : compare first second = .lt := Std.compare_eq_lt.mpr less
  exact Ordering.then_eq_lt.mpr (.inr ⟨Std.ReflCmp.compare_self, slots⟩)

theorem Location.compare_of_page {table : Table} {first second : UInt32} {slot other : UInt16}
    (less : first.toNat < second.toNat) :
    compare (⟨table.page first, slot⟩ : Location) ⟨table.page second, other⟩ = .lt := by
  have numbers : compare first second = .lt := Std.compare_eq_lt.mpr less
  have pages : compare (table.page first) (table.page second) = .lt :=
    Ordering.then_eq_lt.mpr (.inr ⟨Std.ReflCmp.compare_self, numbers⟩)
  exact Ordering.then_eq_lt.mpr (.inl pages)

def Entry.Before (first second : Entry) : Prop :=
  ∃ place later, first.1 = some place ∧ second.1 = some later ∧ compare place later = .lt

theorem Entry.Before.apart {first second : Entry} (before : Entry.Before first second) :
    first.1 ≠ second.1 := by
  obtain ⟨place, later, here, there, less⟩ := before
  rintro same
  cases here.symm.trans (same.trans there)
  exact absurd (Std.ReflCmp.compare_self.symm.trans less) (by decide)

theorem Entry.Before.asymm {first second : Entry} (before : Entry.Before first second) :
    ¬Entry.Before second first := by
  rintro ⟨place, later, placed, after, less⟩
  obtain ⟨own, other, here, there, greater⟩ := before
  cases here.symm.trans after
  cases there.symm.trans placed
  have same : compare place place = .lt := Std.TransCmp.lt_trans less greater
  exact absurd (Std.ReflCmp.compare_self.symm.trans same) (by decide)

theorem Entry.nodup_of_before {entries : List Entry} (sorted : entries.Pairwise Entry.Before) :
    entries.Nodup :=
  sorted.imp fun before same => before.apart (congrArg Prod.fst same)

/-! ## Rows of one page -/

namespace Contents

variable {id : PageId} {contents : Contents} {slot : Nat} {values : List Value}

theorem free_of_findIdx? (found : contents.findIdx? Option.isNone = some slot) :
    contents[slot]? = some none := by
  obtain ⟨inside, free, -⟩ := List.findIdx?_eq_some_iff_getElem.mp found
  rw [List.getElem?_eq_getElem inside, Option.isNone_iff_eq_none.mp free]

def entryOf (id : PageId) : Option (List Value) × Nat → Option Entry
  | (slot, number) => slot.map fun values => (some ⟨id, UInt16.ofNat number⟩, values)

theorem rows_set_from (id : PageId) (values : List Value) (contents : Contents)
    (slot offset : Nat) (free : contents[slot]? = some none) :
    List.Perm (((contents.set slot (some values)).zipIdx offset).filterMap (entryOf id))
      ((some ⟨id, UInt16.ofNat (offset + slot)⟩, values) ::
        (contents.zipIdx offset).filterMap (entryOf id)) := by
  induction contents generalizing slot offset with
  | nil => cases free
  | cons first rest ih =>
      cases slot with
      | zero =>
          cases free
          exact .refl _
      | succ slot =>
          have later := ih slot (offset + 1) free
          rw [Nat.add_assoc, Nat.add_comm 1] at later
          rw [List.set_cons_succ, List.zipIdx_cons, List.zipIdx_cons]
          cases first with
          | none => exact later
          | some own => exact (later.cons _).trans (.swap _ _ _)

theorem rows_set (free : contents[slot]? = some none) :
    List.Perm (Contents.rows (contents.set slot (some values)) id)
      ((some ⟨id, UInt16.ofNat slot⟩, values) :: contents.rows id) := by
  have placed := rows_set_from id values contents slot 0 free
  rw [Nat.zero_add] at placed
  exact placed

theorem mem_rows {entry : Entry} (member : entry ∈ contents.rows id) :
    ∃ slot, entry.1 = some ⟨id, slot⟩ := by
  obtain ⟨⟨slot, number⟩, -, made⟩ := List.mem_filterMap.mp member
  obtain ⟨values, -, rfl⟩ := Option.map_eq_some_iff.mp made
  exact ⟨_, rfl⟩

theorem toNat_slot {slot : Nat} (within : slot < contents.length)
    (slots : contents.length ≤ Page.addressableSlots) : (UInt16.ofNat slot).toNat = slot := by
  rw [Page.addressableSlots, UInt16.size] at slots
  rw [UInt16.toNat_ofNat', Nat.mod_eq_of_lt (by omega)]

/-- The rows of a page are listed in the order of their slots, if a location can tell
these apart. -/
theorem before_from (id : PageId) (contents : Contents) (offset : Nat)
    (small : offset + contents.length ≤ Page.addressableSlots) :
    ((contents.zipIdx offset).filterMap (entryOf id)).Pairwise Entry.Before := by
  induction contents generalizing offset with
  | nil => exact .nil
  | cons first rest ih =>
      rw [List.length_cons] at small
      have later := ih (offset + 1) (by omega)
      rw [List.zipIdx_cons]
      cases first with
      | none => exact later
      | some values =>
          refine List.pairwise_cons.mpr ⟨fun entry member => ?_, later⟩
          obtain ⟨⟨slot, number⟩, inside, made⟩ := List.mem_filterMap.mp member
          obtain ⟨behind, within, -⟩ := List.mem_zipIdx inside
          obtain ⟨row, -, rfl⟩ := Option.map_eq_some_iff.mp made
          refine ⟨_, _, rfl, rfl, Location.compare_of_slot ?_⟩
          rw [Page.addressableSlots, UInt16.size] at small
          rw [UInt16.toNat_ofNat', UInt16.toNat_ofNat', Nat.mod_eq_of_lt (by omega),
            Nat.mod_eq_of_lt (by omega)]
          exact behind

end Contents

/-! ## Rows of a table -/

theorem Table.toNat_page {table : Table} {number : Nat} (small : number < 2 ^ 32) :
    (table.page (UInt32.ofNat number)).number.toNat = number := by
  rw [Table.page, UInt32.toNat_ofNat', Nat.mod_eq_of_lt small]

theorem Table.page_of_own {table : Table} {id : PageId} (own : id.table = table.id) :
    table.page (UInt32.ofNat id.number.toNat) = id := by
  rw [Table.page, UInt32.ofNat_toNat, ← own]

theorem Table.page_ofNat_inj {table : Table} {first second : Nat} (inside : first < 2 ^ 32)
    (within : second < 2 ^ 32)
    (same : table.page (UInt32.ofNat first) = table.page (UInt32.ofNat second)) :
    first = second := by
  have numbers := congrArg (fun id => id.number.toNat) same
  simp only [Table.page] at numbers
  rwa [UInt32.toNat_ofNat', UInt32.toNat_ofNat', Nat.mod_eq_of_lt inside,
    Nat.mod_eq_of_lt within] at numbers

namespace Tables

def rowsOf (tables : Tables) (id : PageId) : List Entry :=
  match tables.page id with
  | .ok contents => contents.rows id
  | .error _ => []

def entries (tables : Tables) (table : Table) : Nat → List Entry
  | 0 => []
  | number + 1 => entries tables table number ++ tables.rowsOf (table.page (UInt32.ofNat number))

/-- Every page of the table can be read and has slots that a location can tell
apart, and so has every page that is appended. -/
structure Readable (tables : Tables) (table : Table) : Prop where
  slots : ∃ count, Page.slotCount table.schema table.pageSize = .ok count
  page : ∀ number < tables.count table.id, ∃ contents,
    tables.page (table.page (UInt32.ofNat number)) = .ok contents ∧
      contents.length ≤ Page.addressableSlots

variable {tables : Tables} {table : Table} {number slot : Nat} {values : List Value}
  {contents : Contents}

theorem Readable.sized (readable : tables.Readable table) : 0 < table.pageSize := by
  obtain ⟨count, counted⟩ := readable.slots
  obtain ⟨-, some, -, exact⟩ := Page.slotCount_facts counted
  apply Nat.pos_of_ne_zero
  intro unsized
  rw [unsized, Page.slotsPerPage, Nat.zero_mul, Nat.zero_div] at exact
  omega

theorem Readable.rowsFrom (readable : tables.Readable table) (left : Nat)
    (inside : number + left ≤ tables.count table.id) :
    (tables.rowsFrom table left number).2 = none ∧
      tables.entries table number ++ (tables.rowsFrom table left number).1 =
        tables.entries table (number + left) := by
  induction left generalizing number with
  | zero => exact ⟨rfl, List.append_nil _⟩
  | succ left ih =>
      obtain ⟨contents, seen, -⟩ := readable.page number (by omega)
      obtain ⟨whole, rest⟩ := @ih (number + 1) (by omega)
      have first : tables.entries table (number + 1) =
          tables.entries table number ++ contents.rows (table.page (UInt32.ofNat number)) := by
        rw [entries, rowsOf, seen]
      rw [first, List.append_assoc, Nat.add_assoc, Nat.add_comm 1] at rest
      rw [Tables.rowsFrom]
      simp only [seen]
      exact ⟨whole, rest⟩

theorem Readable.scan (readable : tables.Readable table) :
    tables.scan table = (tables.entries table (tables.count table.id), none) := by
  have inside : 0 + tables.count table.id ≤ tables.count table.id := by omega
  obtain ⟨whole, rows⟩ := readable.rowsFrom (tables.count table.id) inside
  rw [Nat.zero_add] at rows
  rw [Tables.scan, if_neg (Nat.ne_of_gt readable.sized)]
  exact Prod.ext rows whole

theorem mem_entries_iff {entry : Entry} : entry ∈ tables.entries table number ↔
    ∃ page < number, entry ∈ tables.rowsOf (table.page (UInt32.ofNat page)) := by
  induction number with
  | zero => simp [entries]
  | succ number ih =>
      rw [entries, List.mem_append, ih]
      constructor
      · rintro (⟨page, below, member⟩ | member)
        · exact ⟨page, by omega, member⟩
        · exact ⟨number, Nat.lt_succ_self number, member⟩
      · rintro ⟨page, below, member⟩
        by_cases last : page = number
        · exact .inr (last ▸ member)
        · exact .inl ⟨page, by omega, member⟩

theorem mem_entries {entry : Entry} (member : entry ∈ tables.entries table number) :
    ∃ page < number, ∃ slot, entry.1 = some ⟨table.page (UInt32.ofNat page), slot⟩ := by
  obtain ⟨page, below, here⟩ := mem_entries_iff.mp member
  rw [rowsOf] at here
  split at here
  · obtain ⟨slot, placed⟩ := Contents.mem_rows here
    exact ⟨page, below, slot, placed⟩
  · cases here

theorem Readable.before (readable : tables.Readable table)
    (inside : number ≤ tables.count table.id) (small : number < 2 ^ 32) :
    (tables.entries table number).Pairwise Entry.Before := by
  induction number with
  | zero => exact .nil
  | succ number ih =>
      obtain ⟨contents, seen, slots⟩ := readable.page number inside
      rw [entries, rowsOf, seen, List.pairwise_append]
      refine ⟨ih (by omega) (by omega), Contents.before_from _ contents 0 (by omega), ?_⟩
      intro first earlier second here
      obtain ⟨page, below, slot, placed⟩ := mem_entries earlier
      obtain ⟨other, own⟩ := Contents.mem_rows here
      refine ⟨_, _, placed, own, Location.compare_of_page ?_⟩
      rw [UInt32.toNat_ofNat', UInt32.toNat_ofNat', Nat.mod_eq_of_lt (by omega),
        Nat.mod_eq_of_lt (by omega)]
      exact below

theorem Readable.locations_nodup (readable : tables.Readable table)
    (inside : number ≤ tables.count table.id) (small : number < 2 ^ 32) :
    ((tables.entries table number).map Prod.fst).Nodup :=
  List.pairwise_map.mpr ((readable.before inside small).imp Entry.Before.apart)

/-! ## Changes -/

theorem Readable.edit (readable : tables.Readable table)
    (seen : tables.page (table.page (UInt32.ofNat number)) = .ok contents)
    (inside : number < tables.count table.id) (row : Option (List Value)) :
    (tables.edit contents ⟨table.page (UInt32.ofNat number), slot, row⟩).Readable table where
  slots := readable.slots
  page other within := by
    by_cases here : table.page (UInt32.ofNat other) = table.page (UInt32.ofNat number)
    · obtain ⟨before, known, bound⟩ := readable.page number inside
      cases seen.symm.trans known
      refine ⟨contents.set slot row, ?_, ?_⟩
      · simp only [Tables.edit, here, if_true, Change.apply]
      · rw [List.length_set]
        exact bound
    · obtain ⟨before, known, bound⟩ := readable.page other within
      refine ⟨before, ?_, bound⟩
      simp only [Tables.edit, here, if_false]
      exact known

theorem entries_congr {later : Tables}
    (same : ∀ page < number, later.page (table.page (UInt32.ofNat page)) =
      tables.page (table.page (UInt32.ofNat page))) :
    later.entries table number = tables.entries table number := by
  induction number with
  | zero => rfl
  | succ number ih =>
      have before := ih fun page below => same page (by omega)
      rw [entries, entries, before, rowsOf, rowsOf, same number (Nat.lt_succ_self number)]

/-- A row that goes into a free slot is added to the rows of its table. -/
theorem entries_put {page : Nat}
    (seen : tables.page (table.page (UInt32.ofNat page)) = .ok contents)
    (free : contents[slot]? = some none) (inside : page < number) (small : number < 2 ^ 32) :
    List.Perm
      ((tables.edit contents ⟨table.page (UInt32.ofNat page), slot, some values⟩).entries table
        number)
      ((some ⟨table.page (UInt32.ofNat page), UInt16.ofNat slot⟩, values) ::
        tables.entries table number) := by
  have elsewhere (other : Nat) (different : other ≠ page) (below : other < number) :
      (tables.edit contents ⟨table.page (UInt32.ofNat page), slot, some values⟩).page
          (table.page (UInt32.ofNat other)) =
        tables.page (table.page (UInt32.ofNat other)) := by
    simp only [edit]
    rw [if_neg]
    intro same
    exact different (Table.page_ofNat_inj (by omega) (by omega) same)
  induction number with
  | zero => omega
  | succ number ih =>
      rw [entries, entries]
      by_cases last : page = number
      · subst last
        have before : (tables.edit contents
            ⟨table.page (UInt32.ofNat page), slot, some values⟩).entries table page =
              tables.entries table page :=
          entries_congr fun other below => elsewhere other (by omega) (by omega)
        have here : (tables.edit contents
            ⟨table.page (UInt32.ofNat page), slot, some values⟩).rowsOf
              (table.page (UInt32.ofNat page)) =
            Contents.rows (contents.set slot (some values)) (table.page (UInt32.ofNat page)) := by
          simp only [rowsOf, edit, if_true, Change.apply]
        rw [before, here, rowsOf, seen]
        exact ((Contents.rows_set free).append_left _).trans List.perm_middle
      · have before := ih (by omega) (by omega) fun other different below =>
          elsewhere other different (by omega)
        rw [rowsOf, rowsOf, elsewhere number (Ne.symm last) (Nat.lt_succ_self number)]
        exact before.append_right _

theorem next_eq (tables : Tables) (table : Table) :
    tables.next table = table.page (UInt32.ofNat (tables.count table.id)) := rfl

theorem count_grow : (tables.grow table).count table.id = tables.count table.id + 1 := by
  simp only [grow, if_true]

theorem page_grow (below : number < tables.count table.id)
    (small : tables.count table.id < 2 ^ 32) :
    (tables.grow table).page (table.page (UInt32.ofNat number)) =
      tables.page (table.page (UInt32.ofNat number)) := by
  simp only [grow]
  rw [if_neg]
  intro same
  have numbers := Table.page_ofNat_inj (by omega) (by omega) (same.trans (next_eq tables table))
  omega

theorem Readable.blank (readable : tables.Readable table) :
    ∃ count, (tables.grow table).page (tables.next table) = .ok (List.replicate count none) ∧
      count ≤ Page.addressableSlots := by
  obtain ⟨count, counted⟩ := readable.slots
  obtain ⟨page, made, empty⟩ := Page.empty_of_slotCount (tables.next table) counted
  refine ⟨count, ?_, (Page.slotCount_facts counted).2.2.1⟩
  simp only [grow, if_true, made]
  exact congrArg Except.ok empty

theorem Readable.grow (readable : tables.Readable table) (small : tables.count table.id < 2 ^ 32) :
    (tables.grow table).Readable table where
  slots := readable.slots
  page number inside := by
    rw [count_grow] at inside
    by_cases last : number = tables.count table.id
    · subst last
      obtain ⟨count, seen, bound⟩ := readable.blank
      exact ⟨_, seen, by rwa [List.length_replicate]⟩
    · rw [page_grow (by omega) small]
      exact readable.page number (by omega)

/-- An appended page adds no rows. -/
theorem Readable.entries_grow (readable : tables.Readable table)
    (small : tables.count table.id < 2 ^ 32) :
    (tables.grow table).entries table ((tables.grow table).count table.id) =
      tables.entries table (tables.count table.id) := by
  obtain ⟨count, seen, -⟩ := readable.blank
  have none : Contents.rows (List.replicate count none) (tables.next table) = [] := by
    rw [Contents.rows, List.filterMap_eq_nil_iff]
    rintro ⟨slot, number⟩ member
    obtain ⟨-, -, free⟩ := List.mem_zipIdx member
    rw [free, List.getElem_replicate]
    rfl
  rw [count_grow, entries, rowsOf, ← next_eq, seen]
  simp only [none, List.append_nil]
  exact entries_congr fun page below => page_grow below small

end Tables

end TableStore
