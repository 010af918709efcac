import TableStore.Proofs.SerialRequests
import TableStore.Proofs.TableEntries

/-!
# Inventories

The rows of a table by their places.  A scan lists them in the order of the
places; an insertion adds a row at a place that was free, and a deletion takes
away the row at a place and no other.
-/

set_option autoImplicit false

namespace TableStore

/-- The values of rows by the places of the rows. -/
abbrev Inventory := SortedMap Location (List Value)

def Inventory.list (inventory : Inventory) : List Entry :=
  inventory.entries.map fun (place, values) => (some place, values)

namespace Inventory

variable {inventory : Inventory} {place : Location} {values : List Value}

theorem before (inventory : Inventory) : inventory.list.Pairwise Entry.Before := by
  rw [list, List.pairwise_map]
  apply inventory.increasing.imp
  intro first second less
  exact ⟨_, _, rfl, rfl, less⟩

theorem mem_list : (some place, values) ∈ inventory.list ↔ inventory.get? place = some values := by
  rw [← SortedMap.mem_entries_iff, list, List.mem_map]
  constructor
  · rintro ⟨⟨own, row⟩, member, same⟩
    cases same
    exact member
  · intro member
    exact ⟨_, member, rfl⟩

theorem placed_of_mem {entry : Entry} (member : entry ∈ inventory.list) :
    ∃ place, entry.1 = some place := by
  obtain ⟨⟨place, values⟩, -, rfl⟩ := List.mem_map.mp member
  exact ⟨place, rfl⟩

end Inventory

/-! ## Rows of one page -/

namespace Contents

variable {id : PageId} {contents : Contents} {place : Location} {values : List Value}

theorem mem_rows_iff (small : contents.length ≤ Page.addressableSlots) :
    (some place, values) ∈ contents.rows id ↔
      place.page = id ∧ contents[place.slot.toNat]? = some (some values) := by
  rw [Contents.rows, List.mem_filterMap]
  constructor
  · rintro ⟨⟨slot, number⟩, member, made⟩
    obtain ⟨row, rfl, same⟩ := Option.map_eq_some_iff.mp made
    have found : contents[number]? = some (some row) := List.mem_zipIdx_iff_getElem?.mp member
    obtain ⟨inside, -⟩ := List.getElem?_eq_some_iff.mp found
    cases same
    refine ⟨rfl, ?_⟩
    rw [toNat_slot inside small]
    exact found
  · rintro ⟨rfl, found⟩
    refine ⟨(some values, place.slot.toNat), List.mem_zipIdx_iff_getElem?.mpr found, ?_⟩
    simp only [Option.map_some, UInt16.ofNat_toNat]

end Contents

/-! ## Rows of a table -/

namespace Tables

variable {tables later : Tables} {table : Table} {number slot : Nat} {place : Location}
  {values : List Value} {contents : Contents} {inventory : Inventory}

def row? (tables : Tables) (table : Table) (place : Location) : Option (List Value) :=
  if place.page.table = table.id ∧ place.page.number.toNat < tables.count table.id then
    match tables.page place.page with
    | .ok contents => contents[place.slot.toNat]?.join
    | .error _ => none
  else none

/-- The pages of the table can be read, and have the rows of the inventory. -/
structure Holds (tables : Tables) (table : Table) (inventory : Inventory) : Prop
    extends tables.Readable table where
  row : ∀ place, inventory.get? place = tables.row? table place

theorem row?_eq_some (seen : tables.page place.page = .ok contents)
    (own : place.page.table = table.id)
    (inside : place.page.number.toNat < tables.count table.id) :
    tables.row? table place = some values ↔
      contents[place.slot.toNat]? = some (some values) := by
  rw [row?, if_pos ⟨own, inside⟩, seen]
  exact Option.join_eq_some_iff

theorem own_of_row? (found : tables.row? table place = some values) :
    place.page.table = table.id ∧ place.page.number.toNat < tables.count table.id := by
  by_contra foreign
  rw [row?, if_neg foreign] at found
  cases found

theorem Readable.mem_entries_iff (readable : tables.Readable table)
    (small : tables.count table.id < 2 ^ 32) :
    (some place, values) ∈ tables.entries table (tables.count table.id) ↔
      tables.row? table place = some values := by
  rw [Tables.mem_entries_iff]
  constructor
  · rintro ⟨page, below, member⟩
    obtain ⟨contents, seen, slots⟩ := readable.page page below
    rw [rowsOf, seen] at member
    obtain ⟨here, found⟩ := (Contents.mem_rows_iff slots).mp member
    rw [← here] at seen
    apply (row?_eq_some seen _ _).mpr found
    · rw [here]
      rfl
    · rw [here, Table.toNat_page (by omega)]
      exact below
  · intro found
    obtain ⟨own, inside⟩ := own_of_row? found
    have here := Table.page_of_own own
    obtain ⟨contents, seen, slots⟩ := readable.page _ inside
    refine ⟨_, inside, ?_⟩
    rw [rowsOf, seen, Contents.mem_rows_iff slots]
    exact ⟨here.symm, (row?_eq_some (here ▸ seen) own inside).mp found⟩

theorem Holds.entries (holds : tables.Holds table inventory)
    (small : tables.count table.id < 2 ^ 32) :
    tables.entries table (tables.count table.id) = inventory.list := by
  have sorted := holds.before (Nat.le_refl _) small
  have same : (tables.entries table (tables.count table.id)).Perm inventory.list := by
    rw [List.perm_ext_iff_of_nodup (Entry.nodup_of_before sorted)
      (Entry.nodup_of_before inventory.before)]
    rintro ⟨place, values⟩
    cases place with
    | some place =>
        rw [holds.mem_entries_iff small, Inventory.mem_list, holds.row]
    | none =>
        constructor
        · intro member
          obtain ⟨page, -, slot, placed⟩ := mem_entries member
          cases placed
        · intro member
          obtain ⟨place, placed⟩ := Inventory.placed_of_mem member
          cases placed
  exact same.eq_of_pairwise (fun _ _ _ _ first second => absurd second first.asymm) sorted
    inventory.before

theorem Holds.scan (holds : tables.Holds table inventory)
    (small : tables.count table.id < 2 ^ 32) : tables.scan table = (inventory.list, none) := by
  rw [holds.toReadable.scan, holds.entries small]

/-! ## Changes -/

theorem row?_of_page (seen : tables.page (table.page (UInt32.ofNat number)) = .ok contents)
    (inside : number < tables.count table.id) (small : tables.count table.id < 2 ^ 32)
    (slot : UInt16) :
    tables.row? table ⟨table.page (UInt32.ofNat number), slot⟩ = contents[slot.toNat]?.join := by
  have numbered : (table.page (UInt32.ofNat number)).number.toNat = number :=
    Table.toNat_page (by omega)
  rw [row?, if_pos ⟨rfl, numbered.symm ▸ inside⟩, seen]

theorem row?_edit (seen : tables.page (table.page (UInt32.ofNat number)) = .ok contents)
    (inside : number < tables.count table.id) (small : tables.count table.id < 2 ^ 32)
    (within : slot < contents.length) (slots : contents.length ≤ Page.addressableSlots)
    (row : Option (List Value)) (place : Location) :
    (tables.edit contents ⟨table.page (UInt32.ofNat number), slot, row⟩).row? table place =
      if place = ⟨table.page (UInt32.ofNat number), UInt16.ofNat slot⟩ then row
      else tables.row? table place := by
  by_cases same : place = ⟨table.page (UInt32.ofNat number), UInt16.ofNat slot⟩
  · have changed : (tables.edit contents
        ⟨table.page (UInt32.ofNat number), slot, row⟩).page (table.page (UInt32.ofNat number)) =
          .ok (contents.set slot row) := by
      simp only [Tables.edit, if_true, Change.apply]
    rw [if_pos same, same, row?_of_page changed inside small, Contents.toNat_slot within slots,
      List.getElem?_set_self within, Option.join_some]
  · rw [if_neg same, row?, row?]
    by_cases here : place.page = table.page (UInt32.ofNat number)
    · have apart : slot ≠ place.slot.toNat := by
        rintro rfl
        apply same
        rw [UInt16.ofNat_toNat, ← here]
      simp only [Tables.edit, here, if_true, Change.apply, seen, List.getElem?_set_ne apart]
    · simp only [Tables.edit, here, if_false]

theorem Readable.row?_grow (readable : tables.Readable table)
    (small : tables.count table.id < 2 ^ 32) (place : Location) :
    (tables.grow table).row? table place = tables.row? table place := by
  by_cases own : place.page.table = table.id
  · have here := Table.page_of_own own
    rcases Nat.lt_trichotomy place.page.number.toNat (tables.count table.id) with
      below | last | above
    · have kept := page_grow below small
      rw [here] at kept
      rw [row?, row?, count_grow, if_pos ⟨own, by omega⟩, if_pos ⟨own, below⟩, kept]
    · obtain ⟨count, seen, -⟩ := readable.blank
      rw [next_eq, ← last, here] at seen
      rw [row?, row?, count_grow, if_pos ⟨own, by omega⟩, if_neg (by omega), seen]
      simp only [List.getElem?_replicate]
      split
      · rfl
      · rfl
    · rw [row?, row?, count_grow, if_neg (by omega), if_neg (by omega)]
  · rw [row?, row?, if_neg fun wrong => own wrong.1, if_neg fun wrong => own wrong.1]

theorem Holds.grow (holds : tables.Holds table inventory)
    (small : tables.count table.id < 2 ^ 32) : (tables.grow table).Holds table inventory where
  toReadable := holds.toReadable.grow small
  row place := (holds.row place).trans (holds.row?_grow small place).symm

structure Adds (later : Tables) (table : Table) (inventory : Inventory) (place : Location)
    (values : List Value) : Prop where
  own : place.page.table = table.id
  free : inventory.get? place = none
  holds : later.Holds table (inventory.insert place values)

theorem Holds.adds (holds : tables.Holds table inventory)
    (small : tables.count table.id < 2 ^ 32) (inside : number < tables.count table.id)
    (seen : tables.page (table.page (UInt32.ofNat number)) = .ok contents)
    (free : contents[slot]? = some none) (values : List Value) :
    (tables.edit contents ⟨table.page (UInt32.ofNat number), slot, some values⟩).Adds table
      inventory ⟨table.page (UInt32.ofNat number), UInt16.ofNat slot⟩ values := by
  obtain ⟨within, -⟩ := List.getElem?_eq_some_iff.mp free
  obtain ⟨again, known, slots⟩ := holds.page number inside
  cases seen.symm.trans known
  refine ⟨rfl, ?_, holds.toReadable.edit seen inside _, fun place => ?_⟩
  · rw [holds.row, row?_of_page seen inside small, Contents.toNat_slot within slots, free,
      Option.join_some]
  · rw [SortedMap.get?_insert, row?_edit seen inside small within slots, holds.row]

theorem Holds.putBehind (holds : tables.Holds table inventory)
    (small : tables.count table.id + 1 < 2 ^ 32) (buffered : ¬ tables.Unbuffered table)
    (values : List Value) :
    ∃ place later, tables.putBehind table values = (.ok (some place, values), later) ∧
      later.Adds table inventory place values := by
  obtain ⟨slots, seen, -⟩ := holds.blank
  have more : (tables.grow table).count table.id = tables.count table.id + 1 := count_grow
  have free : (List.replicate slots (none : Option (List Value)))[0]? = some none :=
    Contents.free_of_findIdx? (Store.firstFree_grow seen)
  rw [Tables.putBehind, if_neg buffered, seen]
  exact ⟨_, _, rfl, (holds.grow (by omega)).adds (by omega) (by omega) seen free values⟩

theorem Holds.putFrom (holds : tables.Holds table inventory)
    (small : tables.count table.id + 1 < 2 ^ 32) (buffered : ¬ tables.Unbuffered table)
    (values : List Value) (left : Nat)
    (inside : number + left ≤ tables.count table.id) :
    ∃ place later, tables.putFrom table values left number = (.ok (some place, values), later) ∧
      later.Adds table inventory place values := by
  induction left generalizing number with
  | zero => exact holds.putBehind small buffered values
  | succ left ih =>
      obtain ⟨contents, seen, -⟩ := holds.page number (by omega)
      rw [Tables.putFrom]
      cases free : contents.findIdx? Option.isNone with
      | some slot =>
          simp only [seen, free]
          exact ⟨_, _, rfl, holds.adds (by omega) (by omega) seen
            (Contents.free_of_findIdx? free) values⟩
      | none =>
          simp only [seen, free]
          exact ih (by omega)

theorem Holds.insert (holds : tables.Holds table inventory)
    (small : tables.count table.id + 1 < 2 ^ 32) (buffered : ¬ tables.Unbuffered table) {row : Row}
    (alike : row.schema.alike table.schema = true) :
    ∃ place later, tables.insert table row = (.ok (some place, row.values), later) ∧
      later.Adds table inventory place row.values := by
  rw [Tables.insert, if_pos alike, if_neg (Nat.ne_of_gt holds.sized)]
  exact holds.putFrom small buffered row.values _ (by omega)

/-- No row is inserted onto pages that no buffer holds. -/
theorem Holds.insert_of_unbuffered (holds : tables.Holds table inventory)
    (unbuffered : tables.Unbuffered table) {row : Row}
    (alike : row.schema.alike table.schema = true) :
    tables.insert table row = (.error (.io .noBuffer), tables) := by
  rw [Tables.insert, if_pos alike, if_neg (Nat.ne_of_gt holds.sized), unbuffered.2, Tables.putFrom,
    Tables.putBehind, if_pos unbuffered]

theorem Holds.delete (holds : tables.Holds table inventory)
    (small : tables.count table.id < 2 ^ 32) (found : inventory.get? place = some values) :
    ∃ later, tables.delete table place = (.ok place.page, later) ∧
      later.Holds table (inventory.erase place) := by
  rw [holds.row] at found
  obtain ⟨own, inside⟩ := own_of_row? found
  have here := Table.page_of_own own
  obtain ⟨contents, seen, slots⟩ := holds.page _ inside
  have used : contents[place.slot.toNat]? = some (some values) :=
    (row?_eq_some (here ▸ seen) own inside).mp found
  obtain ⟨within, -⟩ := List.getElem?_eq_some_iff.mp used
  refine ⟨tables.edit contents
    ⟨table.page (UInt32.ofNat place.page.number.toNat), place.slot.toNat, none⟩, ?_,
    holds.toReadable.edit seen inside none, fun other => ?_⟩
  · rw [Tables.delete, if_neg (Nat.ne_of_gt holds.sized), if_pos inside, ← here, seen]
    simp only [here, used]
  · rw [SortedMap.get?_erase, row?_edit seen inside small within slots, here, UInt16.ofNat_toNat,
      holds.row]

theorem Holds.congr (holds : tables.Holds table inventory)
    (pages : ∀ id, id.table = table.id → later.page id = tables.page id)
    (count : later.count table.id = tables.count table.id) : later.Holds table inventory where
  slots := holds.slots
  page number inside := by
    rw [pages _ rfl]
    exact holds.page number (count ▸ inside)
  row place := by
    rw [holds.row, row?, row?, count]
    split
    · next own => rw [pages _ own.1]
    · rfl

end Tables

end TableStore
