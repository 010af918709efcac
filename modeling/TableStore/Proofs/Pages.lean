import TableStore.Page
import TableStore.Proofs.Rows

/-!
# What pages hold

The contents of a page are the values in its slots.  On a sound page the header
and the slots agree; every page that is read from bytes is sound, insertions and
deletions keep it so and change one slot, and the bytes of a sound page are read
back as a page with the same contents.
-/

set_option autoImplicit false

namespace TableStore

/-- What the slots of a page hold: the values of a row, or nothing.  The place
of a row on its page is its position, and column names play no part. -/
abbrev Contents := List (Option (List Value))

namespace Page

def contents (page : Page) : Contents :=
  (page.occupied.zip page.slots).map fun
    | (true, row) => row.map Row.values
    | (false, _) => none

/-- A page whose header, slots and rows agree with each other. -/
structure Sound (page : Page) : Prop where
  slotCount : slotCount page.schema page.size = .ok page.slots.length
  header : page.header.length = headerSize page.slots.length
  occupied : page.occupied = page.slots.map Option.isSome
  row : ∀ (slot : Nat) (row : Row), page.slots[slot]? = some (some row) →
    row.schema.alike page.schema = true ∧
      row.location = some ⟨page.id, UInt16.ofNat slot⟩

/-! ## Room on a page -/

theorem slotCount_facts {schema : Schema} {size count : Nat}
    (run : Page.slotCount schema size = .ok count) :
    0 < schema.rowWidth ∧ 0 < count ∧ count ≤ addressableSlots ∧
      count = slotsPerPage size schema.rowWidth := by
  simp only [Page.slotCount] at run
  split at run
  · cases run
  · split at run
    · cases run
    · split at run
      · cases run
      · next width count small =>
          cases run
          exact ⟨Nat.pos_of_ne_zero width, Nat.pos_of_ne_zero count, by omega, rfl⟩

/-- Rows of a width fit on a page behind their bits exactly up to the computed number. -/
theorem header_and_slots_le_iff (size width count : Nat) :
    headerSize count + count * width ≤ size ↔ count ≤ slotsPerPage size width := by
  have spread : count * (width * 8 + 1) = 8 * (count * width) + count := by
    rw [Nat.mul_add, Nat.mul_one, ← Nat.mul_assoc, Nat.mul_comm _ 8]
  rw [slotsPerPage, Nat.le_div_iff_mul_le (Nat.succ_pos _), spread, headerSize]
  omega

theorem slots_fit (size width : Nat) :
    headerSize (slotsPerPage size width) + slotsPerPage size width * width ≤ size :=
  (header_and_slots_le_iff size width _).mpr (Nat.le_refl _)

theorem header_and_slots_fit {schema : Schema} {size count : Nat}
    (run : Page.slotCount schema size = .ok count) :
    headerSize count + count * schema.rowWidth ≤ size := by
  obtain ⟨-, -, -, rfl⟩ := slotCount_facts run
  exact slots_fit size schema.rowWidth

theorem slots_le_header_bits (slots : Nat) : slots ≤ 8 * headerSize slots := by
  simp only [headerSize]
  omega

theorem toNat_slot {schema : Schema} {size count slot : Nat}
    (run : Page.slotCount schema size = .ok count) (inside : slot < count) :
    (UInt16.ofNat slot).toNat = slot := by
  obtain ⟨-, -, small, -⟩ := slotCount_facts run
  simp only [addressableSlots, UInt16.size] at small
  simp only [UInt16.toNat_ofNat']
  omega

/-! ## Contents of sound pages -/

variable {page : Page}

theorem Sound.contents_eq (sound : page.Sound) :
    page.contents = page.slots.map (Option.map Row.values) := by
  rw [contents, sound.occupied]
  generalize page.slots = slots
  induction slots with
  | nil => rfl
  | cons slot slots ih => cases slot <;> simp [ih]

@[simp] theorem Sound.length_contents (sound : page.Sound) :
    page.contents.length = page.slots.length := by
  simp [sound.contents_eq]

theorem Sound.isUsed_iff (sound : page.Sound) (slot : Nat) :
    page.isUsed slot = true ↔ ∃ values, page.contents[slot]? = some (some values) := by
  rw [isUsed, sound.occupied, sound.contents_eq]
  cases found : page.slots[slot]? with
  | none => simp [found]
  | some row => cases row <;> simp [found]

theorem Sound.freeCount_eq (sound : page.Sound) :
    page.freeCount = page.contents.countP Option.isNone := by
  rw [freeCount, sound.occupied, sound.contents_eq, List.countP_map, List.countP_map]
  congr 1
  funext slot
  cases slot <;> rfl

theorem Sound.firstFree_eq (sound : page.Sound) :
    page.firstFree? = page.contents.findIdx? Option.isNone := by
  rw [firstFree?, sound.occupied, sound.contents_eq, List.findIdx?_map, List.findIdx?_map]
  congr 1
  funext slot
  cases slot <;> rfl

theorem Sound.rows_eq (sound : page.Sound) : page.rows = page.slots.filterMap fun row => row := by
  rw [rows, sound.occupied]
  generalize page.slots = slots
  induction slots with
  | nil => rfl
  | cons slot slots ih => cases slot <;> simp [ih]

@[simp] theorem id_mark (dirty : Bool) (txn : TxnId) : (page.mark dirty txn).id = page.id := rfl

theorem Sound.mark (sound : page.Sound) (dirty : Bool) (txn : TxnId) :
    (page.mark dirty txn).Sound :=
  ⟨sound.slotCount, sound.header, sound.occupied, sound.row⟩

/-! ## Changes of one slot -/

theorem Sound.assign (sound : page.Sound) {slot : Nat} (inside : slot < page.slots.length)
    (row : Option Row)
    (fits : ∀ placed, row = some placed → placed.schema.alike page.schema = true ∧
      placed.location = some ⟨page.id, UInt16.ofNat slot⟩) :
    let changed := { page with
      header := Bitmap.assign page.header slot row.isSome
      slots := page.slots.set slot row }
    changed.Sound ∧ changed.contents = page.contents.set slot (row.map Row.values) := by
  have occupied : (Bitmap.bits (Bitmap.assign page.header slot row.isSome)).take
      (page.slots.set slot row).length = (page.slots.set slot row).map Option.isSome := by
    have before := sound.occupied
    rw [Page.occupied] at before
    rw [Bitmap.bits_assign, List.length_set, List.take_set, before, List.map_set]
  have changedSound : ({ page with
      header := Bitmap.assign page.header slot row.isSome
      slots := page.slots.set slot row } : Page).Sound := by
    refine ⟨by simpa using sound.slotCount, by simpa using sound.header, occupied, ?_⟩
    intro other placed found
    rw [List.getElem?_set] at found
    split at found
    · next same =>
        subst same
        exact fits placed (Option.some.inj found)
    · exact sound.row other placed found
  refine ⟨changedSound, ?_⟩
  rw [changedSound.contents_eq, sound.contents_eq, List.map_set]

theorem Sound.insert_ok (sound : page.Sound) {row placed : Row} {after : Page}
    (run : page.insert row = .ok (after, placed)) :
    ∃ slot, page.contents.findIdx? Option.isNone = some slot ∧
      slot < page.contents.length ∧
      placed = row.placeAt (some ⟨page.id, UInt16.ofNat slot⟩) ∧
      after.Sound ∧ after.contents = page.contents.set slot (some row.values) ∧
      after = { page with header := after.header, slots := after.slots } := by
  simp only [insert] at run
  split at run
  · next alike =>
      split at run
      · cases run
      · next slot free =>
          cases run
          rw [sound.firstFree_eq] at free
          have inside : slot < page.contents.length := by
            obtain ⟨inside, -⟩ := List.findIdx?_eq_some_iff_getElem.mp free
            exact inside
          obtain ⟨afterSound, afterContents⟩ :=
            sound.assign (sound.length_contents ▸ inside)
              (some (row.placeAt (some ⟨page.id, UInt16.ofNat slot⟩)))
              (by rintro _ ⟨⟩; exact ⟨alike, rfl⟩)
          exact ⟨slot, free, inside, rfl, afterSound, afterContents, rfl⟩
  · cases run

theorem Sound.insert_of_free (sound : page.Sound) {row : Row}
    (alike : row.schema.alike page.schema = true) (free : page.freeCount ≠ 0) :
    ∃ after placed, page.insert row = .ok (after, placed) := by
  rw [sound.freeCount_eq] at free
  obtain ⟨slot, member, empty⟩ := List.countP_pos_iff.mp (Nat.pos_of_ne_zero free)
  simp only [insert, alike, if_true]
  cases found : page.firstFree? with
  | some slot => exact ⟨_, _, rfl⟩
  | none =>
      rw [sound.firstFree_eq, List.findIdx?_eq_none_iff] at found
      simp [found slot member] at empty

theorem Sound.delete_ok (sound : page.Sound) {row : Row} {after : Page}
    (run : page.delete row = .ok after) :
    ∃ location, row.location = some location ∧ location.page = page.id ∧
      location.slot.toNat < page.contents.length ∧ after.Sound ∧
      after.contents = page.contents.set location.slot.toNat none ∧
      after = { page with header := after.header, slots := after.slots } := by
  simp only [delete] at run
  split at run
  · cases run
  · next location placed =>
      split at run
      · next here =>
          cases run
          obtain ⟨values, found⟩ := (sound.isUsed_iff _).mp here.2
          have inside : location.slot.toNat < page.contents.length :=
            (List.getElem?_eq_some_iff.mp found).1
          obtain ⟨afterSound, afterContents⟩ :=
            sound.assign (sound.length_contents ▸ inside) none (by rintro _ ⟨⟩)
          exact ⟨location, placed, here.1, inside, afterSound, afterContents, rfl⟩
      · cases run

theorem delete_error {row : Row} {error : StoreError} (run : page.delete row = .error error) :
    error = .notOnPage page.id row.location := by
  simp only [delete] at run
  split at run
  · next unplaced =>
      cases run
      rw [unplaced]
  · next location placed =>
      split at run
      · cases run
      · cases run
        rw [placed]

end Page

end TableStore
