import TableStore.Proofs.PageRoundTrips

/-!
# A page as a map from slots to rows

The header and the slots of a page are one map from slot numbers to rows.  A row
that is inserted goes to the smallest slot without a row, a row that is deleted
leaves the slot that its location names, every other slot stays as it is, and a call
that is refused changes nothing.  Bits of the header behind the last slot play no
part and are kept.
-/

set_option autoImplicit false

namespace TableStore

namespace Bitmap

theorem bits_injective : Function.Injective bits := by
  intro bytes others same
  induction bytes generalizing others with
  | nil =>
      cases others with
      | nil => rfl
      | cons other others => simpa using congrArg List.length same
  | cons byte bytes ih =>
      cases others with
      | nil => simpa using congrArg List.length same
      | cons other others =>
          obtain ⟨first, rest⟩ := List.append_inj same rfl
          have equal : byte = other := by
            rw [← byte_byteBits byte, ← byte_byteBits other, first]
          rw [equal, ih rest]

/-- A bit that was not set may be set and cleared again. -/
theorem assign_assign {bytes : Bytes} {index : Nat} (unset : (bits bytes)[index]? = some false) :
    assign (assign bytes index true) index false = bytes := by
  apply bits_injective
  obtain ⟨inside, value⟩ := List.getElem?_eq_some_iff.mp unset
  rw [bits_assign, bits_assign, List.set_set, ← value, List.set_getElem_self]

end Bitmap

namespace Page

variable {page : Page} {row placed : Row} {slot other : Nat} {held : Option Row}
  {error : StoreError}

/-! ## The map -/

def put (page : Page) (slot : Nat) (held : Option Row) : Page :=
  { page with
    header := Bitmap.assign page.header slot held.isSome
    slots := page.slots.set slot held }

structure FirstEmpty (page : Page) (slot : Nat) : Prop where
  inside : slot < page.slots.length
  empty : page.row? slot = none
  least : ∀ lower < slot, page.row? lower ≠ none

/-- A location that names no row of the page: there is none, or it is on another page,
out of range or empty. -/
def Lacks (page : Page) : Option Location → Prop
  | none => True
  | some location => location.page ≠ page.id ∨ page.slots.length ≤ location.slot.toNat ∨
      page.row? location.slot.toNat = none

/-- What a slot holds is changed, and nothing else but its bit. -/
structure Changes (page after : Page) (slot : Nat) (held : Option Row) : Prop where
  inside : slot < page.slots.length
  row? : ∀ other, after.row? other = if other = slot then held else page.row? other
  bits : Bitmap.bits after.header = (Bitmap.bits page.header).set slot held.isSome
  rest : after = { page with header := after.header, slots := after.slots }
  length : after.slots.length = page.slots.length

theorem Sound.row?_length (sound : page.Sound) (outside : page.slots.length ≤ slot) :
    page.row? slot = none := by
  rw [sound.row?_eq, List.getElem?_eq_none outside, Option.join_none]

theorem Sound.isUsed_eq (sound : page.Sound) (slot : Nat) :
    page.isUsed slot = (page.row? slot).isSome := by
  rw [isUsed, sound.occupied, sound.row?_eq, List.getElem?_map]
  cases page.slots[slot]? with
  | none => rfl
  | some held => rfl

theorem Sound.bit (sound : page.Sound) (inside : slot < page.slots.length) :
    (Bitmap.bits page.header)[slot]? = some (page.row? slot).isSome := by
  have used := congrArg (·[slot]?) sound.occupied
  simp only [Page.occupied, List.getElem?_take, inside, if_true, List.getElem?_map] at used
  rw [used, sound.row?_eq, List.getElem?_eq_getElem inside]
  rfl

theorem Sound.slots_eq (sound : page.Sound) :
    page.slots = (List.range page.slots.length).map page.row? := by
  apply List.ext_getElem (by simp)
  intro slot inside _
  rw [List.getElem_map, List.getElem_range, sound.row?_eq, List.getElem?_eq_getElem inside]
  rfl

theorem Sound.rows_range (sound : page.Sound) :
    page.rows = (List.range page.slots.length).filterMap page.row? := by
  have rows := sound.rows_eq
  rw [sound.slots_eq, List.filterMap_map] at rows
  exact rows

theorem Sound.freeCount_add_rows (sound : page.Sound) :
    page.freeCount + page.rows.length = page.slots.length := by
  have free : page.freeCount = page.slots.countP fun held => !held.isSome := by
    rw [freeCount, sound.occupied, List.countP_map]
    rfl
  rw [free, sound.rows_eq, List.length_filterMap_eq_countP, Nat.add_comm,
    List.length_eq_countP_add_countP Option.isSome]
  simp only [Bool.not_eq_true, Bool.decide_eq_false]

theorem Sound.firstEmpty_iff (sound : page.Sound) :
    page.firstFree? = some slot ↔ page.FirstEmpty slot := by
  have isNone (slot : Nat) (inside : slot < page.slots.length) :
      (page.slots[slot].isSome = false) ↔ page.row? slot = none := by
    rw [sound.row?_eq, List.getElem?_eq_getElem inside]
    exact Option.isSome_eq_false_iff.trans Option.isNone_iff_eq_none
  rw [firstFree?, sound.occupied, List.findIdx?_map, List.findIdx?_eq_some_iff_getElem]
  simp only [Function.comp_apply, Bool.not_eq_true', Bool.not_eq_false]
  constructor
  · rintro ⟨inside, empty, least⟩
    refine ⟨inside, (isNone slot inside).mp empty, fun lower below free => ?_⟩
    have taken := least lower below
    rw [(isNone lower (Nat.lt_trans below inside)).mpr free] at taken
    exact Bool.false_ne_true taken
  · rintro ⟨inside, empty, least⟩
    refine ⟨inside, (isNone slot inside).mpr empty, fun lower below => ?_⟩
    rw [← Bool.not_eq_false, isNone lower (Nat.lt_trans below inside)]
    exact least lower below

theorem Sound.firstFree_none_iff (sound : page.Sound) :
    page.firstFree? = none ↔ ∀ slot < page.slots.length, page.row? slot ≠ none := by
  rw [firstFree?, sound.occupied, List.findIdx?_eq_none_iff]
  constructor
  · intro all slot inside free
    have member : page.slots[slot].isSome ∈ page.slots.map Option.isSome :=
      List.mem_map.mpr ⟨_, List.getElem_mem inside, rfl⟩
    rw [sound.row?_eq, List.getElem?_eq_getElem inside, Option.join_some] at free
    simpa [free] using all _ member
  · rintro all _ used
    obtain ⟨held, member, rfl⟩ := List.mem_map.mp used
    obtain ⟨slot, inside, rfl⟩ := List.mem_iff_getElem.mp member
    have taken := all slot inside
    rw [sound.row?_eq, List.getElem?_eq_getElem inside, Option.join_some] at taken
    simpa [Option.isSome_iff_ne_none] using taken

/-! ## One call -/

theorem Sound.put (sound : page.Sound) (inside : slot < page.slots.length)
    (fits : ∀ placed, held = some placed → placed.schema.alike page.schema = true ∧
      placed.location = some ⟨page.id, UInt16.ofNat slot⟩) :
    (page.put slot held).Sound ∧ page.Changes (page.put slot held) slot held := by
  have after : (page.put slot held).Sound := (sound.assign inside held fits).1
  refine ⟨after, inside, fun other => ?_, Bitmap.bits_assign _ _ _, rfl, List.length_set⟩
  rw [after.row?_eq, sound.row?_eq, Page.put, List.getElem?_set]
  by_cases same : other = slot
  · subst same
    simp [inside]
  · simp [same, Ne.symm same]

theorem Sound.put_put (sound : page.Sound) (inside : slot < page.slots.length)
    (empty : page.row? slot = none) (placed : Row) :
    (page.put slot (some placed)).put slot none = page := by
  have unset := sound.bit inside
  rw [empty] at unset
  have nothing : page.slots[slot] = none := by
    rwa [sound.row?_eq, List.getElem?_eq_getElem inside, Option.join_some] at empty
  have slots : (page.slots.set slot (some placed)).set slot none = page.slots := by
    rw [List.set_set, ← nothing, List.set_getElem_self]
  have header : Bitmap.assign (Bitmap.assign page.header slot true) slot false = page.header :=
    Bitmap.assign_assign unset
  simp only [Page.put, Option.isSome_some, Option.isSome_none, slots, header]

theorem put_of_insert {after : Page} (run : page.insert row = .ok (after, placed)) :
    row.schema.alike page.schema = true ∧ ∃ slot, page.firstFree? = some slot ∧
      placed = row.placeAt (some ⟨page.id, UInt16.ofNat slot⟩) ∧
      after = page.put slot (some placed) := by
  rw [insert] at run
  split at run
  · next alike =>
      split at run
      · cases run
      · next slot free =>
          cases run
          exact ⟨alike, slot, free, rfl, rfl⟩
  · cases run

theorem Sound.insert_error_iff (sound : page.Sound) (alike : row.schema.alike page.schema = true) :
    page.insert row = .error error ↔
      error = .pageFull page.id ∧ ∀ slot < page.slots.length, page.row? slot ≠ none := by
  rw [← sound.firstFree_none_iff, insert, if_pos alike]
  cases page.firstFree? with
  | none => simp [eq_comm]
  | some slot => simp

theorem Sound.lacks_iff (sound : page.Sound) {location : Location} :
    page.Lacks (some location) ↔
      ¬ (location.page = page.id ∧ page.isUsed location.slot.toNat = true) := by
  rw [Lacks, sound.isUsed_eq, Decidable.not_and_iff_not_or_not, Bool.not_eq_true,
    Option.isSome_eq_false_iff, Option.isNone_iff_eq_none]
  constructor
  · rintro (elsewhere | outside | empty)
    · exact .inl elsewhere
    · exact .inr (sound.row?_length outside)
    · exact .inr empty
  · exact Or.imp_right Or.inr

theorem delete_put {location : Location} (placed : row.location = some location)
    (here : location.page = page.id) (used : page.isUsed location.slot.toNat = true) :
    page.delete row = .ok (page.put location.slot.toNat none) := by
  rw [delete, placed]
  exact if_pos ⟨here, used⟩

theorem Sound.delete_error_iff (sound : page.Sound) :
    page.delete row = .error error ↔
      error = .notOnPage page.id row.location ∧ page.Lacks row.location := by
  cases placed : row.location with
  | none =>
      rw [delete, placed]
      exact ⟨fun run => ⟨(Except.error.inj run).symm, trivial⟩, fun named => by rw [named.1]⟩
  | some location =>
      rw [sound.lacks_iff]
      constructor
      · intro run
        refine ⟨placed ▸ delete_error run, ?_⟩
        rintro ⟨here, used⟩
        cases (delete_put placed here used).symm.trans run
      · rintro ⟨rfl, elsewhere⟩
        rw [delete, placed]
        exact if_neg elsewhere

theorem Sound.delete_ok_put (sound : page.Sound) {after : Page}
    (run : page.delete row = .ok after) :
    ∃ location, row.location = some location ∧ location.slot.toNat < page.slots.length ∧
      after = page.put location.slot.toNat none := by
  cases placed : row.location with
  | none => simp [delete, placed] at run
  | some location =>
      simp only [delete, placed] at run
      split at run
      · next here =>
          cases run
          refine ⟨location, rfl, ?_, rfl⟩
          apply Nat.lt_of_not_le
          intro outside
          have unused := sound.isUsed_eq location.slot.toNat
          rw [here.2, sound.row?_length outside] at unused
          cases unused
      · cases run

/-! ## Any number of calls -/

structure IsSlotMap (page : Page) : Prop where
  row? : ∀ slot, page.row? slot = (page.slots[slot]?).join
  bit : ∀ slot < page.slots.length,
    (Bitmap.bits page.header)[slot]? = some (page.row? slot).isSome
  location : ∀ slot row, page.row? slot = some row →
    row.location = some ⟨page.id, UInt16.ofNat slot⟩ ∧ (UInt16.ofNat slot).toNat = slot
  rows : page.rows = (List.range page.slots.length).filterMap page.row?
  free : page.freeCount + page.rows.length = page.slots.length
  bytes : ∃ bytes, page.encode = .ok bytes ∧ bytes.length = page.size
  inserted : ∀ row after placed, page.insert row = .ok (after, placed) →
    row.schema.alike page.schema = true ∧ ∃ slot, page.FirstEmpty slot ∧
      placed = row.placeAt (some ⟨page.id, UInt16.ofNat slot⟩) ∧
      page.Changes after slot (some placed) ∧ after.delete placed = .ok page
  full : ∀ row, row.schema.alike page.schema = true → ∀ error, page.insert row = .error error ↔
    error = .pageFull page.id ∧ ∀ slot < page.slots.length, page.row? slot ≠ none
  unlike : ∀ row, row.schema.alike page.schema = false →
    page.insert row = .error (.schemaMismatch (.pageSchema row.schema page.schema))
  deleted : ∀ row after, page.delete row = .ok after → ∃ location, row.location = some location ∧
    page.Changes after location.slot.toNat none
  lacking : ∀ row error, page.delete row = .error error ↔
    error = .notOnPage page.id row.location ∧ page.Lacks row.location
  refusedInsert : ∀ row error, page.insert row = .error error → (Call.insert row).on page = page
  refusedDelete : ∀ row error, page.delete row = .error error → (Call.delete row).on page = page

theorem Sound.location (sound : page.Sound) (found : page.row? slot = some row) :
    row.location = some ⟨page.id, UInt16.ofNat slot⟩ ∧ (UInt16.ofNat slot).toNat = slot := by
  rw [sound.row?_eq, Option.join_eq_some_iff] at found
  refine ⟨(sound.row slot row found).2, toNat_slot sound.slotCount ?_⟩
  exact (List.getElem?_eq_some_iff.mp found).1

/-- A row goes to the smallest slot without one, and the page is the same again
when it is deleted. -/
theorem Sound.inserted (sound : page.Sound) {after : Page}
    (run : page.insert row = .ok (after, placed)) :
    row.schema.alike page.schema = true ∧ ∃ slot, page.FirstEmpty slot ∧
      placed = row.placeAt (some ⟨page.id, UInt16.ofNat slot⟩) ∧
      page.Changes after slot (some placed) ∧ after.delete placed = .ok page := by
  obtain ⟨alike, slot, free, located, rfl⟩ := put_of_insert run
  have first := sound.firstEmpty_iff.mp free
  have fits : ∀ stored, some placed = some stored → stored.schema.alike page.schema = true ∧
      stored.location = some ⟨page.id, UInt16.ofNat slot⟩ := by
    rintro _ ⟨⟩
    rw [located]
    exact ⟨alike, rfl⟩
  obtain ⟨afterSound, changes⟩ := sound.put first.inside fits
  refine ⟨alike, slot, first, located, changes, ?_⟩
  have exact := toNat_slot sound.slotCount first.inside
  have used : (page.put slot (some placed)).isUsed slot = true := by
    rw [afterSound.isUsed_eq, changes.row?, if_pos rfl, Option.isSome_some]
  have place : placed.location = some ⟨page.id, UInt16.ofNat slot⟩ := by
    rw [located]
    rfl
  have deleted : (page.put slot (some placed)).delete placed = _ :=
    delete_put place rfl (by rw [exact]; exact used)
  rw [deleted, exact, sound.put_put first.inside first.empty]

theorem Sound.deleted (sound : page.Sound) {after : Page} (run : page.delete row = .ok after) :
    ∃ location, row.location = some location ∧
      page.Changes after location.slot.toNat none := by
  obtain ⟨location, placed, inside, rfl⟩ := sound.delete_ok_put run
  have empty : (page.put location.slot.toNat none).Sound ∧ page.Changes _ _ none :=
    sound.put inside nofun
  exact ⟨location, placed, empty.2⟩

theorem Sound.isSlotMap (sound : page.Sound) : page.IsSlotMap where
  row? := sound.row?_eq
  bit _ := sound.bit
  location _ _ := sound.location
  rows := sound.rows_range
  free := sound.freeCount_add_rows
  bytes := by
    obtain ⟨bytes, encoded, length, -⟩ := sound.encode_decode
    exact ⟨bytes, encoded, length⟩
  inserted _ _ _ := sound.inserted
  full _ alike _ := sound.insert_error_iff alike
  unlike := by
    intro row unlike
    rw [insert, unlike]
    rfl
  deleted _ _ := sound.deleted
  lacking _ _ := sound.delete_error_iff
  refusedInsert := by
    intro row error refused
    rw [Call.on, refused]
  refusedDelete := by
    intro row error refused
    rw [Call.on, refused]

/-- Whatever bytes a page was read from and whatever was inserted and deleted since,
it is a map from its slots to rows. -/
theorem slots_are_a_map {id : PageId} {schema : Schema} {size : Nat} {data : Bytes} {start : Page}
    (read : decode id schema size data = .ok start) (calls : List Call) :
    (start.callAll calls).IsSlotMap ∧ (start.callAll calls).id = id ∧
      (start.callAll calls).schema = schema ∧
      slotCount schema size = .ok (start.callAll calls).slots.length := by
  obtain ⟨sound, startId, startSchema, startSize, -, -⟩ := decode_ok read
  obtain ⟨after, id, schema, size⟩ := sound.callAll calls
  refine ⟨after.isSlotMap, id.trans startId, schema.trans startSchema, ?_⟩
  have count := after.slotCount
  rwa [schema, startSchema, size, startSize] at count

/-- A page of two slots with bits behind them: the second slot gets a six, there is no
room for a seven, the five leaves, and the seven takes its slot. -/
theorem slots_are_a_map_for_numbers :
    let number (value : Int32) (location : Option Location) : Row :=
      ⟨numberColumn, [.int value], location, rfl⟩
    ∃ start, decode ⟨⟨1⟩, 0⟩ numberColumn 9 [0xF1, 0, 0, 0, 5, 0, 0, 0, 9] = .ok start ∧
      (start.callAll [.insert (number 6 none), .insert (number 7 none),
        .delete (number 5 (some ⟨⟨⟨1⟩, 0⟩, 0⟩)), .insert (number 7 none)]).IsSlotMap ∧
      (start.callAll [.insert (number 6 none), .insert (number 7 none),
        .delete (number 5 (some ⟨⟨⟨1⟩, 0⟩, 0⟩)), .insert (number 7 none)]).header = [0xF3] := by
  intro number
  have run : ∃ start, decode ⟨⟨1⟩, 0⟩ numberColumn 9 [0xF1, 0, 0, 0, 5, 0, 0, 0, 9] =
      .ok start := ⟨_, rfl⟩
  obtain ⟨start, read⟩ := run
  refine ⟨start, read, (slots_are_a_map read _).1, ?_⟩
  cases read
  rfl

end Page

end TableStore
