import TableStore.Proofs.Accesses

/-!
# Where the slots of a page lie

As many rows as are computed fit on a page behind one bit for each, and not one more.  So
every slot has bytes of its own within the page, of which a row is read, and what is written
of a page is never cut off.
-/

set_option autoImplicit false

namespace TableStore.Page

variable {id : PageId} {schema : Schema} {size count : Nat} {page : Page} {data : Bytes}

/-! ## Reading -/

/-- Reads every slot of its own bytes, given the bits of the slots. -/
def decodeEach (id : PageId) (schema : Schema) (size count : Nat) (data : Bytes) :
    Except StoreError (List (Option Row)) :=
  ((Bitmap.bits data).take count).zipIdx.mapM fun (used, slot) =>
    decodeSlot id schema slot used (data.slice (slotStart schema size slot) schema.rowWidth)

theorem slot_inside (counted : Page.slotCount schema size = .ok count) {slot : Nat}
    (inside : slot < count) : slotStart schema size slot + schema.rowWidth ≤ size := by
  have exact := (slotCount_facts counted).2.2.2
  have fit := header_and_slots_fit counted
  have room := Nat.mul_le_mul_right schema.rowWidth (Nat.succ_le_of_lt inside)
  rw [Nat.succ_mul] at room
  rw [slotStart, ← exact]
  omega

theorem decodeSlots_eq_mapM (origin : Nat) (bits : List Bool) (slot : Nat) :
    decodeSlots id schema slot bits (data.drop (origin + slot * schema.rowWidth)) =
      (bits.zipIdx slot).mapM fun (used, slot) => decodeSlot id schema slot used
        (data.slice (origin + slot * schema.rowWidth) schema.rowWidth) := by
  induction bits generalizing slot with
  | nil => rfl
  | cons used bits ih =>
      have behind : (data.drop (origin + slot * schema.rowWidth)).drop schema.rowWidth =
          data.drop (origin + (slot + 1) * schema.rowWidth) := by
        rw [List.drop_drop, Nat.succ_mul, Nat.add_assoc]
      rw [decodeSlots, behind, ih, List.zipIdx_cons, List.mapM_cons]
      rfl

theorem bits_of_header (count : Nat) (data : Bytes) :
    (Bitmap.bits (data.take (headerSize count))).take count = (Bitmap.bits data).take count := by
  rw [bits_take, List.take_take, Nat.min_eq_left (slots_le_header_bits count)]

/-- A page is read slot by slot. -/
theorem decode_eq_decodeEach (id : PageId) (counted : Page.slotCount schema size = .ok count)
    (whole : size ≤ data.length) :
    decode id schema size data = (decodeEach id schema size count data).map fun slots =>
      ⟨id, schema, size, data.take (headerSize count), slots, none, data.take size⟩ := by
  have exact := (slotCount_facts counted).2.2.2
  have slots : decodeSlots id schema 0 ((Bitmap.bits data).take count)
      (data.drop (headerSize count)) = decodeEach id schema size count data := by
    have each := @decodeSlots_eq_mapM id schema data (headerSize count)
      ((Bitmap.bits data).take count) 0
    rw [Nat.zero_mul, Nat.add_zero] at each
    rw [each, decodeEach]
    simp only [slotStart, ← exact]
  rw [decode, if_neg (Nat.not_lt.mpr whole), counted]
  simp only [bind, Except.bind, pure, Except.pure, bits_of_header, slots]
  cases decodeEach id schema size count data <;> rfl

/-! ## Writing -/

/-- A page is written as its header, its slots, each as wide as a row, and zeros up to its
size.  Nothing of it is cut off. -/
def WrittenWhole (page : Page) : Prop :=
  ∃ pieces, (page.occupied.zip page.slots).mapM (encodeSlot page.schema.rowWidth) = .ok pieces ∧
    (∀ piece ∈ pieces, piece.length = page.schema.rowWidth) ∧
    (page.header ++ pieces.flatten).length ≤ page.size ∧
    page.encode = .ok (page.header ++ pieces.flatten ++
      Bytes.zeros (page.size - (page.header ++ pieces.flatten).length))

theorem Sound.writtenWhole (sound : page.Sound) : page.WrittenWhole := by
  obtain ⟨pieces, encoded, lengths, fit, -⟩ := sound.encodeSlots
  exact ⟨pieces, encoded, lengths, fit, encode_of_encodeSlots encoded fit⟩

theorem Sound.touches (sound : page.Sound) (touches : List Touch) :
    (touches.foldl Touch.on page).Sound ∧ (touches.foldl Touch.on page).size = page.size := by
  induction touches generalizing page with
  | nil => exact ⟨sound, rfl⟩
  | cons touch touches ih =>
      obtain ⟨touched, -, -, size⟩ := sound.touch touch
      obtain ⟨last, same⟩ := ih touched
      exact ⟨last, same.trans size⟩

/-- The slots fill a page exactly.  Rows of a width fit on a page behind their bits up to
the computed number and no further.  So on each page that has slots they lie within the
page, every one is read of its own bytes, as many as a row has, and whatever was done to a
page that was read, all of it is written. -/
theorem slots_fill_their_page :
    (∀ size width count : Nat,
      headerSize count + count * width ≤ size ↔ count ≤ slotsPerPage size width) ∧
    (∀ id schema size count, Page.slotCount schema size = .ok count →
      count = slotsPerPage size schema.rowWidth ∧
      ∀ data : Bytes, size ≤ data.length →
        (∀ slot < count, slotStart schema size slot + schema.rowWidth ≤ size ∧
          (data.slice (slotStart schema size slot) schema.rowWidth).length = schema.rowWidth) ∧
        decode id schema size data = (decodeEach id schema size count data).map fun slots =>
          ⟨id, schema, size, data.take (headerSize count), slots, none, data.take size⟩) ∧
    ∀ id schema size data start, decode id schema size data = .ok start →
      ∀ touches : List Touch,
        (touches.foldl Touch.on start).size = size ∧
          (touches.foldl Touch.on start).WrittenWhole := by
  refine ⟨header_and_slots_le_iff, ?_, ?_⟩
  · intro id schema size count counted
    refine ⟨(slotCount_facts counted).2.2.2, fun data whole => ⟨?_, ?_⟩⟩
    · intro slot inside
      have room := slot_inside counted inside
      refine ⟨room, ?_⟩
      rw [Bytes.slice, List.length_take, List.length_drop]
      omega
    · exact decode_eq_decodeEach id counted whole
  · intro id schema size data start run touches
    obtain ⟨sound, -, -, read, -⟩ := decode_ok run
    obtain ⟨last, same⟩ := sound.touches touches
    exact ⟨same.trans read, last.writtenWhole⟩

/-- The bytes of a page of nine slots for numbers behind two bytes of bits.  The last slot,
which ends two bytes before the page, holds a five. -/
def pageOfNineSlots : Bytes := [0, 1] ++ Bytes.zeros 32 ++ [0, 0, 0, 5, 7, 7]

theorem nine_slots_fill_their_page :
    (headerSize 9 + 9 * 4 ≤ 40 ∧ ¬ headerSize 10 + 10 * 4 ≤ 40) ∧
    (slotStart numberColumn 40 8 + numberColumn.rowWidth ≤ 40 ∧
      (pageOfNineSlots.slice (slotStart numberColumn 40 8) numberColumn.rowWidth).length = 4) ∧
    ∃ start, decode ⟨⟨1⟩, 0⟩ numberColumn 40 pageOfNineSlots = .ok start ∧
      ([.rows (.insert ⟨numberColumn, [.int 6], none, rfl⟩), .capture].foldl Touch.on
        start).WrittenWhole := by
  obtain ⟨fill, ranges, written⟩ := slots_fill_their_page
  have counted : Page.slotCount numberColumn 40 = .ok 9 := rfl
  obtain ⟨-, lie⟩ := ranges ⟨⟨1⟩, 0⟩ numberColumn 40 9 counted
  obtain ⟨start, read⟩ : ∃ start, decode ⟨⟨1⟩, 0⟩ numberColumn 40 pageOfNineSlots = .ok start :=
    ⟨_, rfl⟩
  refine ⟨⟨(fill 40 4 9).mpr (by decide), fun more => ?_⟩,
    (lie pageOfNineSlots (by decide)).1 8 (by decide), start, read,
    (written _ _ _ _ start read _).2⟩
  exact absurd ((fill 40 4 10).mp more) (by decide)

end TableStore.Page
