import TableStore.Proofs.FillerBytes

/-!
# Pages and what is read back of them

A page that was read and changed row by row is written in as many bytes as its
size.  What is read back from them is the same page: the same header, the same
rows in the same slots and again the same bytes.
-/

set_option autoImplicit false

namespace TableStore.Page

/-! ## Calls that change a page -/

inductive Call where
  | insert (row : Row)
  | delete (row : Row)

/-- The page after a call.  A refused call leaves it as it is. -/
def Call.on (page : Page) : Call → Page
  | .insert row =>
      match page.insert row with
      | .ok (after, _) => after
      | .error _ => page
  | .delete row =>
      match page.delete row with
      | .ok after => after
      | .error _ => page

def callAll (page : Page) (calls : List Call) : Page := calls.foldl Call.on page

theorem Sound.call {page : Page} (sound : page.Sound) (call : Call) :
    (call.on page).Sound ∧ (call.on page).id = page.id ∧
      (call.on page).schema = page.schema ∧ (call.on page).size = page.size := by
  cases call with
  | insert row =>
      simp only [Call.on]
      split
      · next after placed run =>
          obtain ⟨-, -, -, -, afterSound, -, changed⟩ := sound.insert_ok run
          rw [changed] at afterSound ⊢
          exact ⟨afterSound, rfl, rfl, rfl⟩
      · exact ⟨sound, rfl, rfl, rfl⟩
  | delete row =>
      simp only [Call.on]
      split
      · next after run =>
          obtain ⟨-, -, -, -, afterSound, -, changed⟩ := sound.delete_ok run
          rw [changed] at afterSound ⊢
          exact ⟨afterSound, rfl, rfl, rfl⟩
      · exact ⟨sound, rfl, rfl, rfl⟩

theorem Sound.callAll {page : Page} (sound : page.Sound) (calls : List Call) :
    (page.callAll calls).Sound ∧ (page.callAll calls).id = page.id ∧
      (page.callAll calls).schema = page.schema ∧ (page.callAll calls).size = page.size := by
  induction calls generalizing page with
  | nil => exact ⟨sound, rfl, rfl, rfl⟩
  | cons call calls ih =>
      obtain ⟨nextSound, id, schema, size⟩ := sound.call call
      obtain ⟨lastSound, lastId, lastSchema, lastSize⟩ := ih nextSound
      exact ⟨lastSound, lastId.trans id, lastSchema.trans schema, lastSize.trans size⟩

/-! ## Pages with the same header and contents -/

def encodeContent (width : Nat) : Option (List Value) → Except IoFault Bytes
  | some values => Row.encodeValues values
  | none => .ok (Bytes.zeros width)

theorem mapM_encodeSlot (width : Nat) (slots : List (Option Row)) :
    ((slots.map Option.isSome).zip slots).mapM (encodeSlot width) =
      (slots.map (Option.map Row.values)).mapM (encodeContent width) := by
  induction slots with
  | nil => rfl
  | cons slot slots ih =>
      have first : encodeSlot width (slot.isSome, slot) =
          encodeContent width (slot.map Row.values) := by
        cases slot <;> rfl
      rw [List.map_cons, List.zip_cons_cons, List.mapM_cons, ih, first, List.map_cons,
        List.mapM_cons]

/-- The bytes of a sound page depend on its header and its contents. -/
theorem Sound.encode_eq_of_contents_eq {a b : Page} (sound : a.Sound) (other : b.Sound)
    (schema : a.schema = b.schema) (size : a.size = b.size) (header : a.header = b.header)
    (contents : a.contents = b.contents) : a.encode = b.encode := by
  rw [sound.contents_eq, other.contents_eq] at contents
  rw [encode, encode, sound.occupied, other.occupied, mapM_encodeSlot, mapM_encodeSlot, contents,
    schema, size, header]

theorem Sound.row?_eq {page : Page} (sound : page.Sound) (slot : Nat) :
    page.row? slot = (page.slots[slot]?).join := by
  rw [row?, isUsed, sound.occupied, List.getElem?_map]
  cases page.slots[slot]? with
  | none => rfl
  | some row => cases row <;> rfl

def SameRow (a b : Row) : Prop := a.same b = true ∧ a.location = b.location

/-- Sound pages of one table with the same contents have equal rows at the same
places. -/
theorem Sound.row?_of_contents_eq {a b : Page} (sound : a.Sound) (other : b.Sound)
    (id : a.id = b.id) (schema : a.schema = b.schema) (contents : a.contents = b.contents)
    (slot : Nat) : Option.Rel SameRow (a.row? slot) (b.row? slot) := by
  rw [sound.contents_eq, other.contents_eq] at contents
  have here := congrArg (fun slots : Contents => slots[slot]?) contents
  simp only [List.getElem?_map] at here
  rw [sound.row?_eq, other.row?_eq]
  have rows := sound.row slot
  have otherRows := other.row slot
  cases found : a.slots[slot]? with
  | none =>
      cases otherFound : b.slots[slot]? with
      | none => exact .none
      | some _ => simp [found, otherFound] at here
  | some row =>
      cases otherFound : b.slots[slot]? with
      | none => simp [found, otherFound] at here
      | some otherRow =>
          cases row with
          | none =>
              cases otherRow with
              | none => exact .none
              | some _ => simp [found, otherFound] at here
          | some row =>
              cases otherRow with
              | none => simp [found, otherFound] at here
              | some otherRow =>
                  have values : row.values = otherRow.values := by
                    simpa [found, otherFound] using here
                  obtain ⟨alike, place⟩ := rows row found
                  obtain ⟨otherAlike, otherPlace⟩ := otherRows otherRow otherFound
                  rw [Schema.alike_iff] at alike otherAlike
                  refine .some ⟨?_, ?_⟩
                  · simp [Row.same, Schema.alike_iff, values, alike, otherAlike, schema]
                  · rw [place, otherPlace, id]

/-! ## There and back -/

theorem take_resize {bytes : Bytes} {length count : Nat} (inside : count ≤ length)
    (enough : count ≤ bytes.length) : (Bytes.resize length bytes).take count = bytes.take count := by
  have within : count ≤ (bytes.take length).length := by
    rw [List.length_take]
    omega
  rw [Bytes.resize, List.take_append_of_le_length within, List.take_take, Nat.min_eq_left inside]

theorem header_of_encode {page : Page} {bytes : Bytes} (sound : page.Sound)
    (run : page.encode = .ok bytes) :
    bytes.take (headerSize page.slots.length) = page.header := by
  have fit := header_and_slots_fit sound.slotCount
  rw [← sound.header] at fit ⊢
  simp only [encode] at run
  split at run
  · cases run
    rw [take_resize (by omega) (by simp), List.take_left]
  · cases run

/-- What is read back of a page is the page itself, and has the same bytes. -/
theorem Sound.reads_back {page : Page} (sound : page.Sound) :
    ∃ bytes, page.encode = .ok bytes ∧ bytes.length = page.size ∧
      ∃ again, decode page.id page.schema page.size bytes = .ok again ∧
        again.header = page.header ∧ again.occupied = page.occupied ∧
        (∀ slot, Option.Rel SameRow (again.row? slot) (page.row? slot)) ∧
        again.encode = .ok bytes := by
  obtain ⟨bytes, encoded, length, again, decoded, contents⟩ := sound.encode_decode
  obtain ⟨againSound, id, schema, size, -, -⟩ := decode_ok decoded
  have header : again.header = page.header := by
    obtain ⟨-, count, _, counted, -, rfl⟩ := decode_eq_ok_iff.mp decoded
    rw [sound.slotCount] at counted
    cases counted
    exact header_of_encode sound encoded
  have occupied : again.occupied = page.occupied := by
    have slots := congrArg List.length contents
    rw [againSound.length_contents, sound.length_contents] at slots
    rw [Page.occupied, Page.occupied, header, slots]
  refine ⟨bytes, encoded, length, again, decoded, header, occupied, ?_, ?_⟩
  · intro slot
    exact againSound.row?_of_contents_eq sound id schema contents slot
  · rw [← encoded]
    exact againSound.encode_eq_of_contents_eq sound schema size header contents

/-- Pages go through their bytes: a page that is read and then changed by any
calls is read back as it is from as many bytes as its size.  Of the bytes of a page
those behind its size and those that hold nothing play no part. -/
theorem pages_survive_their_bytes (id : PageId) (schema : Schema) (size : Nat) (data : Bytes) :
    (∀ start, decode id schema size data = .ok start → ∀ calls : List Call,
      let page := start.callAll calls
      ∃ bytes, page.encode = .ok bytes ∧ bytes.length = size ∧
        ∃ again, decode id schema size bytes = .ok again ∧
          again.header = page.header ∧ again.occupied = page.occupied ∧
          (∀ slot, Option.Rel SameRow (again.row? slot) (page.row? slot)) ∧
          again.encode = .ok bytes) ∧
    (∀ other : Bytes, data.take size = other.take size →
      decode id schema size data = decode id schema size other) ∧
    (∀ other : Bytes, size ≤ data.length → size ≤ other.length →
      (∀ pos, ¬ Filler schema size data pos → data[pos]? = other[pos]?) →
      (decode id schema size data).map (fun page => (page.header, page.slots)) =
        (decode id schema size other).map (fun page => (page.header, page.slots))) := by
  refine ⟨?_, fun other same => decode_eq_of_take_eq id schema same,
    fun other whole otherWhole agree => decode_agree id whole otherWhole agree⟩
  intro start run calls
  obtain ⟨sound, startId, startSchema, startSize, -, -⟩ := decode_ok run
  obtain ⟨pageSound, pageId, pageSchema, pageSize⟩ := sound.callAll calls
  have back := pageSound.reads_back
  rwa [pageId, pageSchema, pageSize, startId, startSchema, startSize] at back

def numberColumn : Schema := ⟨[⟨"number", .int⟩]⟩

/-- A page of one slot, which holds a five, and three bytes behind it. -/
def pageOfFive : Bytes := [1, 0, 0, 0, 5, 9, 9, 9]

theorem page_of_five_survives_its_bytes :
    ∃ start, decode ⟨⟨1⟩, 0⟩ numberColumn 8 pageOfFive = .ok start ∧
      (∃ bytes, (start.callAll (start.rows.map Call.delete ++ [.insert
          ⟨numberColumn, [.int 6], none, rfl⟩])).encode = .ok bytes ∧ bytes.length = 8) ∧
      decode ⟨⟨1⟩, 0⟩ numberColumn 8 (pageOfFive ++ [7]) =
        decode ⟨⟨1⟩, 0⟩ numberColumn 8 pageOfFive ∧
      (decode ⟨⟨1⟩, 0⟩ numberColumn 8 [1, 0, 0, 0, 5, 0, 0, 0]).map
          (fun page => (page.header, page.slots)) =
        .ok (start.header, start.slots) := by
  obtain ⟨survives, whole, filler⟩ :=
    pages_survive_their_bytes ⟨⟨1⟩, 0⟩ numberColumn 8 pageOfFive
  have run : ∃ start, decode ⟨⟨1⟩, 0⟩ numberColumn 8 pageOfFive = .ok start := ⟨_, rfl⟩
  obtain ⟨start, read⟩ := run
  obtain ⟨bytes, encoded, length, -⟩ := survives start read
    (start.rows.map Call.delete ++ [.insert ⟨numberColumn, [.int 6], none, rfl⟩])
  have agree : ∀ pos, ¬ Filler numberColumn 8 pageOfFive pos →
      pageOfFive[pos]? = ([1, 0, 0, 0, 5, 0, 0, 0] : Bytes)[pos]? := by
    intro pos counts
    have inside : pos < 5 := by
      apply Nat.lt_of_not_le
      intro outside
      exact counts (.behind outside)
    match pos, inside with
    | 0, _ | 1, _ | 2, _ | 3, _ | 4, _ => rfl
  refine ⟨start, read, ⟨bytes, encoded, length⟩, (whole (pageOfFive ++ [7]) rfl).symm, ?_⟩
  rw [← filler _ (by decide) (by decide) agree, read]
  rfl

end TableStore.Page
