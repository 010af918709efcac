import TableStore.Proofs.Pages

/-!
# Pages and their bytes

Every page that is read from bytes is sound.  A sound page has bytes, exactly as
many as its size, and reading them gives a sound page with the same contents.
-/

set_option autoImplicit false

namespace TableStore

theorem Bytes.length_flatten {pieces : List Bytes} {width : Nat}
    (full : ∀ piece ∈ pieces, piece.length = width) :
    pieces.flatten.length = pieces.length * width := by
  induction pieces with
  | nil => simp
  | cons piece pieces ih =>
      obtain ⟨first, others⟩ := List.forall_mem_cons.mp full
      rw [List.flatten_cons, List.length_append, first, ih others, List.length_cons, Nat.succ_mul,
        Nat.add_comm]

namespace Page

/-! ## Reading -/

theorem decodeSlot_ok {id : PageId} {schema : Schema} {slot : Nat} {used : Bool}
    {bytes : Bytes} {row? : Option Row}
    (run : decodeSlot id schema slot used bytes = .ok row?) :
    row?.isSome = used ∧ ∀ row, row? = some row →
      row.schema = schema ∧ row.location = some ⟨id, UInt16.ofNat slot⟩ := by
  cases used with
  | false =>
      cases run
      exact ⟨rfl, nofun⟩
  | true =>
      simp only [decodeSlot, if_true] at run
      split at run
      · next row rest decoded =>
          cases run
          refine ⟨rfl, ?_⟩
          intro _ known
          cases known
          exact Row.fields_of_decode decoded
      · cases run

theorem decodeSlots_ok {id : PageId} {schema : Schema} {bits : List Bool}
    {start : Nat} {bytes : Bytes} {rows : List (Option Row)}
    (run : decodeSlots id schema start bits bytes = .ok rows) :
    rows.map Option.isSome = bits ∧
      ∀ (slot : Nat) (row : Row), rows[slot]? = some (some row) →
        row.schema = schema ∧ row.location = some ⟨id, UInt16.ofNat (start + slot)⟩ := by
  induction bits generalizing start bytes rows with
  | nil =>
      cases run
      exact ⟨rfl, by simp⟩
  | cons used bits ih =>
      simp only [decodeSlots, bind, Except.bind, pure, Except.pure] at run
      split at run
      · cases run
      · next first firstRun =>
          split at run
          · cases run
          · next others othersRun =>
              cases run
              obtain ⟨firstUsed, firstRow⟩ := decodeSlot_ok firstRun
              obtain ⟨othersUsed, othersRow⟩ := ih othersRun
              refine ⟨by simp [firstUsed, othersUsed], ?_⟩
              intro slot row found
              cases slot with
              | zero => exact firstRow row (by simpa using found)
              | succ slot =>
                  have place := othersRow slot row (by simpa using found)
                  rwa [Nat.add_right_comm, Nat.add_assoc] at place

theorem decode_eq_ok_iff {id : PageId} {schema : Schema} {size : Nat} {data : Bytes}
    {page : Page} :
    decode id schema size data = .ok page ↔ size ≤ data.length ∧
      ∃ count slots, Page.slotCount schema size = .ok count ∧
        decodeSlots id schema 0 ((Bitmap.bits (data.take (headerSize count))).take count)
          (data.drop (headerSize count)) = .ok slots ∧
        page = ⟨id, schema, size, data.take (headerSize count), slots, none,
          data.take size⟩ := by
  simp only [decode, bind, Except.bind, pure, Except.pure]
  split
  · next short => simp [Nat.not_le.mpr short]
  · next enough =>
      have whole : size ≤ data.length := Nat.not_lt.mp enough
      cases counted : Page.slotCount schema size with
      | error error => simp
      | ok count =>
          simp only [whole, true_and, Except.ok.injEq, exists_and_left, exists_eq_left']
          cases decodeSlots id schema 0
              ((Bitmap.bits (data.take (headerSize count))).take count)
              (data.drop (headerSize count)) with
          | error error => simp
          | ok slots => simp [eq_comm]

/-- A page that is read from bytes is sound, unchanged, and remembers them. -/
theorem decode_ok {id : PageId} {schema : Schema} {size : Nat} {data : Bytes}
    {page : Page} (run : decode id schema size data = .ok page) :
    page.Sound ∧ page.id = id ∧ page.schema = schema ∧ page.size = size ∧
      page.dirtiedBy = none ∧ page.image = data.take size := by
  obtain ⟨enough, count, slots, counted, decoded, rfl⟩ := decode_eq_ok_iff.mp run
  obtain ⟨used, placed⟩ := decodeSlots_ok decoded
  have fit := header_and_slots_fit counted
  have bits := slots_le_header_bits count
  have headerLength : (data.take (headerSize count)).length = headerSize count := by
    rw [List.length_take]
    omega
  have slotsLength : slots.length = count := by
    have lengths := congrArg List.length used
    rw [List.length_map, List.length_take, Bitmap.length_bits, headerLength] at lengths
    omega
  refine ⟨⟨?_, ?_, ?_, ?_⟩, rfl, rfl, rfl, rfl, rfl⟩
  · rw [slotsLength]
    exact counted
  · rw [slotsLength]
    exact headerLength
  · rw [occupied, slotsLength]
    exact used.symm
  · intro slot row found
    obtain ⟨sameSchema, place⟩ := placed slot row found
    refine ⟨by simp [Schema.alike, sameSchema], ?_⟩
    rwa [Nat.zero_add] at place

/-! ## Writing and reading back -/

/-- A slot has bytes of the common width, from which a row with the same values is read
back. -/
theorem decodeSlot_encodeSlot (id : PageId) {schema : Schema} (place : Nat) {slot : Option Row}
    (alike : ∀ row, slot = some row → row.schema.alike schema = true) :
    ∃ piece, encodeSlot schema.rowWidth (slot.isSome, slot) = .ok piece ∧
      piece.length = schema.rowWidth ∧
      ∃ row?, decodeSlot id schema place slot.isSome piece = .ok row? ∧
        row?.map Row.values = slot.map Row.values := by
  cases slot with
  | none => exact ⟨_, rfl, Bytes.length_zeros _, none, rfl, rfl⟩
  | some row =>
      obtain ⟨piece, encoded, length, back⟩ := row.encode_of_alike (alike row rfl)
      have whole := back []
      rw [List.append_nil] at whole
      obtain ⟨again, decoded, -, values, -⟩ :=
        Row.decode_of_decodeValues (some ⟨id, UInt16.ofNat place⟩) whole
      exact ⟨piece, encoded, length, some again, by simp [decodeSlot, decoded], by simp [values]⟩

theorem decodeSlots_encodeSlots (id : PageId) (schema : Schema)
    (slots : List (Option Row)) (start : Nat)
    (alike : ∀ row, some row ∈ slots → row.schema.alike schema = true) :
    ∃ pieces, ((slots.map Option.isSome).zip slots).mapM (encodeSlot schema.rowWidth) =
        .ok pieces ∧
      pieces.length = slots.length ∧ (∀ piece ∈ pieces, piece.length = schema.rowWidth) ∧
      ∀ rest, ∃ rows,
        decodeSlots id schema start (slots.map Option.isSome) (pieces.flatten ++ rest) =
          .ok rows ∧
        rows.map (Option.map Row.values) = slots.map (Option.map Row.values) := by
  induction slots generalizing start with
  | nil => exact ⟨[], rfl, rfl, nofun, fun rest => ⟨[], rfl, rfl⟩⟩
  | cons slot slots ih =>
      obtain ⟨pieces, encoded, count, lengths, back⟩ :=
        ih (start + 1) (fun row member => alike row (List.mem_cons_of_mem _ member))
      obtain ⟨piece, pieceRun, pieceLength, row?, rowRun, rowValues⟩ :=
        decodeSlot_encodeSlot id start fun row here => alike row (here ▸ List.mem_cons_self)
      refine ⟨piece :: pieces, ?_, congrArg Nat.succ count,
        List.forall_mem_cons.mpr ⟨pieceLength, lengths⟩, ?_⟩
      · simp [List.mapM_cons, pieceRun, encoded, bind, Except.bind, pure, Except.pure]
      · intro rest
        obtain ⟨rows, rowsRun, rowsValues⟩ := back rest
        refine ⟨row? :: rows, ?_, by simp [rowValues, rowsValues]⟩
        have first : (piece ++ (pieces.flatten ++ rest)).take schema.rowWidth = piece := by
          simp [← pieceLength]
        have later : (piece ++ (pieces.flatten ++ rest)).drop schema.rowWidth =
            pieces.flatten ++ rest := by
          simp [← pieceLength]
        simp only [List.flatten_cons, List.append_assoc, List.map_cons, decodeSlots, first,
          later, rowRun, rowsRun, bind, Except.bind, pure, Except.pure]

variable {page : Page}

theorem Sound.encodeSlots (sound : page.Sound) :
    ∃ pieces, (page.occupied.zip page.slots).mapM (encodeSlot page.schema.rowWidth) =
        .ok pieces ∧
      (∀ piece ∈ pieces, piece.length = page.schema.rowWidth) ∧
      (page.header ++ pieces.flatten).length ≤ page.size ∧
      ∀ rest, ∃ rows,
        decodeSlots page.id page.schema 0 page.occupied (pieces.flatten ++ rest) = .ok rows ∧
        rows.map (Option.map Row.values) = page.contents := by
  obtain ⟨pieces, encoded, count, lengths, back⟩ :=
    decodeSlots_encodeSlots page.id page.schema page.slots 0 (by
      intro row member
      obtain ⟨slot, found⟩ := List.mem_iff_getElem?.mp member
      exact (sound.row slot row found).1)
  rw [← sound.occupied] at encoded back
  rw [← sound.contents_eq] at back
  refine ⟨pieces, encoded, lengths, ?_, back⟩
  rw [List.length_append, sound.header, Bytes.length_flatten lengths, count]
  exact header_and_slots_fit sound.slotCount

theorem encode_of_encodeSlots {pieces : List Bytes}
    (encoded : (page.occupied.zip page.slots).mapM (encodeSlot page.schema.rowWidth) = .ok pieces)
    (fit : (page.header ++ pieces.flatten).length ≤ page.size) :
    page.encode = .ok (page.header ++ pieces.flatten ++
      Bytes.zeros (page.size - (page.header ++ pieces.flatten).length)) := by
  rw [encode, encoded]
  dsimp only
  rw [Bytes.resize, List.take_of_length_le fit]

/-- A sound page has bytes, as many as its size, and a page with the same
contents is read back from them. -/
theorem Sound.encode_decode (sound : page.Sound) :
    ∃ bytes, page.encode = .ok bytes ∧ bytes.length = page.size ∧
      ∃ again, decode page.id page.schema page.size bytes = .ok again ∧
        again.contents = page.contents := by
  obtain ⟨pieces, encoded, -, fit, back⟩ := sound.encodeSlots
  have run := encode_of_encodeSlots encoded fit
  generalize padding : Bytes.zeros _ = zeros at run
  obtain ⟨rows, decoded, values⟩ := back zeros
  rw [Page.occupied] at decoded
  have length : (page.header ++ pieces.flatten ++ zeros).length = page.size := by
    rw [List.length_append, ← padding, Bytes.length_zeros]
    omega
  have again := decode_eq_ok_iff.mpr ⟨Nat.le_of_eq length.symm, page.slots.length, rows,
    sound.slotCount, by simpa [← sound.header] using decoded, rfl⟩
  refine ⟨_, run, length, _, again, ?_⟩
  rw [(decode_ok again).1.contents_eq]
  exact values

/-! ## Schemas with the same types -/

section

variable {id : PageId} {first second : Schema} (alike : first.alike second = true)

include alike

theorem slotCount_alike (size : Nat) : slotCount first size = slotCount second size := by
  simp only [slotCount, Schema.rowWidth_of_alike alike]

theorem decodeSlot_alike (slot : Nat) (used : Bool) (bytes : Bytes) :
    (decodeSlot id first slot used bytes).map (Option.map Row.values) =
      (decodeSlot id second slot used bytes).map (Option.map Row.values) := by
  have types := Schema.alike_iff.mp alike
  cases used with
  | false => rfl
  | true =>
      simp only [decodeSlot, if_true]
      cases run : Row.decodeValues first.types bytes with
      | error fault =>
          have failed {schema : Schema} (run : Row.decodeValues schema.types bytes = .error fault) :
              Row.decode schema (some ⟨id, UInt16.ofNat slot⟩) bytes = .error fault := by
            unfold Row.decode
            split <;> simp_all
          rw [failed run, failed (types ▸ run)]
      | ok read =>
          obtain ⟨one, decoded, -, same, -⟩ :=
            Row.decode_of_decodeValues (some ⟨id, UInt16.ofNat slot⟩) run
          obtain ⟨other, again, -, equal, -⟩ :=
            Row.decode_of_decodeValues (some ⟨id, UInt16.ofNat slot⟩) (types ▸ run)
          simp only [decoded, again, Except.map, Option.map_some, same, equal]

theorem decodeSlots_alike (bits : List Bool) (start : Nat) (bytes : Bytes) :
    (decodeSlots id first start bits bytes).map (List.map (Option.map Row.values)) =
      (decodeSlots id second start bits bytes).map (List.map (Option.map Row.values)) := by
  have joined {row again : Except StoreError (Option Row)}
      {rows others : Except StoreError (List (Option Row))}
      (here : row.map (Option.map Row.values) = again.map (Option.map Row.values))
      (later : rows.map (List.map (Option.map Row.values)) =
        others.map (List.map (Option.map Row.values))) :
      (do return (← row) :: (← rows) : Except StoreError _).map (List.map (Option.map Row.values)) =
        (do return (← again) :: (← others) : Except StoreError _).map
          (List.map (Option.map Row.values)) := by
    cases row <;> cases again <;> cases rows <;> cases others <;>
      simp_all [Except.map, bind, Except.bind, pure, Except.pure]
  induction bits generalizing start bytes with
  | nil => rfl
  | cons used bits ih =>
      rw [decodeSlots, decodeSlots, Schema.rowWidth_of_alike alike]
      exact joined (decodeSlot_alike alike start used _) (ih (start + 1) _)

/-- Under schemas with the same types, bytes are read as the same contents. -/
theorem decode_alike (size : Nat) (data : Bytes) :
    (decode id first size data).map contents = (decode id second size data).map contents := by
  have seen (schema : Schema) : (decode id schema size data).map contents =
      if data.length < size then .error (.corruptPage id (.tooShort size data.length))
      else (slotCount schema size).bind fun count =>
        (decodeSlots id schema 0 ((Bitmap.bits (data.take (headerSize count))).take count)
          (data.drop (headerSize count))).map (List.map (Option.map Row.values)) := by
    split
    · next short => rw [decode, if_pos short]; rfl
    · next enough =>
        cases run : decode id schema size data with
        | ok page =>
            obtain ⟨-, count, slots, counted, decoded, same⟩ := decode_eq_ok_iff.mp run
            have sound := (decode_ok run).1
            rw [counted, Except.bind, decoded, Except.map, Except.map, sound.contents_eq, same]
        | error error =>
            rw [decode, if_neg enough] at run
            cases counted : slotCount schema size with
            | error fault => simp_all [Except.map, bind, Except.bind]
            | ok count =>
                simp only [counted, bind, Except.bind, pure, Except.pure] at run ⊢
                split at run
                · next failed =>
                    rw [failed]
                    cases run
                    rfl
                · cases run
  rw [seen, seen, slotCount_alike alike]
  simp only [decodeSlots_alike alike]

end

/-- The page that is read back may have the schema of its table instead, if this one has
the same types. -/
theorem Sound.encode_decode_alike (sound : page.Sound) {schema : Schema}
    (alike : page.schema.alike schema = true) :
    ∃ bytes, page.encode = .ok bytes ∧ bytes.length = page.size ∧
      ∃ again, decode page.id schema page.size bytes = .ok again ∧
        again.contents = page.contents := by
  obtain ⟨bytes, encoded, length, own, decoded, contents⟩ := sound.encode_decode
  have same : (decode page.id page.schema page.size bytes).map Page.contents =
      (decode page.id schema page.size bytes).map Page.contents := decode_alike alike _ _
  rw [decoded] at same
  cases read : decode page.id schema page.size bytes with
  | error error =>
      rw [read] at same
      cases same
  | ok again =>
      rw [read] at same
      exact ⟨bytes, encoded, length, again, read, (Except.ok.inj same).symm.trans contents⟩

/-! ## The page without rows -/

theorem bits_zeros (count : Nat) :
    Bitmap.bits (Bytes.zeros count) = List.replicate (8 * count) false := by
  induction count with
  | zero => rfl
  | succ count ih =>
      have first : Bitmap.byteBits 0 = List.replicate 8 false := by decide
      rw [Bitmap.bits, Bytes.zeros] at ih
      rw [Bitmap.bits, Bytes.zeros, List.replicate_succ, List.flatMap_cons, ih, first,
        List.replicate_append_replicate]
      congr 1
      omega

theorem decodeSlots_unused (id : PageId) (schema : Schema) (count start : Nat)
    (bytes : Bytes) :
    decodeSlots id schema start (List.replicate count false) bytes =
      .ok (List.replicate count none) := by
  induction count generalizing start bytes with
  | zero => rfl
  | succ count ih =>
      simp [List.replicate_succ, decodeSlots, decodeSlot, ih, bind, Except.bind, pure,
        Except.pure]

theorem empty_of_slotCount (id : PageId) {schema : Schema} {size count : Nat}
    (counted : Page.slotCount schema size = .ok count) :
    ∃ page, Page.empty id schema size = .ok page ∧
      page.contents = List.replicate count none := by
  have fit := header_and_slots_fit counted
  have bits := slots_le_header_bits count
  have header : (Bytes.zeros size).take (headerSize count) = Bytes.zeros (headerSize count) := by
    rw [Bytes.zeros, Bytes.zeros, List.take_replicate]
    congr 1
    omega
  have unused : (Bitmap.bits ((Bytes.zeros size).take (headerSize count))).take count =
      List.replicate count false := by
    rw [header, bits_zeros, List.take_replicate]
    congr 1
    omega
  have whole : size ≤ (Bytes.zeros size).length := by simp
  have run := decode_eq_ok_iff.mpr ⟨whole, count, List.replicate count none, counted,
    (by rw [unused]; exact decodeSlots_unused id schema count 0 _), rfl⟩
  refine ⟨_, run, ?_⟩
  rw [(decode_ok run).1.contents_eq]
  simp

theorem contents_empty {id : PageId} {schema : Schema} {size : Nat} {contents : Contents}
    (read : (Page.empty id schema size).map Page.contents = .ok contents) :
    ∃ count, contents = List.replicate (count + 1) none := by
  cases run : Page.empty id schema size with
  | error error =>
      rw [run] at read
      cases read
  | ok page =>
      rw [run] at read
      cases read
      obtain ⟨-, count, slots, counted, -⟩ := decode_eq_ok_iff.mp run
      obtain ⟨again, same, contents⟩ := empty_of_slotCount id counted
      cases run.symm.trans same
      obtain ⟨count, rfl⟩ :=
        Nat.exists_eq_succ_of_ne_zero (Nat.ne_of_gt (slotCount_facts counted).2.1)
      exact ⟨count, contents⟩

theorem firstFree_empty {id : PageId} {schema : Schema} {size : Nat} {contents : Contents}
    (read : (Page.empty id schema size).map Page.contents = .ok contents) :
    contents.findIdx? Option.isNone = some 0 := by
  obtain ⟨count, rfl⟩ := contents_empty read
  rw [List.replicate_succ]
  rfl

end Page

end TableStore
