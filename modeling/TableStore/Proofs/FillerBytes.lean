import TableStore.Proofs.PageBytes

/-!
# Bytes that hold nothing

Some bytes of a page hold nothing: those of unused slots, those behind a text up
to its full width and those behind the last slot.  Pages are read in the same way
whatever stands there, and bytes behind the size of a page are not read at all.
-/

set_option autoImplicit false

namespace TableStore

/-! ## Values -/

namespace Bytes

theorem take_eq_of_agree {a b : Bytes} {count : Nat}
    (agree : ∀ pos < count, a[pos]? = b[pos]?) : a.take count = b.take count := by
  apply List.ext_getElem?
  intro pos
  rw [List.getElem?_take, List.getElem?_take]
  split
  · next inside => exact agree pos inside
  · rfl

theorem takeWord?_eq_take (bytes : Bytes) :
    takeWord? bytes = (takeWord? (bytes.take 4)).map fun read => (read.1, bytes.drop 4) := by
  match bytes with
  | [] | [_] | [_, _] | [_, _, _] | _ :: _ :: _ :: _ :: _ => rfl

end Bytes

namespace Value

/-- How many bytes of a stored value count: all of a number, and of a text its
length and as many bytes as that says. -/
def extent (type : ColumnType) (bytes : Bytes) : Nat :=
  match type, Bytes.takeWord? bytes with
  | .text, some (length, _) => 4 + length.toNat
  | _, _ => 4

theorem rest_of_decode {type : ColumnType} {bytes rest : Bytes} {value : Value}
    (run : decode type bytes = .ok (value, rest)) : rest = bytes.drop type.width := by
  simp only [decode] at run
  split at run
  · cases run
  · next word tail taken =>
      rw [Bytes.eq_ofWord_of_takeWord? taken]
      cases type with
      | int =>
          cases run
          rfl
      | text =>
          simp only at run
          split at run
          · cases run
          · split at run
            · cases run
            · split at run
              · cases run
                simp [ColumnType.width, ← List.drop_drop, List.drop_append]
              · cases run

/-- A value is read from the bytes that count. -/
theorem decode_agree {type : ColumnType} {a b : Bytes} (length : a.length = b.length)
    (agree : ∀ pos < type.width, pos < extent type a → a[pos]? = b[pos]?) :
    (decode type a).map Prod.fst = (decode type b).map Prod.fst := by
  have least : 4 ≤ extent type a ∧ 4 ≤ type.width := by
    constructor
    · unfold extent
      split
      · exact Nat.le_add_right 4 _
      · exact Nat.le_refl 4
    · cases type <;> simp [ColumnType.width]
  have words : a.take 4 = b.take 4 := by
    apply Bytes.take_eq_of_agree
    intro pos inside
    exact agree pos (by omega) (by omega)
  have other := Bytes.takeWord?_eq_take b
  rw [← words] at other
  cases first : Bytes.takeWord? (a.take 4) with
  | none =>
      have own := Bytes.takeWord?_eq_take a
      rw [first] at own other
      simp [decode, own, other]
  | some read =>
      have own := Bytes.takeWord?_eq_take a
      rw [first] at own other
      simp only [Option.map_some] at own other
      cases type with
      | int => simp [decode, own, other, Except.map]
      | text =>
          simp only [decode, own, other, List.length_drop, length]
          by_cases large : textLimit < read.1.toNat
          · simp only [large, if_true]
          · by_cases short : b.length - 4 < textLimit
            · simp only [large, short, if_true, if_false]
            · have content : (a.drop 4).take read.1.toNat = (b.drop 4).take read.1.toNat := by
                apply Bytes.take_eq_of_agree
                intro pos inside
                rw [List.getElem?_drop, List.getElem?_drop]
                have wide : 4 + pos < ColumnType.text.width := by
                  simp only [ColumnType.width]
                  omega
                have counts : 4 + pos < extent .text a := by
                  simp only [extent, own]
                  omega
                exact agree _ wide counts
              simp only [large, short, if_false, content]
              cases Text.readUtf8 ((b.drop 4).take read.1.toNat) <;> rfl

end Value

/-! ## Rows -/

namespace Row

/-- Whether a position in the bytes of a row lies behind a text, in what fills
it up to its width. -/
def Padding : List ColumnType → Bytes → Nat → Prop
  | [], _, _ => False
  | type :: types, bytes, pos =>
      if pos < type.width then Value.extent type bytes ≤ pos
      else Padding types (bytes.drop type.width) (pos - type.width)

instance decidablePadding : (types : List ColumnType) → (bytes : Bytes) → (pos : Nat) →
    Decidable (Padding types bytes pos)
  | [], _, _ => inferInstanceAs (Decidable False)
  | type :: types, bytes, pos =>
      have := decidablePadding types (bytes.drop type.width) (pos - type.width)
      inferInstanceAs (Decidable (if pos < type.width then Value.extent type bytes ≤ pos
        else Padding types (bytes.drop type.width) (pos - type.width)))

theorem map_cons_of_map {a b : Except IoFault (List Value × Bytes)} (value : Value)
    (same : a.map Prod.fst = b.map Prod.fst) :
    (a.bind fun read => .ok (value :: read.1, read.2)).map Prod.fst =
      (b.bind fun read => .ok (value :: read.1, read.2)).map Prod.fst := by
  cases a <;> cases b <;> simp_all [Except.map, Except.bind]

theorem decodeValues_agree (types : List ColumnType) {a b : Bytes}
    (length : a.length = b.length)
    (agree : ∀ pos < (types.map ColumnType.width).foldr (· + ·) 0,
      ¬ Padding types a pos → a[pos]? = b[pos]?) :
    (decodeValues types a).map Prod.fst = (decodeValues types b).map Prod.fst := by
  induction types generalizing a b with
  | nil => rfl
  | cons type types ih =>
      simp only [List.map_cons, List.foldr_cons] at agree
      have first : (Value.decode type a).map Prod.fst = (Value.decode type b).map Prod.fst := by
        apply Value.decode_agree length
        intro pos inside counts
        apply agree pos (by omega)
        simp only [Padding, inside, if_true]
        omega
      have others : (decodeValues types (a.drop type.width)).map Prod.fst =
          (decodeValues types (b.drop type.width)).map Prod.fst := by
        apply ih (by simp [length])
        intro pos inside counts
        rw [List.getElem?_drop, List.getElem?_drop]
        apply agree _ (by omega)
        have past : ¬ type.width + pos < type.width := by omega
        simpa [Padding, past] using counts
      simp only [decodeValues, bind, Except.bind, pure, Except.pure]
      cases own : Value.decode type a with
      | error fault =>
          cases other : Value.decode type b with
          | error otherFault =>
              rw [own, other] at first
              cases first
              rfl
          | ok read =>
              rw [own, other] at first
              cases first
      | ok read =>
          cases other : Value.decode type b with
          | error otherFault =>
              rw [own, other] at first
              cases first
          | ok otherRead =>
              obtain ⟨value, rest⟩ := read
              obtain ⟨otherValue, otherRest⟩ := otherRead
              rw [own, other] at first
              cases first
              rw [Value.rest_of_decode own, Value.rest_of_decode other]
              exact map_cons_of_map value others

theorem decode_agree {schema : Schema} {a b : Bytes} (location : Option Location)
    (values : (decodeValues schema.types a).map Prod.fst =
      (decodeValues schema.types b).map Prod.fst) :
    (decode schema location a).map Prod.fst = (decode schema location b).map Prod.fst := by
  unfold decode
  split
  · next own =>
      split
      · next other =>
          rw [own, other] at values
          cases values
          rfl
      · next other =>
          rw [own, other] at values
          cases values
  · next own =>
      split
      · next other =>
          rw [own, other] at values
          cases values
      · next other =>
          rw [own, other] at values
          cases values
          rfl

end Row

/-! ## Pages -/

namespace Page

def slotStart (schema : Schema) (size slot : Nat) : Nat :=
  headerSize (slotsPerPage size schema.rowWidth) + slot * schema.rowWidth

inductive Filler (schema : Schema) (size : Nat) (data : Bytes) : Nat → Prop
  | unused {slot offset : Nat}
      (inside : slot < slotsPerPage size schema.rowWidth)
      (free : (Bitmap.bits data)[slot]? = some false)
      (within : offset < schema.rowWidth) :
      Filler schema size data (slotStart schema size slot + offset)
  | padding {slot offset : Nat}
      (inside : slot < slotsPerPage size schema.rowWidth)
      (within : offset < schema.rowWidth)
      (behind : Row.Padding schema.types
        (data.slice (slotStart schema size slot) schema.rowWidth) offset) :
      Filler schema size data (slotStart schema size slot + offset)
  | behind {pos : Nat}
      (after : slotStart schema size (slotsPerPage size schema.rowWidth) ≤ pos) :
      Filler schema size data pos

theorem slotStart_add_inj {schema : Schema} {size slot other offset step : Nat}
    (within : offset < schema.rowWidth) (inside : step < schema.rowWidth)
    (same : slotStart schema size slot + offset = slotStart schema size other + step) :
    slot = other ∧ offset = step := by
  simp only [slotStart] at same
  have places : offset + schema.rowWidth * slot = step + schema.rowWidth * other := by
    rw [Nat.mul_comm _ slot, Nat.mul_comm _ other]
    omega
  have slots := congrArg (· / schema.rowWidth) places
  have positive : 0 < schema.rowWidth := by omega
  simp only [Nat.add_mul_div_left _ _ positive, Nat.div_eq_of_lt within,
    Nat.div_eq_of_lt inside, Nat.zero_add] at slots
  subst slots
  exact ⟨rfl, by omega⟩

theorem not_filler {schema : Schema} {size slot offset : Nat} {data : Bytes}
    (inside : slot < slotsPerPage size schema.rowWidth)
    (used : (Bitmap.bits data)[slot]? = some true) (within : offset < schema.rowWidth)
    (counts : ¬ Row.Padding schema.types
      (data.slice (slotStart schema size slot) schema.rowWidth) offset) :
    ¬ Filler schema size data (slotStart schema size slot + offset) := by
  intro filler
  generalize place : slotStart schema size slot + offset = pos at filler
  cases filler with
  | unused _ free otherWithin =>
      obtain ⟨rfl, rfl⟩ := slotStart_add_inj within otherWithin place
      rw [used] at free
      cases free
  | padding _ otherWithin behind =>
      obtain ⟨rfl, rfl⟩ := slotStart_add_inj within otherWithin place
      exact counts behind
  | behind after =>
      have next : slotStart schema size slot + schema.rowWidth ≤
          slotStart schema size (slotsPerPage size schema.rowWidth) := by
        have steps := Nat.mul_le_mul_right schema.rowWidth (Nat.succ_le_of_lt inside)
        rw [Nat.succ_mul] at steps
        simp only [slotStart]
        omega
      omega

theorem header_counts {schema : Schema} {size pos : Nat} {data : Bytes}
    (inside : pos < headerSize (slotsPerPage size schema.rowWidth)) :
    ¬ Filler schema size data pos := by
  intro filler
  cases filler <;> simp only [slotStart] at * <;> omega

theorem bits_take (bytes : Bytes) (count : Nat) :
    Bitmap.bits (bytes.take count) = (Bitmap.bits bytes).take (8 * count) := by
  induction bytes generalizing count with
  | nil => simp [Bitmap.bits]
  | cons first others ih =>
      cases count with
      | zero => simp [Bitmap.bits]
      | succ count =>
          have rest := ih count
          simp only [Bitmap.bits] at rest ⊢
          have enough : (Bitmap.byteBits first).length ≤ 8 * (count + 1) := by
            simp only [Bitmap.length_byteBits]
            omega
          rw [List.take_succ_cons, List.flatMap_cons, List.flatMap_cons, rest, List.take_append,
            List.take_of_length_le enough, Bitmap.length_byteBits]
          rfl

theorem decodeSlots_agree (id : PageId) {schema : Schema} {bits : List Bool} (start : Nat)
    {a b : Bytes}
    (same : ∀ slot : Nat, bits[slot]? = some true → ∀ location,
      (Row.decode schema location (a.slice (slot * schema.rowWidth) schema.rowWidth)).map
          Prod.fst =
        (Row.decode schema location (b.slice (slot * schema.rowWidth) schema.rowWidth)).map
          Prod.fst) :
    decodeSlots id schema start bits a = decodeSlots id schema start bits b := by
  induction bits generalizing start a b with
  | nil => rfl
  | cons used bits ih =>
      have first : decodeSlot id schema start used (a.take schema.rowWidth) =
          decodeSlot id schema start used (b.take schema.rowWidth) := by
        cases used with
        | false => rfl
        | true =>
            have rows := same 0 rfl (some ⟨id, UInt16.ofNat start⟩)
            simp only [Bytes.slice, Nat.zero_mul, List.drop_zero] at rows
            simp only [decodeSlot, if_true]
            revert rows
            cases Row.decode schema (some ⟨id, UInt16.ofNat start⟩) (a.take schema.rowWidth) <;>
              cases Row.decode schema (some ⟨id, UInt16.ofNat start⟩)
                (b.take schema.rowWidth) <;>
                simp [Except.map]
      have others : decodeSlots id schema (start + 1) bits (a.drop schema.rowWidth) =
          decodeSlots id schema (start + 1) bits (b.drop schema.rowWidth) := by
        apply ih
        intro slot found location
        have rows := same (slot + 1) (by simpa using found) location
        simp only [Bytes.slice, Nat.succ_mul] at rows
        simpa [Bytes.slice, Nat.add_comm] using rows
      simp only [decodeSlots, first, others]

/-- Pages are read in the same way whatever stands in the bytes that hold
nothing. -/
theorem decode_agree (id : PageId) {schema : Schema} {size : Nat} {data other : Bytes}
    (whole : size ≤ data.length) (otherWhole : size ≤ other.length)
    (agree : ∀ pos, ¬ Filler schema size data pos → data[pos]? = other[pos]?) :
    (decode id schema size data).map (fun page => (page.header, page.slots)) =
      (decode id schema size other).map (fun page => (page.header, page.slots)) := by
  cases counted : Page.slotCount schema size with
  | error error =>
      simp only [decode, Nat.not_lt.mpr whole, Nat.not_lt.mpr otherWhole, if_false, counted, bind,
        Except.bind]
  | ok count =>
      have exact := (slotCount_facts counted).2.2.2
      have fit := header_and_slots_fit counted
      have header : data.take (headerSize count) = other.take (headerSize count) := by
        apply Bytes.take_eq_of_agree
        intro pos inside
        exact agree pos (header_counts (exact ▸ inside))
      have rows : decodeSlots id schema 0
            ((Bitmap.bits (data.take (headerSize count))).take count)
            (data.drop (headerSize count)) =
          decodeSlots id schema 0 ((Bitmap.bits (data.take (headerSize count))).take count)
            (other.drop (headerSize count)) := by
        apply decodeSlots_agree
        intro slot found location
        have inside : slot < count := by
          obtain ⟨inside, -⟩ := List.getElem?_eq_some_iff.mp found
          simp only [List.length_take] at inside
          omega
        have used : (Bitmap.bits data)[slot]? = some true := by
          rw [bits_take, List.take_take, List.getElem?_take] at found
          split at found
          · exact found
          · cases found
        have room := Nat.mul_le_mul_right schema.rowWidth (Nat.succ_le_of_lt inside)
        rw [Nat.succ_mul] at room
        have start : slotStart schema size slot =
            headerSize count + slot * schema.rowWidth := by
          rw [slotStart, ← exact]
        apply Row.decode_agree
        apply Row.decodeValues_agree
        · simp only [Bytes.slice, List.length_take, List.length_drop]
          omega
        · intro offset within counts
          have holds := not_filler (exact ▸ inside) used within
            (by simpa [Bytes.slice, start] using counts)
          have place := agree _ holds
          rw [start] at place
          simp only [Bytes.slice, List.drop_drop, List.getElem?_take, List.getElem?_drop, place]
      simp only [decode, Nat.not_lt.mpr whole, Nat.not_lt.mpr otherWhole, if_false, counted, bind,
        Except.bind, pure, Except.pure, rows]
      rw [header]
      cases decodeSlots id schema 0 ((Bitmap.bits (other.take (headerSize count))).take count)
        (other.drop (headerSize count)) <;> rfl

/-- Only the bytes of the page itself are read. -/
theorem decode_eq_of_take_eq (id : PageId) (schema : Schema) {size : Nat} {data other : Bytes}
    (same : data.take size = other.take size) :
    decode id schema size data = decode id schema size other := by
  have lengths := congrArg List.length same
  simp only [List.length_take] at lengths
  by_cases short : data.length < size
  · rw [List.take_of_length_le (by omega), List.take_of_length_le (by omega)] at same
    rw [same]
  · have whole : size ≤ data.length := Nat.not_lt.mp short
    have otherWhole : size ≤ other.length := by omega
    have agree : ∀ pos, ¬ Filler schema size data pos → data[pos]? = other[pos]? := by
      intro pos counts
      have inside : pos < size := by
        apply Nat.lt_of_not_le
        intro outside
        exact counts (.behind (Nat.le_trans (slots_fit size schema.rowWidth) outside))
      have cut := congrArg (fun bytes : Bytes => bytes[pos]?) same
      simpa [List.getElem?_take, inside] using cut
    have parts := decode_agree id whole otherWhole agree
    cases own : decode id schema size data with
    | error error =>
        cases others : decode id schema size other with
        | error otherError =>
            rw [own, others] at parts
            cases parts
            rfl
        | ok otherPage =>
            rw [own, others] at parts
            cases parts
    | ok page =>
        cases others : decode id schema size other with
        | error otherError =>
            rw [own, others] at parts
            cases parts
        | ok otherPage =>
            rw [own, others] at parts
            obtain ⟨-, _, _, -, -, rfl⟩ := decode_eq_ok_iff.mp own
            obtain ⟨-, _, _, -, -, rfl⟩ := decode_eq_ok_iff.mp others
            simp only [Except.map, Except.ok.injEq, Prod.mk.injEq] at parts
            rw [parts.1, parts.2, same]

end Page

end TableStore
