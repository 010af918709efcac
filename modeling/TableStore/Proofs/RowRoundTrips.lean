import TableStore.Proofs.FillerBytes

/-!
# Rows and what is read back of them

A row is written in as many bytes as the width of its schema and read back from them,
whatever comes behind.  Bytes that are read as a row are its own, but for what stands
behind its texts: there the row is written with zeros.  Fewer bytes than the width are no
row.
-/

set_option autoImplicit false

namespace TableStore

/-! ## Values -/

namespace Bytes

theorem getElem?_resize {bytes : Bytes} {length pos : Nat} (inside : pos < length) :
    (resize length bytes)[pos]? = some (bytes[pos]?.getD 0) := by
  have front : (bytes.take length).length = min length bytes.length := List.length_take
  by_cases here : pos < bytes.length
  · rw [resize, List.getElem?_append_left (by omega), List.getElem?_take, if_pos inside,
      List.getElem?_eq_getElem here, Option.getD_some]
  · rw [resize, List.getElem?_append_right (by omega), zeros, List.getElem?_replicate,
      if_pos (by omega), List.getElem?_eq_none (by omega), Option.getD_none]

end Bytes

namespace Value

/-- The bytes of a value are as wide as its type, and those from which it was read as far
as they count. -/
theorem encode_of_decode {type : ColumnType} {bytes rest : Bytes} {value : Value}
    (run : decode type bytes = .ok (value, rest)) :
    type.width ≤ bytes.length ∧ ∃ written, value.encode = .ok written ∧
      written.length = type.width ∧ ∀ pos < type.width,
        written[pos]? = if extent type bytes ≤ pos then some 0 else bytes[pos]? := by
  simp only [decode] at run
  split at run
  · cases run
  next word tail taken =>
  have whole := Bytes.eq_ofWord_of_takeWord? taken
  cases type with
  | int =>
      cases run
      refine ⟨?_, _, rfl, rfl, ?_⟩
      · simp [whole, ColumnType.width]
      · intro pos inside
        rw [if_neg (show ¬ extent .int bytes ≤ pos from Nat.not_le.mpr inside), whole,
          List.getElem?_append_left inside, UInt32.toUInt32_toInt32]
  | text =>
      have extent : extent .text bytes = 4 + word.toNat := by
        simp only [Value.extent, taken]
      simp only at run
      split at run
      · cases run
      next small =>
      split at run
      · cases run
      next enough =>
      split at run
      · next content read =>
          cases run
          have own := Text.utf8_of_readUtf8 read
          have length : (Text.utf8 content).length = word.toNat := by
            rw [own, List.length_take]
            omega
          have encoded : (text content).encode =
              .ok (Bytes.ofWord word ++ Bytes.resize textLimit (Text.utf8 content)) := by
            simp only [encode, length, small, if_false, UInt32.ofNat_toNat]
          refine ⟨?_, _, encoded, length_encode encoded, ?_⟩
          · rw [whole, List.length_append, Bytes.length_ofWord, ColumnType.width]
            omega
          · intro pos inside
            rw [extent, whole]
            simp only [ColumnType.width] at inside
            by_cases first : pos < 4
            · rw [if_neg (by omega), List.getElem?_append_left first,
                List.getElem?_append_left first]
            · rw [List.getElem?_append_right (by rw [Bytes.length_ofWord]; omega),
                List.getElem?_append_right (by rw [Bytes.length_ofWord]; omega),
                Bytes.length_ofWord, Bytes.getElem?_resize (by omega), own, List.getElem?_take]
              by_cases behind : 4 + word.toNat ≤ pos
              · rw [if_pos behind, if_neg (by omega), Option.getD_none]
              · rw [if_neg behind, if_pos (by omega), List.getElem?_eq_getElem (by omega),
                  Option.getD_some]
      · cases run

end Value

/-! ## Rows -/

namespace Row

theorem cases_of_decodeValues {type : ColumnType} {types : List ColumnType} {bytes rest : Bytes}
    {values : List Value} (run : decodeValues (type :: types) bytes = .ok (values, rest)) :
    ∃ value middle others, Value.decode type bytes = .ok (value, middle) ∧
      decodeValues types middle = .ok (others, rest) ∧ values = value :: others := by
  simp only [decodeValues, bind, Except.bind] at run
  split at run
  · cases run
  · next first =>
      split at run
      · cases run
      · next later =>
          cases run
          exact ⟨_, _, _, first, later, rfl⟩

/-- What was read as values is as long as their types are wide, and is written again as
it was, but for zeros behind the texts. -/
theorem encodeValues_of_decodeValues {types : List ColumnType} {bytes rest : Bytes}
    {values : List Value} (run : decodeValues types bytes = .ok (values, rest)) :
    (types.map ColumnType.width).foldr (· + ·) 0 ≤ bytes.length ∧
      rest = bytes.drop ((types.map ColumnType.width).foldr (· + ·) 0) ∧
      ∃ written, encodeValues values = .ok written ∧
        written.length = (types.map ColumnType.width).foldr (· + ·) 0 ∧
        ∀ pos < (types.map ColumnType.width).foldr (· + ·) 0,
          written[pos]? = if Padding types bytes pos then some 0 else bytes[pos]? := by
  induction types generalizing bytes values with
  | nil =>
      cases run
      exact ⟨Nat.zero_le _, rfl, [], rfl, rfl, fun pos inside => absurd inside (Nat.not_lt_zero pos)⟩
  | cons type types ih =>
      obtain ⟨value, middle, others, first, later, rfl⟩ := cases_of_decodeValues run
      obtain ⟨wide, front, frontRun, frontLength, frontBytes⟩ := Value.encode_of_decode first
      obtain rfl := Value.rest_of_decode first
      obtain ⟨enough, rfl, back, backRun, backLength, backBytes⟩ := ih later
      rw [List.length_drop] at enough
      simp only [List.map_cons, List.foldr_cons]
      generalize (types.map ColumnType.width).foldr (· + ·) 0 = width at *
      refine ⟨by omega, by rw [List.drop_drop], front ++ back, ?_, ?_, ?_⟩
      · simp [encodeValues, frontRun, backRun, bind, Except.bind, pure, Except.pure]
      · rw [List.length_append, frontLength, backLength]
      · intro pos inside
        by_cases here : pos < type.width
        · have first := frontBytes pos here
          simp only [Padding, here, if_true]
          rw [List.getElem?_append_left (by omega), first]
        · have later := backBytes (pos - type.width) (by omega)
          rw [List.getElem?_drop, Nat.add_sub_cancel' (Nat.le_of_not_lt here)] at later
          simp only [Padding, here, if_false]
          rw [List.getElem?_append_right (by omega), frontLength, later]

/-- Bytes of a row: as many as the width of the schema, and read as the values whatever
comes behind, of which nothing is read. -/
structure Stores (schema : Schema) (values : List Value) (bytes : Bytes) : Prop where
  length : bytes.length = schema.rowWidth
  read : ∀ location behind, ∃ row, decode schema location (bytes ++ behind) = .ok (row, behind) ∧
    row.schema = schema ∧ row.values = values ∧ row.location = location

variable {schema : Schema}

theorem encode_stores (row : Row) (own : row.schema = schema) :
    ∃ bytes, row.encode = .ok bytes ∧ Stores schema row.values bytes := by
  obtain ⟨bytes, run, length, back⟩ := row.encode_of_alike (Schema.alike_iff.mpr (congrArg _ own))
  exact ⟨bytes, run, length, fun location behind => decode_of_decodeValues location (back behind)⟩

theorem make_eq_ok_iff {values : List Value} :
    (∃ row, make schema values = .ok row) ↔ schema.accepts values = true := by
  unfold make
  split
  · next accepted => simp [accepted]
  · next refused => simp [refused]

theorem fields_of_make {values : List Value} {row : Row} (run : make schema values = .ok row) :
    row.schema = schema ∧ row.values = values := by
  unfold make at run
  split at run
  · cases run
    exact ⟨rfl, rfl⟩
  · cases run

theorem decodeValues_of_decode {location : Option Location} {bytes rest : Bytes} {row : Row}
    (run : decode schema location bytes = .ok (row, rest)) :
    decodeValues schema.types bytes = .ok (row.values, rest) := by
  unfold decode at run
  split at run
  · next found =>
      cases run
      exact found
  · cases run

/-- Rows go through their bytes: values that make up a row are written in as many bytes
as the width of the schema and read back from them, whatever comes behind.  Values that
are read from bytes make up a row, which is written in these bytes, but for zeros behind
the texts, and read back in turn.  No row is read from fewer bytes than its width. -/
theorem rows_survive_their_bytes (schema : Schema) :
    (∀ values row, make schema values = .ok row →
      ∃ bytes, row.encode = .ok bytes ∧ Stores schema values bytes) ∧
    (∀ location bytes row rest, decode schema location bytes = .ok (row, rest) →
      rest = bytes.drop schema.rowWidth ∧
      (∃ made, make schema row.values = .ok made) ∧
      ∃ written, row.encode = .ok written ∧ Stores schema row.values written ∧
        ∀ pos < schema.rowWidth,
          written[pos]? = if Padding schema.types bytes pos then some 0 else bytes[pos]?) ∧
    ∀ location bytes, bytes.length < schema.rowWidth →
      ∃ fault, decode schema location bytes = .error fault := by
  refine ⟨?_, ?_, ?_⟩
  · intro values row run
    obtain ⟨own, rfl⟩ := fields_of_make run
    exact row.encode_stores own
  · intro location bytes row rest run
    have own := (fields_of_decode run).1
    have read := decodeValues_of_decode run
    obtain ⟨-, left, written, encoded, -, same⟩ := encodeValues_of_decodeValues read
    obtain ⟨again, encodedAgain, stores⟩ := row.encode_stores own
    cases encoded.symm.trans encodedAgain
    exact ⟨left, make_eq_ok_iff.mpr (accepts_of_decodeValues read), written, encoded, stores, same⟩
  · intro location bytes short
    cases run : decode schema location bytes with
    | error fault => exact ⟨fault, rfl⟩
    | ok read =>
        obtain ⟨enough, -⟩ := encodeValues_of_decodeValues (decodeValues_of_decode run)
        exact absurd short (Nat.not_lt.mpr enough)

def entryColumns : Schema := ⟨[⟨"number", .int⟩, ⟨"name", .text⟩]⟩

/-- A row of such columns as it may be stored: behind its text, a letter of two bytes, stand
sevens. -/
def storedEntry : Bytes :=
  [0xFF, 0xFF, 0xFF, 0xF7] ++ [0, 0, 0, 2, 0xC3, 0xA9] ++ List.replicate 126 7

theorem entry_survives_its_bytes :
    (∃ row bytes, make entryColumns [.int (-9), .text "é"] = .ok row ∧ row.encode = .ok bytes ∧
      Stores entryColumns [.int (-9), .text "é"] bytes) ∧
    (∃ row written, decode entryColumns none storedEntry = .ok (row, []) ∧
      row.encode = .ok written ∧ written[9]? = some 0xA9 ∧ written[10]? = some 0) ∧
    ∃ fault, decode entryColumns none (storedEntry.take 135) = .error fault := by
  obtain ⟨written, read, short⟩ := rows_survive_their_bytes entryColumns
  have cut : (storedEntry.take 135).length < entryColumns.rowWidth :=
    Nat.lt_of_le_of_lt (List.length_take_le _ _) (by decide)
  refine ⟨?_, ?_, short none _ cut⟩
  · obtain ⟨bytes, encoded, stores⟩ := written [.int (-9), .text "é"] _ rfl
    exact ⟨_, bytes, rfl, encoded, stores⟩
  · have letter : Text.readUtf8 [0xC3, 0xA9] = .ok "é" := Text.readUtf8_utf8 "é"
    have number : Value.decode .int storedEntry = .ok (.int (-9), storedEntry.drop 4) := rfl
    have name : Value.decode .text (storedEntry.drop 4) = .ok (.text "é", []) := by
      simp [storedEntry, Value.decode, Bytes.takeWord?, Bytes.word, letter, textLimit]
    have values : decodeValues entryColumns.types storedEntry =
        .ok ([.int (-9), .text "é"], []) := by
      change decodeValues [.int, .text] storedEntry = _
      simp only [decodeValues, number, name, bind, Except.bind, pure, Except.pure]
    obtain ⟨row, run, -⟩ := decode_of_decodeValues none values
    obtain ⟨-, -, bytes, encoded, -, same⟩ := read none storedEntry row [] run
    refine ⟨row, bytes, run, encoded, ?_, ?_⟩
    · rw [same 9 (by decide)]
      rfl
    · rw [same 10 (by decide)]
      rfl

end Row

end TableStore
