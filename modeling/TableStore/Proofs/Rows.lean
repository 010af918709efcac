import TableStore.Row.Codec

/-!
# Rows and their bytes

The values of a row take up exactly the width of its schema, and are read back
from their bytes whatever comes behind them.
-/

set_option autoImplicit false

namespace TableStore.Row

theorem decodeValues_encodeValues (types : List ColumnType) (values : List Value)
    (length : values.length = types.length)
    (fits : ∀ pair ∈ values.zip types, pair.1.fits pair.2 = true) :
    ∃ bytes, encodeValues values = .ok bytes ∧
      bytes.length = (types.map ColumnType.width).foldr (· + ·) 0 ∧
      ∀ rest, decodeValues types (bytes ++ rest) = .ok (values, rest) := by
  induction types generalizing values with
  | nil =>
      obtain rfl : values = [] := List.length_eq_zero_iff.mp length
      exact ⟨[], rfl, rfl, fun rest => rfl⟩
  | cons type types ih =>
      cases values with
      | nil => simp at length
      | cons value values =>
          have fit : value.fits type = true := fits (value, type) (by simp)
          obtain ⟨first, firstRun⟩ := Value.encode_of_fits fit
          obtain ⟨others, othersRun, othersLength, back⟩ :=
            ih values (by simpa using length)
              (fun pair member => fits pair (by simp [member]))
          have firstLength := Value.length_encode firstRun
          rw [Value.type_of_fits fit] at firstLength
          refine ⟨first ++ others, ?_, ?_, ?_⟩
          · simp [encodeValues, firstRun, othersRun, bind, Except.bind, pure, Except.pure]
          · simp [firstLength, othersLength]
          · intro rest
            rw [List.append_assoc]
            simp [decodeValues, Value.decode_encode (others ++ rest) fit firstRun, back rest,
              bind, Except.bind, pure, Except.pure]

theorem fits_of_accepted {schema : Schema} {values : List Value}
    (accepted : schema.accepts values = true) :
    values.length = schema.types.length ∧
      ∀ pair ∈ values.zip schema.types, pair.1.fits pair.2 = true := by
  simp only [Schema.accepts, Bool.and_eq_true, decide_eq_true_eq, List.all_eq_true] at accepted
  exact accepted

theorem encode_of_alike (row : Row) {schema : Schema} (alike : row.schema.alike schema = true) :
    ∃ bytes, row.encode = .ok bytes ∧ bytes.length = schema.rowWidth ∧
      ∀ rest, decodeValues schema.types (bytes ++ rest) = .ok (row.values, rest) := by
  have accepted : schema.accepts row.values = true :=
    Schema.accepts_of_alike alike ▸ row.accepted
  obtain ⟨length, fits⟩ := fits_of_accepted accepted
  exact decodeValues_encodeValues schema.types row.values length fits

theorem decode_of_decodeValues {schema : Schema} (location : Option Location)
    {bytes rest : Bytes} {values : List Value}
    (run : decodeValues schema.types bytes = .ok (values, rest)) :
    ∃ row, decode schema location bytes = .ok (row, rest) ∧
      row.schema = schema ∧ row.values = values ∧ row.location = location := by
  refine ⟨⟨schema, values, location, accepts_of_decodeValues run⟩, ?_, rfl, rfl, rfl⟩
  unfold decode
  split
  · next others found =>
      rw [run] at found
      cases found
      rfl
  · next fault found =>
      rw [run] at found
      cases found

theorem fields_of_decode {schema : Schema} {location : Option Location}
    {bytes rest : Bytes} {row : Row}
    (run : decode schema location bytes = .ok (row, rest)) :
    row.schema = schema ∧ row.location = location := by
  unfold decode at run
  split at run
  · cases run
    exact ⟨rfl, rfl⟩
  · cases run

end TableStore.Row
