import TableStore.Row
import TableStore.Value.Codec

/-!
# Rows in bytes

A row is encoded as its values one after the other, so its encoding has the
width of its schema's rows and can be followed by anything.
-/

set_option autoImplicit false

namespace TableStore.Row

def encodeValues : List Value → Except IoFault Bytes
  | [] => .ok []
  | value :: values => do
      let first ← value.encode
      let others ← encodeValues values
      return first ++ others

def decodeValues : List ColumnType → Bytes → Except IoFault (List Value × Bytes)
  | [], bytes => .ok ([], bytes)
  | type :: types, bytes => do
      let (value, rest) ← Value.decode type bytes
      let (values, rest) ← decodeValues types rest
      return (value :: values, rest)

theorem accepts_of_decodeValues {schema : Schema} {values : List Value}
    {bytes rest : Bytes}
    (run : decodeValues schema.types bytes = .ok (values, rest)) :
    schema.accepts values = true := by
  rw [Schema.accepts]
  generalize schema.types = types at run ⊢
  induction types generalizing values bytes with
  | nil => cases run; rfl
  | cons type types ih =>
      simp only [decodeValues, bind, Except.bind] at run
      split at run
      · cases run
      · next decoded =>
          split at run
          · cases run
          · next tail =>
              cases run
              have fit := Value.fits_of_decode decoded
              have others := ih tail
              simp_all

def encode (row : Row) : Except IoFault Bytes := encodeValues row.values

def decode (schema : Schema) (location : Option Location) (bytes : Bytes) :
    Except IoFault (Row × Bytes) :=
  match run : decodeValues schema.types bytes with
  | .ok (values, rest) =>
      .ok (⟨schema, values, location, accepts_of_decodeValues run⟩, rest)
  | .error fault => .error fault

end TableStore.Row
