import TableStore.Bytes
import TableStore.Value

/-!
# Values in bytes

The encoding of a value has exactly the width of its type: a number is a word,
a text is its length as a word and its bytes, filled up with zeros.  A value
that fits its type is read back from its encoding.
-/

set_option autoImplicit false

namespace TableStore.Value

/-- The bytes of a value.  A text that is too long has none. -/
def encode : Value → Except IoFault Bytes
  | int number => .ok (Bytes.ofWord number.toUInt32)
  | text content =>
      let bytes := Text.utf8 content
      if textLimit < bytes.length then .error (.textTooLong bytes.length)
      else .ok (Bytes.ofWord (UInt32.ofNat bytes.length) ++ Bytes.resize textLimit bytes)

def decode (type : ColumnType) (bytes : Bytes) : Except IoFault (Value × Bytes) :=
  match Bytes.takeWord? bytes with
  | none => .error .endOfInput
  | some (word, rest) =>
      match type with
      | .int => .ok (.int word.toInt32, rest)
      | .text =>
          let length := word.toNat
          if textLimit < length then .error (.storedTextTooLong length)
          else if rest.length < textLimit then .error .endOfInput
          else
            match Text.readUtf8 (rest.take length) with
            | .ok content => .ok (.text content, rest.drop textLimit)
            | .error fault => .error (.badText fault)

theorem decode_encode {value : Value} {type : ColumnType} {bytes : Bytes}
    (rest : Bytes) (fit : value.fits type = true) (run : value.encode = .ok bytes) :
    decode type (bytes ++ rest) = .ok (value, rest) := by
  match value, type with
  | .int number, .int =>
      cases run
      simp [decode, Bytes.takeWord?_ofWord]
  | .text content, .text =>
      simp only [fits, decide_eq_true_eq, ← Text.length_utf8] at fit
      have small : ¬ textLimit < (Text.utf8 content).length := by omega
      simp only [encode, small, if_false] at run
      cases run
      have size : (UInt32.ofNat (Text.utf8 content).length).toNat =
          (Text.utf8 content).length := by
        simp only [textLimit] at fit
        simp only [UInt32.toNat_ofNat']
        omega
      have back : (Bytes.resize textLimit (Text.utf8 content) ++ rest).take
          (Text.utf8 content).length = Text.utf8 content := by
        simp [Bytes.resize, List.take_of_length_le fit]
      have skip : (Bytes.resize textLimit (Text.utf8 content) ++ rest).drop
          textLimit = rest := by
        simp
      simp only [decode, List.append_assoc, Bytes.takeWord?_ofWord, size, small,
        if_false, back, skip, Text.readUtf8_utf8]
      simp
  | .int _, .text => simp [fits] at fit
  | .text _, .int => simp [fits] at fit

theorem fits_of_decode {type : ColumnType} {value : Value} {bytes rest : Bytes}
    (run : decode type bytes = .ok (value, rest)) : value.fits type = true := by
  simp only [decode] at run
  split at run
  · cases run
  · next word tail _ =>
      cases type with
      | int => cases run; rfl
      | text =>
          simp only at run
          split at run
          · cases run
          · split at run
            · cases run
            · split at run
              · next small long content read =>
                  cases run
                  simp only [fits, decide_eq_true_eq, ← Text.length_utf8,
                    Text.utf8_of_readUtf8 read, List.length_take]
                  omega
              · cases run

theorem length_encode {value : Value} {bytes : Bytes}
    (run : value.encode = .ok bytes) : bytes.length = value.type.width := by
  cases value with
  | int number => cases run; rfl
  | text content =>
      simp only [encode] at run
      split at run
      · cases run
      · cases run
        simp [type, ColumnType.width]

theorem encode_of_fits {value : Value} {type : ColumnType}
    (fit : value.fits type = true) : ∃ bytes, value.encode = .ok bytes := by
  match value, type with
  | .int _, .int => exact ⟨_, rfl⟩
  | .text content, .text =>
      simp only [fits, decide_eq_true_eq, ← Text.length_utf8] at fit
      have small : ¬ textLimit < (Text.utf8 content).length := by omega
      exact ⟨_, by simp only [encode, small, if_false]; rfl⟩
  | .int _, .text => simp [fits] at fit
  | .text _, .int => simp [fits] at fit

end TableStore.Value
