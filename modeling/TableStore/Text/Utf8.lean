/-!
# UTF-8 text in bytes

The bytes of a text, the text that bytes stand for, and the place where bytes
stop being text.  A text and its bytes determine each other.
-/

set_option autoImplicit false

namespace TableStore.Text

def utf8 (text : String) : List UInt8 :=
  text.toByteArray.data.toList

def ofUtf8? (bytes : List UInt8) : Option String :=
  String.fromUTF8? ⟨bytes.toArray⟩

/-- Where bytes stop being text: after `valid` bytes comes a sequence of
`length` bytes that begins no character, or, without a length, the beginning
of a character that the end of the bytes cuts off. -/
structure Utf8Fault where
  valid : Nat
  length : Option Nat
deriving DecidableEq, Repr

/-- The bytes that may follow `first` in a character, as a least and a
greatest second byte and the number of all bytes that follow. -/
def followers (first : UInt8) : Option (UInt8 × UInt8 × Nat) :=
  if 0xC2 ≤ first ∧ first ≤ 0xDF then some (0x80, 0xBF, 1)
  else if first = 0xE0 then some (0xA0, 0xBF, 2)
  else if first = 0xED then some (0x80, 0x9F, 2)
  else if 0xE1 ≤ first ∧ first ≤ 0xEF then some (0x80, 0xBF, 2)
  else if first = 0xF0 then some (0x90, 0xBF, 3)
  else if 0xF1 ≤ first ∧ first ≤ 0xF3 then some (0x80, 0xBF, 3)
  else if first = 0xF4 then some (0x80, 0x8F, 3)
  else none

/-- Reads `missing` further bytes of a character of which `got` were read, the
next one between `low` and `high`.  Answers the bytes after the character, or
the length of the bad sequence. -/
def finishCharacter (got : Nat) (low high : UInt8) :
    (missing : Nat) → List UInt8 → Except (Option Nat) (List UInt8)
  | 0, bytes => .ok bytes
  | _ + 1, [] => .error none
  | missing + 1, byte :: bytes =>
      if low ≤ byte ∧ byte ≤ high then
        finishCharacter (got + 1) 0x80 0xBF missing bytes
      else .error (some got)

def readCharacter : List UInt8 → Except (Option Nat) (List UInt8)
  | [] => .error none
  | first :: bytes =>
      if first < 0x80 then .ok bytes
      else
        match followers first with
        | none => .error (some 1)
        | some (low, high, missing) => finishCharacter 1 low high missing bytes

theorem length_finishCharacter {got missing : Nat} {low high : UInt8}
    {bytes rest : List UInt8}
    (run : finishCharacter got low high missing bytes = .ok rest) :
    rest.length ≤ bytes.length := by
  induction missing generalizing got low high bytes with
  | zero => simp [finishCharacter] at run; simp [run]
  | succ missing ih =>
      cases bytes with
      | nil => simp [finishCharacter] at run
      | cons byte bytes =>
          simp only [finishCharacter] at run
          split at run
          · have := ih run; simp; omega
          · simp at run

theorem length_readCharacter {bytes rest : List UInt8}
    (run : readCharacter bytes = .ok rest) : rest.length < bytes.length := by
  cases bytes with
  | nil => simp [readCharacter] at run
  | cons first bytes =>
      simp only [readCharacter] at run
      split at run
      · simp at run; simp [run]
      · split at run
        · simp at run
        · have := length_finishCharacter run; simp; omega

def faultAfter (valid : Nat) (bytes : List UInt8) : Option Utf8Fault :=
  match bytes with
  | [] => none
  | first :: others =>
      match run : readCharacter (first :: others) with
      | .ok rest =>
          have := length_readCharacter run
          faultAfter (valid + ((first :: others).length - rest.length)) rest
      | .error length => some ⟨valid, length⟩
termination_by bytes.length
decreasing_by assumption

def readUtf8 (bytes : List UInt8) : Except Utf8Fault String :=
  match ofUtf8? bytes with
  | some text => .ok text
  | none => .error ((faultAfter 0 bytes).getD ⟨0, none⟩)

def Utf8Fault.message (fault : Utf8Fault) : String :=
  match fault.length with
  | some length =>
      "invalid utf-8 sequence of " ++ toString length ++ " bytes from index " ++
        toString fault.valid
  | none => "incomplete utf-8 byte sequence from index " ++ toString fault.valid

theorem ofUtf8?_utf8 (text : String) : ofUtf8? (utf8 text) = some text := by
  have whole : (⟨(utf8 text).toArray⟩ : ByteArray) = text.toByteArray := by
    simp [utf8]
  unfold ofUtf8?
  rw [whole, String.fromUTF8?, dif_pos text.isValidUTF8]
  rfl

theorem utf8_of_ofUtf8? {bytes : List UInt8} {text : String}
    (run : ofUtf8? bytes = some text) : utf8 text = bytes := by
  simp only [ofUtf8?, String.fromUTF8?] at run
  split at run
  · cases Option.some.inj run
    simp [utf8, String.fromUTF8]
  · simp at run

theorem readUtf8_utf8 (text : String) : readUtf8 (utf8 text) = .ok text := by
  simp [readUtf8, ofUtf8?_utf8]

theorem utf8_of_readUtf8 {bytes : List UInt8} {text : String}
    (run : readUtf8 bytes = .ok text) : utf8 text = bytes := by
  simp only [readUtf8] at run
  split at run
  · next found => cases run; exact utf8_of_ofUtf8? found
  · cases run

theorem length_utf8 (text : String) : (utf8 text).length = text.utf8ByteSize := by
  rfl

end TableStore.Text
