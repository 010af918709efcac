import TableStore.Bytes

/-!
# Bitmaps

Bytes as a list of bits, the least significant bit of each byte first.  Setting
a bit sets it in the list of bits and changes nothing else.
-/

set_option autoImplicit false

namespace TableStore.Bitmap

/-- The bits of a byte, least significant first. -/
def byteBits (byte : UInt8) : List Bool :=
  (List.range 8).map byte.toNat.testBit

def number : List Bool → Nat
  | [] => 0
  | bit :: bits => bit.toNat + 2 * number bits

def byte (bits : List Bool) : UInt8 := UInt8.ofNat (number bits)

def bits (bytes : Bytes) : List Bool := bytes.flatMap byteBits

def assign (bytes : Bytes) (index : Nat) (value : Bool) : Bytes :=
  bytes.modify (index / 8) fun old => byte ((byteBits old).set (index % 8) value)

@[simp] theorem length_byteBits (byte : UInt8) : (byteBits byte).length = 8 := rfl

@[simp] theorem length_bits (bytes : Bytes) : (bits bytes).length = 8 * bytes.length := by
  induction bytes with
  | nil => rfl
  | cons first others ih => simp [bits] at ih ⊢; omega

@[simp] theorem length_assign (bytes : Bytes) (index : Nat) (value : Bool) :
    (assign bytes index value).length = bytes.length := by
  simp [assign]

theorem byte_byteBits (b : UInt8) : byte (byteBits b) = b := by
  have all : ∀ n < 256, byte (byteBits (UInt8.ofNat n)) = UInt8.ofNat n := by
    decide +kernel
  have := all b.toNat b.toNat_lt
  simpa using this

theorem byteBits_byte {bits : List Bool} (length : bits.length = 8) :
    byteBits (byte bits) = bits := by
  match bits, length with
  | [a, b, c, d, e, f, g, h], _ =>
      revert a b c d e f g h
      decide +kernel

theorem bits_assign (bytes : Bytes) (index : Nat) (value : Bool) :
    bits (assign bytes index value) = (bits bytes).set index value := by
  induction bytes generalizing index with
  | nil => simp [assign, bits]
  | cons first others ih =>
      by_cases here : index < 8
      · have zero : index / 8 = 0 := by omega
        have same : index % 8 = index := by omega
        simp [assign, zero, same, bits, List.set_append, here,
          byteBits_byte]
      · have next : index / 8 = (index - 8) / 8 + 1 := by omega
        have same : index % 8 = (index - 8) % 8 := by omega
        have later := ih (index - 8)
        simp only [assign, bits] at later
        simp [assign, next, same, bits, List.set_append, here, later]

end TableStore.Bitmap
