/-!
# Bytes

Byte strings, words of four bytes with the most significant byte first, and
the two ways to change bytes in place: padding to a length and writing a piece
over an offset.
-/

set_option autoImplicit false

namespace TableStore

abbrev Bytes := List UInt8

namespace Bytes

def zeros (count : Nat) : Bytes := List.replicate count 0

def resize (length : Nat) (bytes : Bytes) : Bytes :=
  bytes.take length ++ zeros (length - bytes.length)

/-- The bytes with a piece written over an offset.  A gap before the offset is
filled with zeros. -/
def overwrite (bytes : Bytes) (offset : Nat) (piece : Bytes) : Bytes :=
  resize offset bytes ++ piece ++ bytes.drop (offset + piece.length)

def slice (bytes : Bytes) (offset length : Nat) : Bytes :=
  (bytes.drop offset).take length

def ofWord (word : UInt32) : Bytes :=
  [UInt8.ofNat (word.toNat / 0x1000000), UInt8.ofNat (word.toNat / 0x10000),
    UInt8.ofNat (word.toNat / 0x100), UInt8.ofNat word.toNat]

/-- The word of four bytes, most significant first. -/
def word (a b c d : UInt8) : UInt32 :=
  UInt32.ofNat (a.toNat * 0x1000000 + b.toNat * 0x10000 + c.toNat * 0x100 + d.toNat)

def takeWord? : Bytes → Option (UInt32 × Bytes)
  | a :: b :: c :: d :: rest => some (word a b c d, rest)
  | _ => none

@[simp] theorem length_zeros (count : Nat) : (zeros count).length = count := by
  simp [zeros]

@[simp] theorem length_resize (length : Nat) (bytes : Bytes) :
    (resize length bytes).length = length := by
  simp [resize]; omega

@[simp] theorem length_ofWord (n : UInt32) : (ofWord n).length = 4 := rfl

theorem word_ofWord (n : UInt32) :
    word (UInt8.ofNat (n.toNat / 0x1000000)) (UInt8.ofNat (n.toNat / 0x10000))
      (UInt8.ofNat (n.toNat / 0x100)) (UInt8.ofNat n.toNat) = n := by
  apply UInt32.toNat_inj.1
  have bound := n.toNat_lt
  simp only [word, UInt32.toNat_ofNat', UInt8.toNat_ofNat']
  omega

theorem takeWord?_ofWord (n : UInt32) (rest : Bytes) :
    takeWord? (ofWord n ++ rest) = some (n, rest) := by
  simp only [ofWord, takeWord?, List.cons_append, List.nil_append, word_ofWord]

theorem ofWord_word (a b c d : UInt8) : ofWord (word a b c d) = [a, b, c, d] := by
  have ha := a.toNat_lt
  have hb := b.toNat_lt
  have hc := c.toNat_lt
  have hd := d.toNat_lt
  simp only [ofWord, word, UInt32.toNat_ofNat', List.cons.injEq, and_true]
  refine ⟨?_, ?_, ?_, ?_⟩ <;>
    · apply UInt8.toNat_inj.1
      simp only [UInt8.toNat_ofNat']
      omega

theorem eq_ofWord_of_takeWord? {n : UInt32} {bytes rest : Bytes}
    (run : takeWord? bytes = some (n, rest)) : bytes = ofWord n ++ rest := by
  match bytes, run with
  | a :: b :: c :: d :: others, run =>
      simp only [takeWord?, Option.some.injEq, Prod.mk.injEq] at run
      rw [← run.1, ← run.2, ofWord_word]
      rfl

theorem length_overwrite (bytes : Bytes) (offset : Nat) (piece : Bytes) :
    (overwrite bytes offset piece).length =
      max bytes.length (offset + piece.length) := by
  simp [overwrite]; omega

end Bytes

end TableStore
