import TableStore.Bytes

/-!
# The bytes of a file

A file can be far longer than what was ever written to it: a gap, and a file
made longer, are zeros that nobody stored.  So a file is kept as its first
bytes and the number of zeros behind them.
-/

set_option autoImplicit false

namespace TableStore

structure FileBytes where
  front : Bytes := []
  zeros : Nat := 0
deriving DecidableEq, Repr

namespace FileBytes

instance : EmptyCollection FileBytes := ⟨{}⟩

def ofBytes (bytes : Bytes) : FileBytes := ⟨bytes, 0⟩

variable (file : FileBytes)

def length : Nat := file.front.length + file.zeros

def bytes : Bytes := file.front ++ Bytes.zeros file.zeros

def slice (offset length : Nat) : Bytes :=
  Bytes.resize (min length (file.length - offset)) (file.front.slice offset length)

/-- The file with a piece written over an offset.  A gap before the offset is
filled with zeros. -/
def overwrite (offset : Nat) (piece : Bytes) : FileBytes :=
  let front := file.front.overwrite offset piece
  ⟨front, file.length - front.length⟩

def resize (length : Nat) : FileBytes :=
  ⟨file.front.take length, length - file.front.length⟩

@[simp] theorem length_bytes : file.bytes.length = file.length := by
  simp [bytes, length]

@[simp] theorem bytes_ofBytes (bytes : Bytes) : (ofBytes bytes).bytes = bytes := by
  simp [ofBytes, FileBytes.bytes, Bytes.zeros]

theorem bytes_slice (offset length : Nat) :
    file.bytes.slice offset length = file.slice offset length := by
  apply List.ext_getElem?
  intro index
  simp only [bytes, slice, FileBytes.length, Bytes.slice, Bytes.resize, Bytes.zeros,
    List.getElem?_append, List.getElem?_take, List.getElem?_drop, List.getElem?_replicate,
    List.length_take, List.length_drop]
  grind

@[simp] theorem length_slice (offset length : Nat) :
    (file.slice offset length).length = min length (file.length - offset) :=
  Bytes.length_resize _ _

theorem bytes_overwrite (offset : Nat) (piece : Bytes) :
    (file.overwrite offset piece).bytes = file.bytes.overwrite offset piece := by
  apply List.ext_getElem?
  intro index
  simp only [bytes, overwrite, FileBytes.length, Bytes.overwrite, Bytes.resize, Bytes.zeros,
    List.getElem?_append, List.getElem?_take, List.getElem?_drop, List.getElem?_replicate,
    List.length_append, List.length_take, List.length_drop, List.length_replicate]
  grind

theorem bytes_resize (length : Nat) : (file.resize length).bytes = file.bytes.resize length := by
  apply List.ext_getElem?
  intro index
  simp only [bytes, resize, Bytes.resize, Bytes.zeros, List.getElem?_append, List.getElem?_take,
    List.getElem?_replicate, List.length_append, List.length_take, List.length_replicate]
  grind

end FileBytes

end TableStore
