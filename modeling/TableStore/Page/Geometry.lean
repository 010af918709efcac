/-!
# Geometry of a page

How many slots of a width fit on a page together with one bit for each, and how
many bytes those bits take up.
-/

set_option autoImplicit false

namespace TableStore.Page

/-- The number of slots on a page of `size` bytes for rows of `width` bytes: a
slot takes up its row and one bit. -/
def slotsPerPage (size width : Nat) : Nat := size * 8 / (width * 8 + 1)

def headerSize (slots : Nat) : Nat := (slots + 7) / 8

def addressableSlots : Nat := UInt16.size

end TableStore.Page
