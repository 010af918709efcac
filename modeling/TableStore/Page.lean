import TableStore.Page.Bitmap
import TableStore.Page.Geometry
import TableStore.Row.Codec

/-!
# Pages

A page holds the rows of one table in slots of equal width.  Its header keeps a
bit for every slot, set when the slot holds a row; behind it lie the slots and
then zeros up to the size of the page.  A page remembers the transaction that
changed it and the bytes that a rollback returns to.
-/

set_option autoImplicit false

namespace TableStore

structure Page where
  id : PageId
  schema : Schema
  size : Nat
  /-- One bit for every slot; bits beyond the last slot have no meaning. -/
  header : Bytes
  slots : List (Option Row)
  /-- The transaction whose changes are not in the file yet. -/
  dirtiedBy : Option TxnId
  /-- The bytes of the page as a rollback restores it. -/
  image : Bytes
deriving DecidableEq

namespace Page

/-! ## Bytes of a page -/

def decodeSlot (id : PageId) (schema : Schema) (slot : Nat) (used : Bool)
    (bytes : Bytes) : Except StoreError (Option Row) :=
  if used then
    match Row.decode schema (some ⟨id, UInt16.ofNat slot⟩) bytes with
    | .ok (row, _) => .ok (some row)
    | .error fault => .error (.corruptPage id (.slot slot fault))
  else .ok none

/-- Reads the slots from one on, given their bits and their bytes. -/
def decodeSlots (id : PageId) (schema : Schema) :
    (slot : Nat) → List Bool → Bytes → Except StoreError (List (Option Row))
  | _, [], _ => .ok []
  | slot, used :: bits, bytes => do
      let row ← decodeSlot id schema slot used (bytes.take schema.rowWidth)
      let rows ← decodeSlots id schema (slot + 1) bits (bytes.drop schema.rowWidth)
      return row :: rows

/-- The number of slots on a page of the size for rows of the schema, if there
are some and a location can tell them apart. -/
def slotCount (schema : Schema) (size : Nat) : Except StoreError Nat :=
  let width := schema.rowWidth
  let count := slotsPerPage size width
  if width = 0 then .error (.schemaMismatch .noColumns)
  else if count = 0 then .error (.schemaMismatch (.rowTooWide width size))
  else if addressableSlots < count then
    .error (.invalidSettings (.tooManySlots count))
  else .ok count

def decode (id : PageId) (schema : Schema) (size : Nat) (data : Bytes) :
    Except StoreError Page :=
  if data.length < size then
    .error (.corruptPage id (.tooShort size data.length))
  else do
    let count ← slotCount schema size
    let length := headerSize count
    let header := data.take length
    let slots ← decodeSlots id schema 0 ((Bitmap.bits header).take count)
      (data.drop length)
    return ⟨id, schema, size, header, slots, none, data.take size⟩

def empty (id : PageId) (schema : Schema) (size : Nat) : Except StoreError Page :=
  decode id schema size (Bytes.zeros size)

def occupied (page : Page) : List Bool :=
  (Bitmap.bits page.header).take page.slots.length

def encodeSlot (width : Nat) : Bool × Option Row → Except IoFault Bytes
  | (true, some row) => row.encode
  | _ => .ok (Bytes.zeros width)

def encode (page : Page) : Except StoreError Bytes :=
  match (page.occupied.zip page.slots).mapM (encodeSlot page.schema.rowWidth) with
  | .ok slots => .ok (Bytes.resize page.size (page.header ++ slots.flatten))
  | .error fault => .error (.io fault)

/-! ## Rows of a page -/

def freeCount (page : Page) : Nat := page.occupied.countP (!·)

def firstFree? (page : Page) : Option Nat := page.occupied.findIdx? (!·)

def isUsed (page : Page) (slot : Nat) : Bool := page.occupied[slot]?.getD false

def row? (page : Page) (slot : Nat) : Option Row :=
  if page.isUsed slot then (page.slots[slot]?).join else none

def rows (page : Page) : List Row :=
  (page.occupied.zip page.slots).filterMap fun
    | (true, row) => row
    | (false, _) => none

/-- Puts a row into the first free slot.  Answers the page, and the row at its
new location. -/
def insert (page : Page) (row : Row) : Except StoreError (Page × Row) :=
  if row.schema.alike page.schema then
    match page.firstFree? with
    | none => .error (.pageFull page.id)
    | some slot =>
        let placed := row.placeAt (some ⟨page.id, UInt16.ofNat slot⟩)
        .ok ({ page with
          header := Bitmap.assign page.header slot true
          slots := page.slots.set slot (some placed) }, placed)
  else .error (.schemaMismatch (.pageSchema row.schema page.schema))

def delete (page : Page) (row : Row) : Except StoreError Page :=
  match row.location with
  | none => .error (.notOnPage page.id none)
  | some location =>
      let slot := location.slot.toNat
      if location.page = page.id ∧ page.isUsed slot = true then
        .ok { page with
          header := Bitmap.assign page.header slot false
          slots := page.slots.set slot none }
      else .error (.notOnPage page.id (some location))

/-! ## Changes and their rollback -/

def mark (page : Page) (dirty : Bool) (txn : TxnId) : Page :=
  { page with dirtiedBy := if dirty then some txn else none }

def restore (page : Page) : Except StoreError Page :=
  decode page.id page.schema page.size page.image

/-- The page with its present content as the one that a rollback restores. -/
def capture (page : Page) : Except StoreError Page :=
  match page.encode with
  | .ok image => .ok { page with image }
  | .error error => .error error

end Page

end TableStore
