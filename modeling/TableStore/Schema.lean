import TableStore.Value

/-!
# Schemas

The layout of a row: named and typed columns.  Names are for readers only, so
two schemas are alike when their types agree column by column.
-/

set_option autoImplicit false

namespace TableStore

structure Column where
  name : String
  type : ColumnType
deriving DecidableEq, Repr, Inhabited

structure Schema where
  columns : List Column
deriving DecidableEq, Repr, Inhabited

namespace Schema

def types (schema : Schema) : List ColumnType := schema.columns.map (·.type)

def defaultName (index : Nat) : String := "c" ++ toString index

def ofTypes (types : List ColumnType) : Schema :=
  ⟨types.zipIdx.map fun (type, index) => ⟨defaultName index, type⟩⟩

def alike (a b : Schema) : Bool := a.types = b.types

def rowWidth (schema : Schema) : Nat :=
  (schema.types.map ColumnType.width).foldr (· + ·) 0

def type? (schema : Schema) (index : Nat) : Option ColumnType :=
  schema.types[index]?

def position? (schema : Schema) (name : String) : Option Nat :=
  schema.columns.findIdx? (·.name = name)

/-- Whether values can make up a row: one for each column, which fits its
type. -/
def accepts (schema : Schema) (values : List Value) : Bool :=
  values.length = schema.types.length &&
    (values.zip schema.types).all fun (value, type) => value.fits type

def text (schema : Schema) : String :=
  "(" ++ ", ".intercalate (schema.columns.map fun column =>
    column.name ++ " " ++ column.type.name) ++ ")"

theorem alike_iff {a b : Schema} : a.alike b = true ↔ a.types = b.types := by
  simp [alike]

theorem rowWidth_of_alike {a b : Schema} (same : a.alike b = true) :
    a.rowWidth = b.rowWidth := by
  rw [rowWidth, rowWidth, alike_iff.1 same]

theorem accepts_of_alike {a b : Schema} {values : List Value}
    (same : a.alike b = true) : a.accepts values = b.accepts values := by
  rw [accepts, accepts, alike_iff.1 same]

end Schema

end TableStore
