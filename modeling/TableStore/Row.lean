import TableStore.Error

/-!
# Rows

A row is made up of values that fit a schema, and has a location once it is on
a page.  Rows are compared by their content; the location plays no part.
-/

set_option autoImplicit false

namespace TableStore

structure Row where
  schema : Schema
  values : List Value
  location : Option Location
  accepted : schema.accepts values = true
deriving DecidableEq

namespace Row

def misfit? : List Value → List Column → Option (Value × Column)
  | value :: values, column :: columns =>
      if value.fits column.type then misfit? values columns
      else some (value, column)
  | _, _ => none

def conflict (schema : Schema) (values : List Value) : SchemaConflict :=
  if values.length ≠ schema.columns.length then
    .valueCount values.length schema.columns.length
  else
    match misfit? values schema.columns with
    | some (value, column) => .value value column
    | none => .valueCount values.length schema.columns.length

def make (schema : Schema) (values : List Value) : Except StoreError Row :=
  if accepted : schema.accepts values = true then
    .ok ⟨schema, values, none, accepted⟩
  else .error (.schemaMismatch (conflict schema values))

def placeAt (row : Row) (location : Option Location) : Row :=
  { row with location }

/-- Whether two rows have alike schemas and the same values. -/
def same (a b : Row) : Bool := a.schema.alike b.schema && a.values = b.values

def text (row : Row) : String := "\t".intercalate (row.values.map Value.render)

end Row

end TableStore
