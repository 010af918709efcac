import TableStore.Table

/-!
# The catalog

The open tables by identity, and their names.  Every name leads to an open
table and every open table has exactly one name.
-/

set_option autoImplicit false

namespace TableStore

/-- Tables by identity, and identities by name. -/
structure Catalog where
  tables : SortedMap TableId Table := ∅
  names : SortedMap String TableId := ∅
deriving DecidableEq, Inhabited

namespace Catalog

variable (catalog : Catalog)

def table (id : TableId) : Except StoreError Table :=
  match catalog.tables.get? id with
  | some table => .ok table
  | none => .error (.noSuchTable id)

def id? (name : String) : Option TableId := catalog.names.get? name

def name? (id : TableId) : Option String :=
  (catalog.names.entries.find? fun entry => decide (entry.2 = id)).map (·.1)

def ids : List TableId := catalog.tables.keys

def listNames : List String := (catalog.ids.filterMap catalog.name?).mergeSort

/-- Registers a table under a name.  A table that had the same name or the same
identity is replaced. -/
def add (table : Table) (name : String) : Catalog :=
  let tables := match catalog.names.get? name with
    | some old => catalog.tables.erase old
    | none => catalog.tables
  let names := (catalog.names.erase name).filter fun _ id => decide (id ≠ table.id)
  { tables := tables.insert table.id table, names := names.insert name table.id }

def remove (id : TableId) : Option Table × Catalog :=
  (catalog.tables.get? id,
    { tables := catalog.tables.erase id
      names := catalog.names.filter fun _ other => decide (other ≠ id) })

end Catalog

end TableStore
