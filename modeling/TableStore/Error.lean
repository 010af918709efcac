import TableStore.Address
import TableStore.Fault
import TableStore.Schema
import TableStore.Transaction

/-!
# Errors of the store

The causes for which an operation on pages and tables is refused, and the
message of each.
-/

set_option autoImplicit false

namespace TableStore

inductive PageDamage where
  | tooShort (expected given : Nat)
  | slot (number : Nat) (fault : IoFault)
  | other (reason : String)
deriving DecidableEq, Repr

inductive SchemaConflict where
  | valueCount (given expected : Nat)
  | value (given : Value) (column : Column)
  | pageSchema (row page : Schema)
  | tableSchema (row table : Schema)
  | noColumns
  | rowTooWide (width size : Nat)
  | other (reason : String)
deriving DecidableEq, Repr

inductive RowAbsence where
  | unplaced
  | outside (location : Location) (table : TableId)
  | other (reason : String)
deriving DecidableEq, Repr

inductive SettingsFault where
  | zeroPageSize
  | noPoolPages
  | tooManySlots (slots : Nat)
  | other (reason : String)
deriving DecidableEq, Repr

inductive StoreError where
  | corruptPage (page : PageId) (damage : PageDamage)
  | schemaMismatch (conflict : SchemaConflict)
  | pageFull (page : PageId)
  | notOnPage (page : PageId) (location : Option Location)
  | rowNotFound (absence : RowAbsence)
  | badPageId (page : PageId) (table : TableId)
  | pageNotFound (page : PageId)
  | noSuchTable (table : TableId)
  | deadlock (txn : TxnId)
  | lockNotHeld (txn : TxnId) (page : PageId)
  | readOnlyPage (page : PageId)
  | poolFull
  | scanExhausted
  | invalidSettings (fault : SettingsFault)
  | io (fault : IoFault)
deriving DecidableEq, Repr

def PageDamage.message : PageDamage → String
  | tooShort expected given =>
      "expected " ++ toString expected ++ " bytes, got " ++ toString given
  | slot number fault => "slot " ++ toString number ++ ": " ++ fault.message
  | other reason => reason

def SchemaConflict.message : SchemaConflict → String
  | valueCount given expected =>
      "value count " ++ toString given ++ " doesn't match schema length " ++
        toString expected
  | value given column =>
      "value " ++ given.describe ++ " is not compatible with column " ++
        column.name ++ " of type " ++ column.type.name
  | pageSchema row page =>
      "tuple schema " ++ row.text ++ " does not match page schema " ++ page.text
  | tableSchema row table =>
      "tuple schema " ++ row.text ++ " does not match table schema " ++ table.text
  | noColumns => "schema has no columns"
  | rowTooWide width size =>
      "row of " ++ toString width ++ " bytes does not fit in a page of " ++
        toString size ++ " bytes"
  | other reason => reason

def RowAbsence.message : RowAbsence → String
  | unplaced => "tuple has no location"
  | outside location table => location.text ++ " is not in table " ++ table.text
  | other reason => reason

def SettingsFault.message : SettingsFault → String
  | zeroPageSize => "page size must be greater than zero"
  | noPoolPages => "buffer pool must hold at least one page"
  | tooManySlots slots =>
      toString slots ++ " slots per page exceed the addressable slot range"
  | other reason => reason

def describeLocation : Option Location → String
  | some location => "Some(" ++ location.text ++ ")"
  | none => "None"

namespace StoreError

def message : StoreError → String
  | corruptPage page damage => "Corrupt page " ++ page.text ++ ": " ++ damage.message
  | schemaMismatch conflict => "Schema mismatch: " ++ conflict.message
  | pageFull page => "Page is full: " ++ page.text ++ " has no empty slot"
  | notOnPage page location =>
      "Tuple " ++ describeLocation location ++ " is not on page " ++ page.text ++
        " or its slot is already empty"
  | rowNotFound absence => "Tuple not found: " ++ absence.message
  | badPageId page table =>
      "Page " ++ page.text ++ " does not belong to table " ++ table.text
  | pageNotFound page => "Page not found: " ++ page.text
  | noSuchTable table => "No table with id " ++ table.text
  | deadlock txn => "Transaction " ++ txn.text ++ " aborted: deadlock detected"
  | lockNotHeld txn page =>
      "Transaction " ++ txn.text ++ " holds no lock on page " ++ page.text
  | readOnlyPage page => "Page " ++ page.text ++ " was fetched read-only"
  | poolFull => "Buffer pool is full: every cached page is in use"
  | scanExhausted => "Scan has no more tuples"
  | invalidSettings fault => "Invalid configuration: " ++ fault.message
  | io fault => "IO error: " ++ fault.message

/-- The messages from the error down to the fault that caused it. -/
def chain (error : StoreError) : List String :=
  match error with
  | io fault => [error.message, fault.message]
  | _ => [error.message]

/-- Whether the error ends an operation on the spot: nothing is given back and
nothing is closed. -/
def isFatal : StoreError → Bool
  | io fault => fault.isFatal
  | _ => false

end StoreError

end TableStore
