import TableStore.Fault
import TableStore.Text.Quoted

/-!
# Values

The types of columns and the values that rows hold.  Every type has a fixed
width in bytes, so that a page can be divided into slots of equal size.
-/

set_option autoImplicit false

namespace TableStore

inductive ColumnType where
  | int
  | text
deriving DecidableEq, Repr, Inhabited

namespace ColumnType

/-- The bytes that a value of the type takes up: a word, or a length and the
bytes of the longest text. -/
def width : ColumnType → Nat
  | int => 4
  | text => 4 + textLimit

def name : ColumnType → String
  | int => "int"
  | text => "text"

end ColumnType

inductive Value where
  | int (number : Int32)
  | text (content : String)
deriving DecidableEq, Repr, Inhabited

namespace Value

def type : Value → ColumnType
  | int _ => .int
  | text _ => .text

def fits : Value → ColumnType → Bool
  | int _, .int => true
  | text content, .text => content.utf8ByteSize ≤ textLimit
  | _, _ => false

def render : Value → String
  | int number => toString number.toInt
  | text content => content

def describe : Value → String
  | int number => "Int32(" ++ toString number.toInt ++ ")"
  | text content => "Text(" ++ Text.quote content ++ ")"

theorem type_of_fits {value : Value} {type : ColumnType}
    (fit : value.fits type = true) : value.type = type := by
  cases value <;> cases type <;> simp_all [fits, Value.type]

end Value

end TableStore
