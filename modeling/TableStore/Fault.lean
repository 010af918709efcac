import TableStore.Text.Utf8

/-!
# Faults of input and output

The ways in which reading or writing bytes fails, below the level of pages and
tables.  A fault has a kind, by which callers tell faults apart, and a text.
-/

set_option autoImplicit false

namespace TableStore

def textLimit : Nat := 128

inductive IoFault where
  /-- The bytes end inside a value. -/
  | endOfInput
  /-- A stored text claims to be longer than any text value. -/
  | storedTextTooLong (length : Nat)
  /-- The bytes of a stored text are no text. -/
  | badText (fault : Text.Utf8Fault)
  /-- A text to be stored is longer than any text value. -/
  | textTooLong (length : Nat)
  /-- A buffer has not the size of a page. -/
  | bufferSize (expected given : Nat)
  | missingPage (page : UInt32)
  /-- A page to be written would leave a gap behind the last page. -/
  | pastEnd (page : UInt32) (pages : Nat)
  | noSuchPath
  /-- The pages of a file cannot be counted, because a page has no bytes. -/
  | zeroPageSize
  /-- An offset in a file is no word of 64 bits. -/
  | offsetOverflow
  /-- A page is longer than any buffer. -/
  | noBuffer
  | other (text : String)
deriving DecidableEq, Repr

namespace IoFault

inductive Kind where
  | unexpectedEnd
  | invalidData
  | invalidInput
  | notFound
  | other
deriving DecidableEq, Repr

def kind : IoFault → Kind
  | endOfInput => .unexpectedEnd
  | storedTextTooLong _ => .invalidData
  | badText _ => .invalidData
  | textTooLong _ => .invalidInput
  | bufferSize _ _ => .invalidInput
  | missingPage _ => .unexpectedEnd
  | pastEnd _ _ => .invalidInput
  | noSuchPath => .notFound
  | zeroPageSize => .other
  | offsetOverflow => .other
  | noBuffer => .other
  | other _ => .other

def message : IoFault → String
  | endOfInput => "failed to fill whole buffer"
  | storedTextTooLong length =>
      "string length " ++ toString length ++ " exceeds " ++ toString textLimit
  | badText fault => fault.message
  | textTooLong length =>
      "string of " ++ toString length ++ " bytes exceeds " ++ toString textLimit
  | bufferSize expected given =>
      "buffer size must be " ++ toString expected ++ ", got " ++ toString given
  | missingPage page => "page " ++ toString page.toNat ++ " does not exist"
  | pastEnd page pages =>
      "page " ++ toString page.toNat ++ " is past the end of a file with " ++
        toString pages ++ " pages"
  | noSuchPath => "No such file or directory (os error 2)"
  | zeroPageSize => "attempt to divide by zero"
  | offsetOverflow => "attempt to multiply with overflow"
  | noBuffer => "capacity overflow"
  | other text => text

def isFatal : IoFault → Bool
  | zeroPageSize | offsetOverflow | noBuffer => true
  | _ => false

end IoFault

end TableStore
