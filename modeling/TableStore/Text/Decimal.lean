/-!
# Decimal numbers in text

Reading a whole number that has to lie between two limits.  The characters are
taken from the left, and the first one that is no digit or takes the number out
of the limits decides the fault.
-/

set_option autoImplicit false

namespace TableStore.Text

inductive DecimalFault where
  | empty
  | badDigit
  | tooLarge
  | tooSmall
deriving DecidableEq, Repr

def DecimalFault.message : DecimalFault → String
  | .empty => "cannot parse integer from empty string"
  | .badDigit => "invalid digit found in string"
  | .tooLarge => "number too large to fit in target type"
  | .tooSmall => "number too small to fit in target type"

def digit? (c : Char) : Option Nat :=
  if '0' ≤ c ∧ c ≤ '9' then some (c.toNat - '0'.toNat) else none

/-- Reads digits as a continuation of the magnitude `sofar`, which may not
exceed `limit`. -/
def readMagnitude (limit : Nat) (beyond : DecimalFault) :
    (sofar : Nat) → List Char → Except DecimalFault Nat
  | sofar, [] => .ok sofar
  | sofar, c :: text =>
      match digit? c with
      | none => .error .badDigit
      | some value =>
          let next := sofar * 10 + value
          if limit < next then .error beyond
          else readMagnitude limit beyond next text

def readDecimal (below above : Nat) (text : String) :
    Except DecimalFault Int :=
  match text.toList with
  | [] => .error .empty
  | ['+'] => .error .badDigit
  | ['-'] => .error .badDigit
  | '+' :: digits => (readMagnitude above .tooLarge 0 digits).map Int.ofNat
  | '-' :: digits =>
      (readMagnitude below .tooSmall 0 digits).map fun n => - Int.ofNat n
  | digits => (readMagnitude above .tooLarge 0 digits).map Int.ofNat

end TableStore.Text
