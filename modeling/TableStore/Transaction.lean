/-!
# Transactions

Transaction identities, the source that hands them out in increasing order,
and the states of a transaction.
-/

set_option autoImplicit false

namespace TableStore

structure TxnId where
  number : UInt64
deriving DecidableEq, Repr, Inhabited

instance : Ord TxnId := ⟨compareOn TxnId.number⟩

instance : Std.TransOrd TxnId :=
  inferInstanceAs (Std.TransCmp (compareOn TxnId.number))

instance : Std.LawfulEqOrd TxnId where
  eq_of_compare {a b} same := by
    have equal : compare a.number b.number = .eq := same
    have numbers := Std.LawfulEqCmp.eq_of_compare equal
    cases a; cases b; cases numbers; rfl

def TxnId.text (txn : TxnId) : String := "Txn" ++ toString txn.number.toNat

structure TxnSource where
  upcoming : UInt64 := 1
deriving DecidableEq, Repr, Inhabited

namespace TxnSource

def next (source : TxnSource) : TxnId × TxnSource :=
  (⟨source.upcoming⟩, ⟨source.upcoming + 1⟩)

def last (source : TxnSource) : TxnId :=
  if source.upcoming = 0 then ⟨0⟩ else ⟨source.upcoming - 1⟩

end TxnSource

inductive TxnState where
  | active
  | committed
  | aborted
deriving DecidableEq, Repr

namespace TxnState

/-- Every state, in the order in which a transaction can reach them. -/
def all : List TxnState := [.active, .committed, .aborted]

def isActive (state : TxnState) : Bool := state = .active

def isFinished (state : TxnState) : Bool := !state.isActive

def text : TxnState → String
  | .active => "Active"
  | .committed => "Committed"
  | .aborted => "Aborted"

end TxnState

end TableStore
