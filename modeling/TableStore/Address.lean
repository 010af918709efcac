/-!
# Addresses

Tables, the pages of a table, and the places on a page.  Pages are ordered by
table and then by number, places by page and then by slot.
-/

set_option autoImplicit false

namespace TableStore

structure TableId where
  number : UInt32
deriving DecidableEq, Repr, Inhabited

structure PageId where
  table : TableId
  number : UInt32
deriving DecidableEq, Repr, Inhabited

structure Location where
  page : PageId
  slot : UInt16
deriving DecidableEq, Repr, Inhabited

instance : Ord TableId := ⟨compareOn TableId.number⟩

instance : Std.TransOrd TableId :=
  inferInstanceAs (Std.TransCmp (compareOn TableId.number))

instance : Std.LawfulEqOrd TableId where
  eq_of_compare {a b} same := by
    have equal : compare a.number b.number = .eq := same
    have numbers := Std.LawfulEqCmp.eq_of_compare equal
    cases a; cases b; cases numbers; rfl

instance : Ord PageId := ⟨compareLex (compareOn PageId.table) (compareOn PageId.number)⟩

instance : Std.TransOrd PageId :=
  inferInstanceAs (Std.TransCmp
    (compareLex (compareOn PageId.table) (compareOn PageId.number)))

instance : Std.LawfulEqOrd PageId where
  eq_of_compare {a b} same := by
    have parts := Ordering.then_eq_eq.1 same
    have tables : a.table = b.table :=
      Std.LawfulEqCmp.eq_of_compare parts.1
    have numbers : a.number = b.number :=
      Std.LawfulEqCmp.eq_of_compare parts.2
    cases a; cases b
    cases tables; cases numbers; rfl

instance : Ord Location := ⟨compareLex (compareOn Location.page) (compareOn Location.slot)⟩

instance : Std.TransOrd Location :=
  inferInstanceAs (Std.TransCmp
    (compareLex (compareOn Location.page) (compareOn Location.slot)))

instance : Std.LawfulEqOrd Location where
  eq_of_compare {a b} same := by
    have parts := Ordering.then_eq_eq.1 same
    have pages : a.page = b.page :=
      Std.LawfulEqCmp.eq_of_compare parts.1
    have slots : a.slot = b.slot :=
      Std.LawfulEqCmp.eq_of_compare parts.2
    cases a; cases b
    cases pages; cases slots; rfl

def TableId.text (table : TableId) : String := toString table.number.toNat

def PageId.text (page : PageId) : String :=
  page.table.text ++ ":" ++ toString page.number.toNat

/-- A place in the long form that names every part. -/
def Location.text (location : Location) : String :=
  "TupleId \x7b page_id: PageId \x7b table_id: TableId(" ++ location.page.table.text ++
    "), page_no: " ++ toString location.page.number.toNat ++ " \x7d, slot_id: " ++
    toString location.slot.toNat ++ " \x7d"

end TableStore
