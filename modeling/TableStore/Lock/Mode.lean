/-!
# Lock modes

A lock is shared by readers or exclusive to one writer.
-/

set_option autoImplicit false

namespace TableStore

inductive LockMode where
  | shared
  | exclusive
deriving DecidableEq, Repr, Inhabited

namespace LockMode

def compatible : LockMode → LockMode → Bool
  | shared, shared => true
  | _, _ => false

def max : LockMode → LockMode → LockMode
  | shared, shared => shared
  | _, _ => exclusive

end LockMode

end TableStore
