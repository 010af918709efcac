import TableStore.Settings

/-!
# Settings in documents

Settings can be kept in a document of records, lists and numbers: a record (or
a list) of the page size, the number of pooled pages and the lock wait, which
is itself a record (or a list) of seconds and nanoseconds.  Further fields are
ignored in the outer record and refused in the inner one.
-/

set_option autoImplicit false

namespace TableStore

inductive Document where
  | natural (value : Nat)
  | list (items : List Document)
  | record (fields : List (String × Document))
  | other
deriving Inhabited

namespace Document

def natural? (bound : Nat) : Document → Option Nat
  | natural value => if value < bound then some value else none
  | _ => none

def duration? : Document → Option Duration
  | list [seconds, nanoseconds] => do
      let seconds ← seconds.natural? UInt64.size
      let nanoseconds ← nanoseconds.natural? UInt32.size
      Duration.ofParts? seconds nanoseconds
  | record fields => do
      if fields.all fun (name, _) => name = "secs" || name = "nanos" then
        let seconds ← (← fields.lookup "secs").natural? UInt64.size
        let nanoseconds ← (← fields.lookup "nanos").natural? UInt32.size
        Duration.ofParts? seconds nanoseconds
      else none
  | _ => none

def settings? : Document → Option Settings
  | list [pageSize, poolPages, lockWait] => do
      return { pageSize := ← pageSize.natural? UInt64.size
               poolPages := ← poolPages.natural? UInt64.size
               lockWait := ← lockWait.duration? }
  | record fields => do
      return { pageSize := ← (← fields.lookup "page_size").natural? UInt64.size
               poolPages := ← (← fields.lookup "pool_pages").natural? UInt64.size
               lockWait := ← (← fields.lookup "lock_wait").duration? }
  | _ => none

end Document

end TableStore
