import TableStore.Error

/-!
# Settings

The sizes that are fixed when a store is made.
-/

set_option autoImplicit false

namespace TableStore

/-- A span of time in whole seconds and a rest in nanoseconds. -/
structure Duration where
  seconds : Nat
  nanoseconds : Nat
deriving DecidableEq, Repr, Inhabited

def Duration.ofMilliseconds (count : Nat) : Duration :=
  ⟨count / 1000, count % 1000 * 1000000⟩

/-- The span of seconds and nanoseconds, where whole seconds in the
nanoseconds are carried over.  There is none when the seconds leave 64 bits. -/
def Duration.ofParts? (seconds nanoseconds : Nat) : Option Duration :=
  let total := seconds + nanoseconds / 1000000000
  if total < UInt64.size then some ⟨total, nanoseconds % 1000000000⟩ else none

structure Settings where
  pageSize : Nat := 4096
  poolPages : Nat := 50
  /-- The pause between two attempts to get a lock. -/
  lockWait : Duration := .ofMilliseconds 10
deriving DecidableEq, Repr

instance : Inhabited Settings := ⟨{}⟩

def Settings.fault? (settings : Settings) : Option SettingsFault :=
  if settings.pageSize = 0 then some .zeroPageSize
  else if settings.poolPages = 0 then some .noPoolPages
  else none

def Settings.validate (settings : Settings) : Except StoreError Unit :=
  match settings.fault? with
  | some fault => .error (.invalidSettings fault)
  | none => .ok ()

end TableStore
