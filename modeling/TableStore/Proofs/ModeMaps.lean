import TableStore.Proofs.Deadlocks

/-!
# Locks as one map of modes

The table keeps locks by page and by transaction, and takes entries out that
nobody holds.  To those who call it, it is a single map from transactions and pages
to modes.  A request is granted exactly if the modes of the others leave room for
it, and raises one mode; giving one page or all pages back clears modes; every other
call leaves the map alone.  Whatever the table is asked, it answers from this map.
-/

set_option autoImplicit false

namespace TableStore

namespace LockTable

inductive Call where
  | acquire (txn : TxnId) (page : PageId) (mode : LockMode)
  | release (txn : TxnId) (page : PageId)
  | releaseAll (txn : TxnId)
  | cancelWait (txn : TxnId)
  | check (txn : TxnId) (page : PageId)

def serve (table : LockTable) : Call → Option Bool × LockTable
  | .acquire txn page mode => (table.acquire txn page mode).map some id
  | .release txn page => (table.release txn page).map some id
  | .releaseAll txn => (table.releaseAll txn).map some id
  | .cancelWait txn => (none, table.cancelWait txn)
  | .check txn page => (some (table.isDeadlock txn page), table)

def serveAll (table : LockTable) : List Call → List (Option Bool) × LockTable
  | [] => ([], table)
  | call :: calls =>
      let (answer, table) := table.serve call
      let (answers, table) := table.serveAll calls
      (answer :: answers, table)

end LockTable

abbrev ModeMap := TxnId → PageId → Option LockMode

namespace ModeMap

variable (modes : ModeMap)

/-- Every mode of another transaction on the page is shared, and so is the one that
is asked for; or there is none. -/
def Free (txn : TxnId) (page : PageId) (mode : LockMode) : Prop :=
  ∀ other, other ≠ txn →
    modes other page = none ∨ modes other page = some .shared ∧ mode = .shared

def stronger : Option LockMode → LockMode → LockMode
  | some .exclusive, _ => .exclusive
  | _, mode => mode

def raise (txn : TxnId) (page : PageId) (mode : LockMode) : ModeMap := fun other place =>
  if other = txn ∧ place = page then some (stronger (modes txn page) mode)
  else modes other place

def clear (txn : TxnId) (page : PageId) : ModeMap := fun other place =>
  if other = txn ∧ place = page then none else modes other place

def clearAll (txn : TxnId) : ModeMap := fun other place =>
  if other = txn then none else modes other place

/-- What a map answers to a call, and the map after it.  Whether waiting would close
a circle is not a matter of modes alone, so a check may answer either way. -/
inductive Serves : LockTable.Call → Option Bool → ModeMap → Prop where
  | granted {txn page mode} (free : modes.Free txn page mode) :
      Serves (.acquire txn page mode) (some true) (modes.raise txn page mode)
  | refused {txn page mode} (taken : ¬ modes.Free txn page mode) :
      Serves (.acquire txn page mode) (some false) modes
  | released {txn page} (held : (modes txn page).isSome) :
      Serves (.release txn page) (some true) (modes.clear txn page)
  | unheld {txn page} (free : modes txn page = none) :
      Serves (.release txn page) (some false) modes
  | releasedAll {txn} (held : ∃ page, (modes txn page).isSome) :
      Serves (.releaseAll txn) (some true) (modes.clearAll txn)
  | unheldAll {txn} (free : ∀ page, modes txn page = none) :
      Serves (.releaseAll txn) (some false) modes
  | cancelled {txn} : Serves (.cancelWait txn) none modes
  | checked {txn page} (answer : Bool) : Serves (.check txn page) (some answer) modes

inductive ServesAll : ModeMap → List LockTable.Call → List (Option Bool) → ModeMap → Prop where
  | done (modes : ModeMap) : ServesAll modes [] [] modes
  | call {modes between after : ModeMap} {call calls answer answers}
      (served : modes.Serves call answer between)
      (rest : ServesAll between calls answers after) :
      ServesAll modes (call :: calls) (answer :: answers) after

variable {modes : ModeMap} {txn : TxnId} {page : PageId}

theorem clear_of_none (free : modes txn page = none) : modes.clear txn page = modes := by
  funext other place
  rw [clear]
  split
  · next here => rw [here.1, here.2, free]
  · rfl

theorem clearAll_of_none (free : ∀ page, modes txn page = none) : modes.clearAll txn = modes := by
  funext other place
  rw [clearAll]
  split
  · next here => rw [here, free place]
  · rfl

end ModeMap

namespace LockTable

/-- Everything the table can be asked is answered from the map, and an exclusive
mode is the only mode on its page. -/
structure Shows (table : LockTable) (modes : ModeMap) : Prop where
  mode : ∀ txn page, table.mode? txn page = modes txn page
  holds : ∀ txn page, table.holds txn page = (modes txn page).isSome
  holders : ∀ txn page, txn ∈ table.holders page ↔ (modes txn page).isSome
  heldPages : ∀ txn page, page ∈ table.heldPages txn ↔ (modes txn page).isSome
  holders_increasing : ∀ page, (table.holders page).Pairwise fun a b => compare a b = .lt
  heldPages_increasing : ∀ txn, (table.heldPages txn).Pairwise fun a b => compare a b = .lt
  excludes : ∀ txn other page, modes txn page = some .exclusive → other ≠ txn →
    modes other page = none

variable {table : LockTable} {txn : TxnId} {page : PageId} {mode : LockMode}

/-! ## Entries -/

/-- A transaction that has an entry holds a page. -/
def Occupied (table : LockTable) : Prop :=
  ∀ txn pages, table.held.get? txn = some pages → pages.isEmpty = false

theorem occupied_empty : ({} : LockTable).Occupied := by
  intro txn pages found
  cases found

theorem Occupied.acquire (occupied : table.Occupied) :
    (table.acquire txn page mode).2.Occupied := by
  rw [LockTable.acquire]
  split
  · intro other pages found
    rw [SortedMap.get?_insert] at found
    split at found
    · cases found
      rw [SortedMap.isEmpty_eq_false_iff]
      refine ⟨page, SortedMap.mem_keys_iff_contains.mpr ?_⟩
      rw [SortedMap.contains_add, decide_eq_true rfl, Bool.true_or]
    · exact occupied other pages found
  · exact occupied

theorem Occupied.release (occupied : table.Occupied) :
    (table.release txn page).2.Occupied := by
  rw [LockTable.release]
  split
  · exact occupied
  · next pages found =>
      have rest (other : TxnId) (others : SortedSet PageId)
          (known : (if (pages.erase page).isEmpty then table.held.erase txn
            else table.held.insert txn (pages.erase page)).get? other = some others) :
          others.isEmpty = false := by
        split at known
        · rw [SortedMap.get?_erase] at known
          split at known
          · cases known
          · exact occupied other others known
        · next left =>
            rw [SortedMap.get?_insert] at known
            split at known
            · cases known
              exact eq_false_of_ne_true left
            · exact occupied other others known
      dsimp only
      split <;> exact rest

theorem Occupied.releaseAll (occupied : table.Occupied) :
    (table.releaseAll txn).2.Occupied := by
  rw [LockTable.releaseAll]
  split
  · exact occupied
  · intro other pages found
    rw [SortedMap.get?_erase] at found
    split at found
    · cases found
    · exact occupied other pages found

theorem exists_held_iff (sound : table.Sound) (occupied : table.Occupied) :
    (∃ page, (table.mode? txn page).isSome) ↔ (table.held.get? txn).isSome := by
  constructor
  · rintro ⟨page, held⟩
    have listed := (sound txn page).mpr held
    rw [LockTable.heldPages] at listed
    cases found : table.held.get? txn with
    | none => simp [found] at listed
    | some pages => rfl
  · intro entered
    obtain ⟨pages, found⟩ := Option.isSome_iff_exists.mp entered
    obtain ⟨page, inside⟩ := SortedMap.isEmpty_eq_false_iff.mp (occupied txn pages found)
    refine ⟨page, (sound txn page).mp ?_⟩
    rw [LockTable.heldPages, found]
    exact inside

/-! ## Answers -/

/-- A request is granted exactly if the modes of the others leave room for it. -/
theorem granted_iff_free :
    (table.acquire txn page mode).1 = true ↔ ModeMap.Free table.mode? txn page mode := by
  have unblocked : (table.acquire txn page mode).1 = true ↔
      ∀ other, other ∉ table.blockers txn page mode := by
    rw [acquire, ← List.eq_nil_iff_forall_not_mem, ← List.isEmpty_iff]
    split <;> simp_all
  rw [unblocked]
  constructor
  · intro nobody other different
    have clear := mt mem_blockers_iff.mpr (nobody other)
    cases held : table.mode? other page with
    | none => exact .inl rfl
    | some old =>
        right
        cases old <;> cases mode <;> simp_all [LockMode.compatible]
  · intro free other blocks
    obtain ⟨different, old, held, conflict⟩ := mem_blockers_iff.mp blocks
    rcases free other different with none | ⟨shared, rfl⟩
    · rw [held] at none
      cases none
    · rw [held] at shared
      cases shared
      simp [LockMode.compatible] at conflict

theorem release_answer (sound : table.Sound) :
    (table.release txn page).1 = (table.mode? txn page).isSome := by
  have held := sound txn page
  rw [mem_heldPages_iff] at held
  rw [Bool.eq_iff_iff, ← held, LockTable.release]
  split
  · next missing => simp [missing, SortedMap.contains]
  · next pages found =>
      dsimp only
      split
      · next inside => simp [found, inside]
      · next outside => simp [found, outside]

theorem releaseAll_answer (sound : table.Sound) (occupied : table.Occupied) :
    (table.releaseAll txn).1 = true ↔ ∃ page, (table.mode? txn page).isSome := by
  rw [exists_held_iff sound occupied, LockTable.releaseAll]
  split
  · next missing => simp [missing]
  · next pages found => simp [found]

theorem mem_holders_iff : txn ∈ table.holders page ↔ (table.mode? txn page).isSome := by
  rw [LockTable.holders, mode?_eq, modeIn]
  cases table.locks.get? page with
  | none => simp
  | some lock => by_cases member : txn ∈ lock.holders <;> simp [Lock.modeOf?, member]

theorem holders_increasing (table : LockTable) (page : PageId) :
    (table.holders page).Pairwise fun a b => compare a b = .lt := by
  rw [LockTable.holders]
  split
  · next lock _ =>
      cases lock with
      | shared holders => exact holders.keys_increasing
      | exclusive holder => exact List.pairwise_singleton _ _
  · exact .nil

theorem heldPages_increasing (table : LockTable) (txn : TxnId) :
    (table.heldPages txn).Pairwise fun a b => compare a b = .lt := by
  rw [LockTable.heldPages]
  split
  · next pages _ => exact pages.keys_increasing
  · exact .nil

theorem Sound.shows (sound : table.Sound) : table.Shows table.mode? where
  mode _ _ := rfl
  holds _ _ := rfl
  holders _ _ := mem_holders_iff
  heldPages := sound
  holders_increasing := table.holders_increasing
  heldPages_increasing := table.heldPages_increasing
  excludes := by
    intro txn other page exclusive different
    cases held : table.mode? other page with
    | none => rfl
    | some mode => exact absurd (alone_of_exclusive exclusive (by rw [held]; rfl)) different

/-! ## One call, and any number of them -/

theorem Sound.serve (sound : table.Sound) (call : Call) : (table.serve call).2.Sound := by
  cases call with
  | acquire txn page mode => exact sound.acquire
  | release txn page => exact sound.release
  | releaseAll txn => exact sound.releaseAll
  | cancelWait txn => exact sound.cancelWait
  | check txn page => exact sound

theorem Occupied.serve (occupied : table.Occupied) (call : Call) :
    (table.serve call).2.Occupied := by
  cases call with
  | acquire txn page mode => exact occupied.acquire
  | release txn page => exact occupied.release
  | releaseAll txn => exact occupied.releaseAll
  | cancelWait txn => exact occupied
  | check txn page => exact occupied

/-- Each call does to the modes what the map does, with the same answer. -/
theorem serves (sound : table.Sound) (occupied : table.Occupied) (call : Call) :
    ModeMap.Serves table.mode? call (table.serve call).1 (table.serve call).2.mode? := by
  cases call with
  | acquire txn page mode =>
      cases answer : (table.acquire txn page mode).1 with
      | true =>
          have after : (table.acquire txn page mode).2.mode? =
              ModeMap.raise table.mode? txn page mode := by
            funext other place
            rw [mode?_of_granted answer, ModeMap.raise]
            rcases table.mode? txn page with _ | _ | _ <;> cases mode <;> rfl
          simp only [LockTable.serve, Prod.map, id, answer, after]
          exact .granted (granted_iff_free.mp answer)
      | false =>
          have after : (table.acquire txn page mode).2.mode? = table.mode? := by
            funext other place
            exact mode?_of_refused answer
          have taken : ¬ ModeMap.Free table.mode? txn page mode := by
            rw [← granted_iff_free, answer]
            exact Bool.false_ne_true
          simp only [LockTable.serve, Prod.map, id, answer, after]
          exact .refused taken
  | release txn page =>
      have after : (table.release txn page).2.mode? = ModeMap.clear table.mode? txn page := by
        funext other place
        exact mode?_release sound
      have answer : (table.release txn page).1 = (table.mode? txn page).isSome :=
        release_answer sound
      simp only [LockTable.serve, Prod.map, id, answer]
      cases held : table.mode? txn page with
      | some mode =>
          rw [after]
          exact .released (by rw [held]; rfl)
      | none =>
          rw [after, ModeMap.clear_of_none held]
          exact .unheld held
  | releaseAll txn =>
      have after : (table.releaseAll txn).2.mode? = ModeMap.clearAll table.mode? txn := by
        funext other place
        exact mode?_releaseAll sound
      have answer : (table.releaseAll txn).1 = true ↔ ∃ page, (table.mode? txn page).isSome :=
        releaseAll_answer sound occupied
      simp only [LockTable.serve, Prod.map, id]
      cases held : (table.releaseAll txn).1 with
      | true =>
          rw [after]
          exact .releasedAll (answer.mp held)
      | false =>
          have free : ∀ page, table.mode? txn page = none := by
            rw [held] at answer
            simpa using answer
          rw [after, ModeMap.clearAll_of_none free]
          exact .unheldAll free
  | cancelWait txn => exact .cancelled
  | check txn page => exact .checked _

theorem servesAll (sound : table.Sound) (occupied : table.Occupied) (calls : List Call) :
    ModeMap.ServesAll table.mode? calls (table.serveAll calls).1
        (table.serveAll calls).2.mode? ∧
      (table.serveAll calls).2.Sound := by
  induction calls generalizing table with
  | nil => exact ⟨.done _, sound⟩
  | cons call calls ih =>
      have rest := ih (sound.serve call) (occupied.serve call)
      exact ⟨.call (serves sound occupied call) rest.1, rest.2⟩

/-- The table answers every sequence of calls as one map of modes that is empty at
first, and shows this map at the end. -/
theorem answers_as_one_map (calls : List Call) :
    ∃ modes, ModeMap.ServesAll (fun _ _ => none) calls (({} : LockTable).serveAll calls).1 modes ∧
      (({} : LockTable).serveAll calls).2.Shows modes := by
  obtain ⟨served, sound⟩ := servesAll sound_empty occupied_empty calls
  exact ⟨_, served, sound.shows⟩

end LockTable

end TableStore
