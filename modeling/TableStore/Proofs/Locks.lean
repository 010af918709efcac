import Mathlib.Tactic.ByContra
import TableStore.Lock.Deadlock

/-!
# The modes of locks

What a lock table says about a transaction and a page is the mode in which the
transaction holds it.  Granting a request, giving a page back and giving all
pages back change the modes of the transaction that does so, and no others; the
locked pages of each transaction are those that it has a mode on.  An exclusive
mode excludes every mode of another transaction.
-/

set_option autoImplicit false

namespace TableStore

theorem LockMode.stronger_exclusive (mode : Option LockMode) :
    some ((mode.map (·.max .exclusive)).getD .exclusive) = some LockMode.exclusive := by
  rcases mode with _ | _ | _ <;> rfl

namespace Lock

variable {lock : Lock} {txn other : TxnId} {mode : LockMode}

theorem modeOf?_shared (holders : SortedSet TxnId) :
    (Lock.shared holders).modeOf? txn =
      if holders.contains txn then some .shared else none := by
  simp [modeOf?, Lock.holders, Lock.mode, SortedMap.mem_keys_iff_contains]

theorem modeOf?_exclusive (holder : TxnId) :
    (Lock.exclusive holder).modeOf? txn =
      if txn = holder then some .exclusive else none := by
  simp [modeOf?, Lock.holders, Lock.mode]

theorem modeOf?_single :
    (Lock.single txn mode).modeOf? other = if other = txn then some mode else none := by
  cases mode with
  | shared =>
      have nobody : (∅ : SortedSet TxnId).contains other = false := rfl
      simp [single, modeOf?_shared, SortedMap.single, SortedMap.contains_add, nobody]
  | exclusive => exact modeOf?_exclusive txn

theorem alone_of_exclusive (exclusive : lock.modeOf? txn = some .exclusive)
    (holds : (lock.modeOf? other).isSome = true) : other = txn := by
  cases lock with
  | shared holders => simp [modeOf?_shared] at exclusive
  | exclusive holder =>
      simp only [modeOf?_exclusive] at exclusive holds
      have first : txn = holder := by
        by_contra different
        simp [different] at exclusive
      have second : other = holder := by
        by_contra different
        simp [different] at holds
      rw [first, second]

/-- Joining a lock that nobody blocks gives the stronger of the old mode and the
new one, and leaves the others theirs. -/
theorem modeOf?_join (free : (lock.blockers txn mode).isEmpty = true) :
    (lock.join txn mode).modeOf? other =
      if other = txn then
        some (((lock.modeOf? txn).map (·.max mode)).getD mode)
      else lock.modeOf? other := by
  cases lock with
  | shared holders =>
      cases mode with
      | shared =>
          simp only [join, modeOf?_shared, SortedMap.contains_add]
          by_cases same : other = txn
          · subst same
            by_cases held : holders.contains other = true <;> simp [held, LockMode.max]
          · simp [same]
      | exclusive =>
          have others : holders.contains other = true → other = txn := by
            intro member
            by_contra different
            have blocked : other ∈ (Lock.shared holders).blockers txn .exclusive := by
              simp [blockers, LockMode.compatible, Lock.holders,
                SortedMap.mem_keys_iff_contains, member, different]
            rw [List.isEmpty_iff] at free
            simp [free] at blocked
          simp only [join, modeOf?_shared, modeOf?_exclusive]
          by_cases same : other = txn
          · subst same
            by_cases held : holders.contains other = true <;> simp [held, LockMode.max]
          · have absent : holders.contains other = false := by
              by_contra present
              exact same (others (by simpa using present))
            simp [same, absent]
  | exclusive holder =>
      have own : holder = txn := by
        by_contra different
        have blocked : holder ∈ (Lock.exclusive holder).blockers txn mode := by
          simp [blockers, Lock.mode, LockMode.compatible, Lock.holders, different]
        rw [List.isEmpty_iff] at free
        simp [free] at blocked
      subst own
      cases mode <;> by_cases same : other = holder <;>
        simp [join, modeOf?_exclusive, same, LockMode.max]

theorem modeOf?_leave :
    ((lock.leave? txn).bind (·.modeOf? other)) =
      if other = txn then none else lock.modeOf? other := by
  cases lock with
  | shared holders =>
      have rest (member : TxnId) : (holders.erase txn).contains member =
          (!decide (member = txn) && holders.contains member) :=
        SortedMap.contains_erase holders txn member
      simp only [leave?]
      split
      · next nobody =>
          have absent : (holders.erase txn).contains other = false := by
            rw [SortedMap.isEmpty, List.isEmpty_iff] at nobody
            simp [SortedMap.contains, SortedMap.get?, nobody, SortedMap.find?]
          rw [rest] at absent
          by_cases same : other = txn
          · simp [same]
          · simp_all [modeOf?_shared]
      · rw [Option.bind_some, modeOf?_shared, modeOf?_shared, rest]
        by_cases same : other = txn <;> simp [same]
  | exclusive holder =>
      simp only [leave?]
      by_cases own : holder = txn
      · subst own
        by_cases same : other = holder <;> simp [modeOf?_exclusive, same]
      · by_cases same : other = txn
        · subst same
          simp [modeOf?_exclusive, own, Ne.symm own]
        · simp [modeOf?_exclusive, own, same]

end Lock

namespace LockTable

variable {table : LockTable} {txn other : TxnId} {page place : PageId} {mode : LockMode}

def modeIn (locks : SortedMap PageId Lock) (txn : TxnId) (page : PageId) : Option LockMode :=
  (locks.get? page).bind (·.modeOf? txn)

theorem mode?_eq : table.mode? txn page = modeIn table.locks txn page := rfl

/-- The pages of each transaction are those that it has a mode on. -/
def Sound (table : LockTable) : Prop :=
  ∀ txn page, page ∈ table.heldPages txn ↔ (table.mode? txn page).isSome = true

theorem mem_heldPages_iff :
    page ∈ table.heldPages txn ↔ ((table.held.get? txn).getD ∅).contains page = true := by
  rw [heldPages]
  cases table.held.get? txn with
  | none => simp [SortedMap.contains]
  | some pages => simp [SortedMap.mem_keys_iff_contains]

theorem sound_empty : ({} : LockTable).Sound := by
  intro txn page
  simp [heldPages, mode?_eq, modeIn]

theorem alone_of_exclusive (exclusive : table.mode? txn page = some .exclusive)
    (holds : (table.mode? other page).isSome = true) : other = txn := by
  rw [mode?_eq, modeIn] at exclusive holds
  cases found : table.locks.get? page with
  | none => simp [found] at exclusive
  | some lock =>
      rw [found] at exclusive holds
      exact Lock.alone_of_exclusive exclusive holds

/-! ## Requests -/

theorem mode?_of_granted (granted : (table.acquire txn page mode).1 = true) :
    (table.acquire txn page mode).2.mode? other place =
      if other = txn ∧ place = page then
        some (((table.mode? txn page).map (·.max mode)).getD mode)
      else table.mode? other place := by
  simp only [acquire] at granted ⊢
  split
  · next free =>
      simp only [mode?_eq, modeIn, SortedMap.get?_insert]
      by_cases here : place = page
      · subst here
        rw [blockers] at free
        cases found : table.locks.get? place with
        | none => simp [Lock.modeOf?_single]
        | some lock =>
            rw [found] at free
            simp [Lock.modeOf?_join free]
      · simp [here]
  · next blocked => simp [blocked] at granted

theorem granted_of_alone (alone : ∀ other, other ≠ txn → table.mode? other page = none) :
    (table.acquire txn page mode).1 = true := by
  have unblocked : table.blockers txn page mode = [] := by
    rw [blockers]
    cases found : table.locks.get? page with
    | none => rfl
    | some lock =>
        simp only [Lock.blockers]
        split
        · rfl
        · rw [List.filter_eq_nil_iff]
          intro other holds different
          have free := alone other (of_decide_eq_true different)
          simp [mode?, found, Lock.modeOf?, holds] at free
  simp [acquire, unblocked]

theorem mode?_of_refused (refused : (table.acquire txn page mode).1 = false) :
    (table.acquire txn page mode).2.mode? other place = table.mode? other place := by
  simp only [acquire] at refused ⊢
  split
  · next free => simp [free] at refused
  · rfl

theorem Sound.cancelWait (sound : table.Sound) : (table.cancelWait txn).Sound := sound

theorem Sound.acquire (sound : table.Sound) : (table.acquire txn page mode).2.Sound := by
  cases answer : (table.acquire txn page mode).1 with
  | false =>
      intro other place
      rw [mode?_of_refused answer, ← sound other place]
      simp only [LockTable.acquire] at answer ⊢
      split
      · next free => simp [free] at answer
      · rfl
  | true =>
      intro other place
      have before := sound other place
      rw [mem_heldPages_iff] at before
      rw [mode?_of_granted answer, mem_heldPages_iff]
      simp only [LockTable.acquire] at answer ⊢
      split
      · simp only [SortedMap.get?_insert]
        by_cases same : other = txn
        · subst same
          by_cases here : place = page
          · simp [here, SortedMap.contains_add]
          · simp [here, SortedMap.contains_add, before]
        · simp [same, before]
      · next blocked => simp [blocked] at answer

/-! ## Giving pages back -/

theorem modeIn_unlock (locks : SortedMap PageId Lock) :
    modeIn (unlock locks txn page) other place =
      if other = txn ∧ place = page then none else modeIn locks other place := by
  rw [unlock, modeIn, modeIn]
  cases found : locks.get? page with
  | none => by_cases here : place = page <;> simp_all
  | some lock =>
      have leaves : (lock.leave? txn).bind (·.modeOf? other) =
          if other = txn then none else lock.modeOf? other := Lock.modeOf?_leave
      cases left : lock.leave? txn with
      | none =>
          rw [left] at leaves
          by_cases here : place = page
          · subst here
            by_cases same : other = txn <;> simp_all [SortedMap.get?_erase]
          · simp [left, SortedMap.get?_erase, here]
      | some rest =>
          rw [left] at leaves
          by_cases here : place = page
          · subst here
            by_cases same : other = txn <;> simp_all [SortedMap.get?_insert]
          · simp [left, SortedMap.get?_insert, here]

theorem mode?_release (sound : table.Sound) :
    (table.release txn page).2.mode? other place =
      if other = txn ∧ place = page then none else table.mode? other place := by
  have held := sound txn page
  rw [mem_heldPages_iff] at held
  have nothing (free : ((table.held.get? txn).getD ∅).contains page = false) :
      table.mode? other place =
        if other = txn ∧ place = page then none else table.mode? other place := by
    rw [free] at held
    by_cases here : other = txn ∧ place = page
    · obtain ⟨rfl, rfl⟩ := here
      simpa using held
    · simp [here]
  rw [release]
  split
  · next missing => exact nothing (by rw [missing]; rfl)
  · next pages found =>
      simp only
      split
      · exact modeIn_unlock table.locks
      · next absent => exact nothing (by simpa [found] using absent)

theorem Sound.release (sound : table.Sound) : (table.release txn page).2.Sound := by
  intro other place
  have before := sound other place
  rw [mem_heldPages_iff] at before
  rw [mode?_release sound, mem_heldPages_iff, LockTable.release]
  split
  · next missing =>
      by_cases here : other = txn ∧ place = page
      · obtain ⟨rfl, rfl⟩ := here
        rw [missing]
        simp [SortedMap.contains]
      · simp [here, before]
  · next pages found =>
      have pagesAfter : ((if (pages.erase page).isEmpty = true then table.held.erase txn
          else table.held.insert txn (pages.erase page)).get? other).getD ∅ =
          if other = txn then pages.erase page else (table.held.get? other).getD ∅ := by
        split
        · next nobody =>
            rw [SortedMap.isEmpty, List.isEmpty_iff] at nobody
            have empty : pages.erase page = ∅ := by
              apply SortedMap.ext
              intro key
              simp [SortedMap.get?, nobody, SortedMap.find?]
              rfl
            by_cases same : other = txn <;> simp [SortedMap.get?_erase, same, empty]
        · by_cases same : other = txn <;> simp [SortedMap.get?_insert, same]
      have after : (((if (pages.erase page).isEmpty = true then table.held.erase txn
          else table.held.insert txn (pages.erase page)).get? other).getD ∅).contains place =
          if other = txn ∧ place = page then false
          else ((table.held.get? other).getD ∅).contains place := by
        rw [pagesAfter]
        by_cases same : other = txn
        · subst same
          by_cases here : place = page <;>
            simp [found, here, SortedMap.contains_erase]
        · simp [same]
      simp only
      split <;> rw [after] <;> by_cases here : other = txn ∧ place = page <;>
        simp [here, before]

theorem modeIn_unlockEach (pages : List PageId) (locks : SortedMap PageId Lock) :
    modeIn (pages.foldl (fun locks page => unlock locks txn page) locks) other place =
      if other = txn ∧ place ∈ pages then none else modeIn locks other place := by
  induction pages generalizing locks with
  | nil => simp
  | cons page pages ih =>
      rw [List.foldl_cons, ih, modeIn_unlock]
      by_cases same : other = txn <;> by_cases here : place = page <;>
        by_cases later : place ∈ pages <;> simp [same, here, later]

theorem mode?_releaseAll (sound : table.Sound) :
    (table.releaseAll txn).2.mode? other place =
      if other = txn then none else table.mode? other place := by
  have held := sound txn place
  rw [releaseAll]
  split
  · next missing =>
      by_cases same : other = txn
      · subst same
        simpa [heldPages, missing, mode?_eq] using held
      · simp [same, mode?_eq]
  · next pages found =>
      have locked : place ∈ pages.keys ↔ (table.mode? txn place).isSome = true := by
        rw [← held, heldPages, found]
      rw [mode?_eq, modeIn_unlockEach]
      by_cases same : other = txn
      · subst same
        by_cases member : place ∈ pages.keys
        · simp [member]
        · simpa [member, mode?_eq] using locked
      · simp [same, mode?_eq]

theorem Sound.releaseAll (sound : table.Sound) : (table.releaseAll txn).2.Sound := by
  intro other place
  have before := sound other place
  rw [mode?_releaseAll sound]
  rw [mem_heldPages_iff] at before ⊢
  rw [LockTable.releaseAll]
  split
  · next missing =>
      by_cases same : other = txn
      · subst same
        simp [missing, SortedMap.contains]
      · simp [same, before]
  · by_cases same : other = txn
    · subst same
      simp [SortedMap.get?_erase, SortedMap.contains]
    · simp [SortedMap.get?_erase, same, before]

/-! ## Recorded requests -/

theorem waiting_of_granted (granted : (table.acquire txn page mode).1 = true) :
    (table.acquire txn page mode).2.waiting = table.waiting.erase txn := by
  unfold acquire at granted ⊢
  split
  · rfl
  · next blocked =>
      rw [if_neg blocked] at granted
      cases granted

theorem waiting_of_refused (refused : (table.acquire txn page mode).1 = false) :
    (table.acquire txn page mode).2.waiting = table.waiting.insert txn ⟨page, mode⟩ := by
  unfold acquire at refused ⊢
  split
  · next free =>
      rw [if_pos free] at refused
      cases refused
  · rfl

theorem waiting_release (table : LockTable) (txn : TxnId) (page : PageId) :
    (table.release txn page).2.waiting = table.waiting := by
  unfold release
  split
  · rfl
  · dsimp only
    split <;> rfl

theorem waiting_releaseAll (table : LockTable) (txn : TxnId) :
    (table.releaseAll txn).2.waiting = table.waiting.erase txn := by
  unfold releaseAll
  dsimp only
  split <;> rfl

end LockTable

end TableStore
