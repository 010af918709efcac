import TableStore.Proofs.TwoPhase

/-!
# Fetches that fail

A fetch takes a lock, then a pin, and may have to load a page and to make room for it;
each of these may fail.  A fetch that fails changes no file and nothing in the cache but
the order of use, and its transaction waits for nothing afterwards.  The lock is given
back if the transaction had none on the page.  If it had a shared one which this fetch
has made exclusive, it stays exclusive; in every other case all locks are as they were.
-/

set_option autoImplicit false

namespace TableStore

namespace Store

variable {store after : Store} {id : PageId} {error : StoreError} {request : PageRequest}

/-- The request makes a shared lock exclusive: nobody else has the page. -/
def Upgrades (store : Store) (request : PageRequest) : Prop :=
  request.mode = .exclusive ∧
    store.locks.mode? request.txn request.page = some .shared ∧
    ∀ other, other ≠ request.txn → store.locks.mode? other request.page = none

/-- What a failed fetch leaves behind: the files and the cache as they were, except for
the order of use, nobody new who waits, and the locks of all others. -/
structure Left (request : PageRequest) (store after : Store) : Prop where
  rest : after = { store with locks := after.locks, policy := after.policy }
  waiting : after.locks.waiting = store.locks.waiting.erase request.txn
  others : ∀ txn id, ¬ (txn = request.txn ∧ id = request.page) →
    after.locks.mode? txn id = store.locks.mode? txn id
  own : after.locks.mode? request.txn request.page =
      store.locks.mode? request.txn request.page ↔ ¬ store.Upgrades request

/-! ## Pages -/

/-- A page that cannot be pinned changes at most the order of use. -/
theorem pin_error (run : store.pin id = (.error error, after)) :
    after = { store with policy := after.policy } := by
  cases pin_cases run with
  | unreadable => rfl
  | blocked _ _ _ evicted =>
      cases makes_room evicted with
      | nobody => rfl
      | spares => rfl

/-! ## Locks -/

/-- A request that is granted to a holder of a shared lock makes it exclusive only if
nobody else has the page. -/
theorem upgrades_iff
    (granted : (store.locks.acquire request.txn request.page request.mode).1 = true) :
    store.Upgrades request ↔ request.mode = .exclusive ∧
      store.locks.mode? request.txn request.page = some .shared := by
  refine ⟨fun upgrades => ⟨upgrades.1, upgrades.2.1⟩, ?_⟩
  rintro ⟨exclusive, held⟩
  refine ⟨exclusive, held, ?_⟩
  intro other different
  have modes (txn : TxnId) : (store.locks.acquire request.txn request.page request.mode).2.mode? txn
      request.page = _ := LockTable.mode?_of_granted granted
  have now := modes request.txn
  rw [if_pos ⟨rfl, rfl⟩, held, exclusive] at now
  have theirs := modes other
  rw [if_neg fun both => different both.1] at theirs
  rw [← theirs, exclusive]
  cases kept : (store.locks.acquire request.txn request.page .exclusive).2.mode? other
      request.page with
  | none => rfl
  | some mode =>
      exact absurd (LockTable.alone_of_exclusive now (by rw [kept]; rfl)) different

theorem Left.of_deadlock (store : Store)
    (refused : (store.locks.acquire request.txn request.page request.mode).1 = false) :
    Left request store { store with locks :=
      (store.locks.acquire request.txn request.page request.mode).2.cancelWait request.txn } := by
  have modes (txn : TxnId) (id : PageId) :
      ((store.locks.acquire request.txn request.page request.mode).2.cancelWait
        request.txn).mode? txn id = store.locks.mode? txn id :=
    LockTable.mode?_of_refused refused
  refine ⟨rfl, ?_, fun txn id _ => modes txn id, iff_of_true (modes _ _) ?_⟩
  · change (store.locks.acquire request.txn request.page request.mode).2.waiting.erase
      request.txn = _
    rw [LockTable.waiting_of_refused refused, SortedMap.erase_insert_self]
  · rintro ⟨-, -, alone⟩
    rw [LockTable.granted_of_alone alone] at refused
    cases refused

theorem Left.of_unpinned (sound : store.locks.Sound)
    (held : request.heldBefore = store.locks.holds request.txn request.page)
    (granted : (store.locks.acquire request.txn request.page request.mode).1 = true)
    (returned : error.isFatal = false) (policy : EvictionPolicy) :
    Left request store (({ store.locked request with policy } : Store).giveBack request error) := by
  have modes (txn : TxnId) (id : PageId) :
      (store.locked request).locks.mode? txn id = _ := LockTable.mode?_of_granted granted
  have waiting : (store.locked request).locks.waiting = _ := LockTable.waiting_of_granted granted
  have upgrades := upgrades_iff granted
  cases before : store.locks.mode? request.txn request.page with
  | some mode =>
      -- The lock is kept, and is stronger than it was if the request upgrades it.
      have keeps : (request.heldBefore || error.isFatal) = true := by
        rw [held, LockTable.holds, before]
        rfl
      rw [giveBack, if_pos keeps]
      refine ⟨rfl, waiting, ?_, ?_⟩
      · intro txn id other
        exact (modes txn id).trans (if_neg other)
      · have now := (modes request.txn request.page).trans (if_pos ⟨rfl, rfl⟩)
        rw [before] at now upgrades ⊢
        change (store.locked request).locks.mode? request.txn request.page = some mode ↔ _
        rw [now, upgrades]
        cases mode <;> cases request.mode <;> decide
  | none =>
      have returns : ¬ (request.heldBefore || error.isFatal) = true := by
        rw [held, LockTable.holds, before, returned]
        decide
      have locks : (store.locked request).locks.Sound := sound.acquire
      have released (txn : TxnId) (id : PageId) :
          ((store.locked request).locks.release request.txn request.page).2.mode? txn id = _ :=
        LockTable.mode?_release locks
      rw [giveBack, if_neg returns]
      refine ⟨rfl, ?_, ?_, ?_⟩
      · exact (LockTable.waiting_release _ _ _).trans waiting
      · intro txn id other
        exact (released txn id).trans ((if_neg other).trans ((modes txn id).trans (if_neg other)))
      · rw [upgrades, before]
        apply iff_of_true
        · exact (released _ _).trans (if_pos ⟨rfl, rfl⟩)
        · rintro ⟨-, shared⟩
          cases shared

/-- What a fetch leaves behind that fails, at once or after it has waited. -/
theorem left_of_attempt (sound : store.locks.Sound)
    (held : request.heldBefore = store.locks.holds request.txn request.page)
    (run : store.attempt request = (.finished (.error error), after))
    (returned : error.isFatal = false) : Left request store after := by
  cases attempt_cases run with
  | @fails _ middle granted unpinned =>
      rw [pin_error unpinned]
      exact .of_unpinned sound held granted returned middle.policy
  | deadlock refused circle => exact .of_deadlock store refused

end Store

namespace System

variable {system : System} {txn : TxnId}

/-! ## Requests that wait -/

/-- A transaction that ends or gives a lock back is not in an operation. -/
def Between (system : System) : Use → Prop
  | .commit txn | .abort txn | .release txn _ => system.pending.get? txn = none
  | _ => True

def AllBetween : System → List Use → Prop
  | _, [] => True
  | system, use :: uses => system.Between use ∧ AllBetween (system.use use) uses

/-- The locks of others do not matter to an operation. -/
theorem Asking.others (asking : system.Asking) {after : Store}
    (idle : system.pending.get? txn = none) (sound : after.locks.Sound)
    (modes : ∀ other page, other ≠ txn →
      after.locks.mode? other page = system.store.locks.mode? other page) :
    Asking { system with store := after } where
  locks := sound
  asks other operation found := by
    apply (asking.asks other operation found).of_modes
    intro page
    exact modes other page (ne_of_pending idle found)

theorem Asking.between (asking : system.Asking) {use : Use} (between : system.Between use) :
    (system.use use).Asking := by
  have sound := asking.locks
  have ends {after : Store} {txn : TxnId} (idle : system.pending.get? txn = none)
      (released : after.locks = (system.store.locks.releaseAll txn).2) :
      Asking { system with store := after } := by
    apply asking.others idle
    · exact released ▸ sound.releaseAll
    · intro other page different
      rw [released, LockTable.mode?_releaseAll sound, if_neg different]
  cases lasting : use.lasting with
  | true => exact (asking.use (TwoPhase.nil _) lasting).1
  | false =>
      cases use with
      | commit txn => exact ends between (Store.locks_commit _ txn)
      | abort txn => exact ends between (Store.locks_abort _ txn)
      | release txn page =>
          rw [System.use, Store.releasePage_eq]
          apply asking.others between sound.release
          intro other place different
          exact (LockTable.mode?_release sound).trans (if_neg fun same => different same.1)
      | _ => cases lasting

/-- The request that an operation in progress makes next remembers whether its transaction
has a lock on the page, however long it has waited. -/
theorem heldBefore_of_pending (disk : Disk) (capacity : Nat) (policy : EvictionPolicy)
    {uses : List Use} (between : AllBetween { store := { disk, capacity, policy } } uses) :
    let system := ({ store := { disk, capacity, policy } } : System).useAll uses
    ∀ txn operation request, system.pending.get? txn = some operation →
      operation.request? = some request → request.txn = txn ∧
        request.heldBefore = system.store.locks.holds request.txn request.page := by
  have kept {system : System} (asking : system.Asking) {uses : List Use}
      (between : AllBetween system uses) : (system.useAll uses).Asking := by
    induction uses generalizing system with
    | nil => exact asking
    | cons use uses ih => exact ih (asking.between between.1) between.2
  intro system txn operation request busy makes
  have asking : system.Asking := kept (asking_start rfl rfl) between
  obtain ⟨rfl, held⟩ := (asking.asks txn operation busy).request makes
  exact ⟨rfl, held⟩

/-! ## Fetches -/

/-- Whatever was done to a store before, a fetch that fails leaves no trace but one.  This
holds of its first try and of each one that it makes after it has waited: the request
remembers in any case whether its transaction has a lock on the page.  The files and the
cache are as they were, the transaction waits for nothing, and no lock has changed unless
the fetch has made a shared lock of its transaction exclusive. -/
theorem failed_fetches_spare_all_but_upgrades (disk : Disk) (capacity : Nat)
    (policy : EvictionPolicy) (uses : List Use) :
    let store := (({ store := { disk, capacity, policy } } : System).useAll uses).store
    ∀ request error after, request.heldBefore = store.locks.holds request.txn request.page →
      store.attempt request = (.finished (.error error), after) → error.isFatal = false →
        Store.Left request store after := by
  intro store request error after held run returned
  have ordered := (ordered_start disk capacity policy).useAll uses
  exact Store.left_of_attempt ordered.locks held run returned

/-- A transaction has a shared lock on a page that has left the cache, and whose table is
no longer registered. -/
def sharedAndGone : List Use :=
  [.register .numbers "numbers", .files ((∅ : Disk).insert "numbers" ⟨[], 8⟩),
    .act (.call ⟨1⟩ (.fetch (Table.numbers.page 0) .shared)), .act (.advance ⟨1⟩),
    .discard (Table.numbers.page 0), .unregister ⟨1⟩]

theorem other_fetch_of_gone_page_leaves_no_trace :
    let store := (({ store := { capacity := 1 } } : System).useAll sharedAndGone).store
    ∃ after, store.fetch ⟨2⟩ (Table.numbers.page 0) .shared =
        (.finished (.error (.noSuchTable ⟨1⟩)), after) ∧
      Store.Left (store.request ⟨2⟩ (Table.numbers.page 0) .shared) store after := by
  intro store
  refine ⟨_, rfl, ?_⟩
  exact failed_fetches_spare_all_but_upgrades ∅ 1 (.leastRecent {}) sharedAndGone _ _ _ rfl rfl rfl

/-- The lock of a failed fetch that asked for more than its transaction had is not the one
that the transaction had before. -/
theorem upgrade_outlives_failed_fetch :
    let store := (({ store := { capacity := 1 } } : System).useAll sharedAndGone).store
    ∃ after, store.fetch ⟨1⟩ (Table.numbers.page 0) .exclusive =
        (.finished (.error (.noSuchTable ⟨1⟩)), after) ∧
      store.locks.mode? ⟨1⟩ (Table.numbers.page 0) = some .shared ∧
      after.locks.mode? ⟨1⟩ (Table.numbers.page 0) = some .exclusive := by
  intro store
  exact ⟨_, rfl, by decide +kernel, by decide +kernel⟩

end System

end TableStore
