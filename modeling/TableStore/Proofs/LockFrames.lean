import TableStore.Proofs.Operations

/-!
# Work that leaves the locks alone

Pages are written, loaded, evicted and changed without a look at the lock table,
whatever state the store is in.  Only three things touch it: a request for a page,
which may give a lock back that it took itself; the end of a transaction; and a
lock given back early.
-/

set_option autoImplicit false

namespace TableStore

namespace Store

variable {store after : Store} {txn : TxnId} {id : PageId} {page written : Page}

/-! ## Pages -/

@[simp] theorem locks_dropFrame (store : Store) (id : PageId) :
    (store.dropFrame id).locks = store.locks := by
  unfold dropFrame
  split <;> rfl

@[simp] theorem locks_setPageOf (store : Store) (handle : Handle) (page : Page) :
    (store.setPageOf handle page).locks = store.locks := by
  unfold setPageOf
  split
  · split <;> rfl
  · rfl

@[simp] theorem locks_unpin (store : Store) (handle : Handle) :
    (store.unpin handle).locks = store.locks := by
  simp only [unpin]
  split
  · split <;> rfl
  · rfl

theorem locks_of_writeBack (run : store.writeBack page = .ok (written, after)) :
    after.locks = store.locks := by
  unfold writeBack at run
  split at run
  · cases run
    rfl
  · cases found : store.catalog.table page.id.table with
    | error error =>
        rw [found] at run
        cases run
    | ok table =>
        cases write : table.writePage store.disk page with
        | error error =>
            simp only [found, write, bind, Except.bind] at run
            cases run
        | ok disk =>
            simp only [found, write, bind, Except.bind] at run
            split at run
            · cases run
            · cases run
              rfl

@[simp] theorem locks_flushPage (store : Store) (id : PageId) :
    (store.flushPage id).2.locks = store.locks := by
  unfold flushPage
  split
  · rfl
  · split
    · next run =>
        have kept := locks_of_writeBack run
        exact kept
    · rfl

theorem locks_flushEach (ids : List PageId) (store : Store) :
    (flushEach ids store).2.locks = store.locks := by
  induction ids generalizing store with
  | nil => rfl
  | cons id ids ih =>
      have first := locks_flushPage store id
      unfold flushEach
      split
      · next flushed run =>
          rw [run] at first
          exact (ih flushed).trans first
      · next run =>
          rw [run] at first
          exact first

@[simp] theorem locks_flushCommitted (store : Store) (id : PageId) :
    (store.flushCommitted id).2.locks = store.locks := by
  unfold flushCommitted
  split
  · rfl
  · split
    · rfl
    · next run =>
        have kept := locks_of_writeBack run
        split
        · exact kept
        · exact kept

theorem locks_flushCommittedEach (ids : List PageId) (store : Store) :
    (flushCommittedEach ids store).2.locks = store.locks := by
  induction ids generalizing store with
  | nil => rfl
  | cons id ids ih => exact (ih _).trans (locks_flushCommitted store id)

@[simp] theorem locks_capturePage (store : Store) (id : PageId) :
    (store.capturePage id).locks = store.locks := by
  unfold capturePage
  split
  · rfl
  · split <;> rfl

theorem locks_captureEach (ids : List PageId) (store : Store) :
    (ids.foldl capturePage store).locks = store.locks := by
  induction ids generalizing store with
  | nil => rfl
  | cons id ids ih => exact (ih _).trans (locks_capturePage store id)

@[simp] theorem locks_restorePage (store : Store) (txn : TxnId) (id : PageId) :
    (store.restorePage txn id).2.locks = store.locks := by
  unfold restorePage
  split
  · rfl
  · split
    · rfl
    · split <;> rfl

theorem locks_restoreEach (txn : TxnId) (ids : List PageId) (store : Store) :
    (restoreEach txn ids store).2.locks = store.locks := by
  induction ids generalizing store with
  | nil => rfl
  | cons id ids ih => exact (ih _).trans (locks_restorePage store txn id)

theorem locks_commit (store : Store) (txn : TxnId) :
    (store.commit txn).2.locks = (store.locks.releaseAll txn).2 := by
  have flushed : (store.flushTransaction txn).2.locks = store.locks :=
    locks_flushCommittedEach _ store
  simp only [commit, releaseAll, locks_captureEach, flushed]

theorem locks_abort (store : Store) (txn : TxnId) :
    (store.abort txn).2.locks = (store.locks.releaseAll txn).2 := by
  simp only [abort, releaseAll, locks_restoreEach]

@[simp] theorem locks_evict (store : Store) : store.evict.2.locks = store.locks := by
  unfold evict
  split
  · rfl
  · dsimp only
    split
    · rfl
    · split
      · next run =>
          have kept := locks_of_writeBack run
          exact (locks_dropFrame _ _).trans kept
      · rfl

@[simp] theorem locks_pin (store : Store) (id : PageId) :
    (store.pin id).2.locks = store.locks := by
  have evicted := locks_evict store
  rcases run : store.pin id with ⟨result, after⟩
  cases pin_cases run with
  | hits => rfl
  | unreadable => rfl
  | loads _ _ made =>
      rcases made with ⟨-, rfl⟩ | ⟨-, left⟩
      · rfl
      · rw [left] at evicted
        exact evicted
  | blocked _ _ _ none =>
      rw [none] at evicted
      exact evicted

end Store

/-! ## Rows -/

variable {store after : Store} {txn : TxnId}

theorem Insertion.locks_of_place {row : Row} {handle : Handle}
    {result : Option (Except StoreError Inserted)}
    (run : place row handle store = (result, after)) : after.locks = store.locks := by
  unfold place at run
  split at run
  · cases run
    rfl
  · split at run
    · cases run
      rfl
    · split at run
      · cases run
        rfl
      · cases run
        exact Store.locks_setPageOf _ _ _

theorem Deletion.locks_of_remove {row : Row} {handle : Handle} {result : Except StoreError PageId}
    (run : remove row handle store = (result, after)) : after.locks = store.locks := by
  unfold remove at run
  split at run
  · cases run
    rfl
  · split at run
    · cases run
      rfl
    · cases run
      exact Store.locks_setPageOf _ _ _

/-- A page is appended without a lock, and then asked for. -/
theorem Insertion.append_asks {table : Table} {row : Row} {result : Except StoreError Insertion}
    (run : append table txn row store = (result, after)) :
    after.locks = store.locks ∧ ∀ next, result = .ok next → next.request.Timely after txn := by
  unfold append at run
  split at run
  · cases run
    exact ⟨rfl, nofun⟩
  · cases run
    refine ⟨rfl, ?_⟩
    intro next known
    cases known
    exact ⟨rfl, rfl⟩

theorem Insertion.goOn_asks {task : Insertion} {result : Except StoreError Insertion}
    (run : task.goOn store = (result, after)) :
    after.locks = store.locks ∧
      ∀ next, result = .ok next → next.request.Timely after task.request.txn := by
  unfold goOn at run
  dsimp only at run
  split at run
  · cases run
    refine ⟨rfl, ?_⟩
    intro next known
    cases known
    exact ⟨rfl, rfl⟩
  · exact append_asks run

theorem Insertion.start_asks {table : Table} {row : Row} {result : Except StoreError Insertion}
    (run : start table txn row store = (result, after)) :
    after.locks = store.locks ∧ ∀ next, result = .ok next → next.request.Timely after txn := by
  unfold start at run
  split at run
  · split at run
    · cases run
      exact ⟨rfl, nofun⟩
    · split at run
      · cases run
        refine ⟨rfl, ?_⟩
        intro next known
        cases known
        exact ⟨rfl, rfl⟩
      · exact append_asks run
  · cases run
    exact ⟨rfl, nofun⟩

end TableStore
