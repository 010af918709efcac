import TableStore.Proofs.CacheSteps
import TableStore.Proofs.Runs

/-!
# Runs that end in no particular order

Transactions, flushes and drops of whole tables come in any order: a transaction may
be committed while one of its operations waits, a page may be discarded while handles lead
to it, and between any two deeds the files, the catalog and the pages that can be
written may become others.  Every deed is a path of steps of the cache, or such a
change around it.
-/

set_option autoImplicit false

namespace TableStore

/-- What can be done to a store in use, beside the actions of its transactions. -/
inductive Deed where
  | act (action : Action)
  | commit (txn : TxnId)
  | abort (txn : TxnId)
  | flushTransaction (txn : TxnId)
  | discard (page : PageId)
  | evictTable (table : TableId)
  /-- The files, the catalog and the pages that cannot be written become others. -/
  | outside (disk : Disk) (catalog : Catalog) (unwritable : SortedMap PageId String)

namespace System

variable (system : System)

def carry : Deed → System
  | .act action => system.perform action
  | .commit txn => { system with store := (system.store.commit txn).2 }
  | .abort txn => { system with store := (system.store.abort txn).2 }
  | .flushTransaction txn => { system with store := (system.store.flushTransaction txn).2 }
  | .discard page => { system with store := system.store.discard page }
  | .evictTable table => { system with store := (system.store.evictTable table).2 }
  | .outside disk catalog unwritable =>
      { system with store := { system.store with disk, catalog, unwritable } }

def carryAll (deeds : List Deed) : System := deeds.foldl carry system

def cache : Store × List Handle := (system.store, system.handles)

end System

namespace Store

variable {store : Store}

theorem discardEach_steps (ids : List PageId) (store : Store) (handles : List Handle) :
    CacheSteps (store, handles) (ids.foldl discard store, handles) := by
  induction ids generalizing store with
  | nil => exact .refl
  | cons id ids ih => exact .head (.discard id) (ih (store.discard id))

theorem frames_discardEach (ids : List PageId) (store : Store) (id : PageId) :
    (ids.foldl discard store).frames.get? id =
      if id ∈ ids then none else store.frames.get? id := by
  induction ids generalizing store with
  | nil => rfl
  | cons first ids ih =>
      have dropped : (store.discard first).frames.get? id =
          if id = first then none else store.frames.get? id := frames_dropFrame id
      rw [List.foldl_cons, ih, dropped]
      by_cases here : id = first
      · simp [here]
      · simp [here]

/-- A page that is cached after the pages of a table left was cached before, and is no
page of the table if all of them could be written. -/
theorem Fitting.evictTable_frame (fitting : store.Fitting) {table : TableId} {id : PageId}
    {frame : Frame} (found : (store.evictTable table).2.frames.get? id = some frame) :
    store.Had id frame ∧ ((store.evictTable table).1 = .ok () → id.table ≠ table) := by
  have edits := fitting.flushEach (store.pagesOfTable table)
  unfold Store.evictTable at found ⊢
  rcases run : Store.flushEach (store.pagesOfTable table) store with ⟨error | ⟨⟩, flushed⟩
  · rw [run] at found edits
    exact ⟨edits.frame fitting found, nofun⟩
  · rw [run] at found edits
    have left : (if id ∈ flushed.pagesOfTable table then none else flushed.frames.get? id) =
        some frame := (frames_discardEach _ flushed id).symm.trans found
    split at left
    · cases left
    · next unlisted =>
        refine ⟨edits.frame fitting left, ?_⟩
        intro _ own
        have cached : id ∈ flushed.frames.keys := SortedMap.mem_keys_iff.mpr ⟨frame, left⟩
        exact unlisted (List.mem_filter.mpr ⟨cached, decide_eq_true own⟩)

theorem Fitting.evictTable (fitting : store.Fitting) (table : TableId) (handles : List Handle) :
    CacheSteps (store, handles) ((store.evictTable table).2, handles) := by
  have flushed := fitting.flushEach (store.pagesOfTable table)
  unfold Store.evictTable
  split
  · next run =>
      rw [run] at flushed
      exact flushed.steps handles
  · next run =>
      rw [run] at flushed
      exact (flushed.steps handles).trans (discardEach_steps _ _ handles)

end Store

namespace System

variable {system : System}

theorem begin_steps (txn : TxnId) (call : Call) :
    Store.CacheSteps system.cache (system.begin txn call).cache := by
  cases busy : system.pending.get? txn with
  | some operation => rw [begin_of_busy busy]
  | none =>
      rcases run : call.start txn system.store with ⟨begun, after⟩
      rw [begin_of_idle busy run]
      exact (Call.start_edits run).steps system.handles

theorem advance_steps (fitting : system.store.Fitting) (txn : TxnId) :
    Store.CacheSteps system.cache (system.advance txn).cache := by
  cases busy : system.pending.get? txn with
  | none => rw [advance_of_idle busy]
  | some operation =>
      rcases run : operation.step system.store with ⟨turn, after⟩
      rw [advance_eq busy run]
      exact (operation.course fitting run).steps fitting system.handles

theorem finish_steps {txn : TxnId} {after : Store} (edits : Store.Edits system.store after)
    (event : Event) : Store.CacheSteps system.cache (system.finish txn after event).cache := by
  unfold System.finish
  split
  · exact .refl
  · exact edits.steps system.handles

/-- An action of a transaction is a path of steps of the cache, or other pages
can be written after it. -/
theorem perform_cases (fitting : system.store.Fitting) (action : Action) :
    Store.CacheSteps system.cache (system.perform action).cache ∨
    ∃ unwritable, (system.perform action).cache =
      ({ system.store with unwritable }, system.handles) := by
  cases action with
  | call txn call => exact .inl (begin_steps txn call)
  | advance txn => exact .inl (advance_steps fitting txn)
  | drop handle =>
      left
      rw [System.perform]
      split
      · next live => exact .single (.give live)
      · exact .refl
  | commit txn => exact .inl (finish_steps (fitting.commit txn) _)
  | abort txn => exact .inl (finish_steps (Store.edits_abort _ txn) _)
  | flush page => exact .inl ((fitting.flushPage page).steps system.handles)
  | flushAll => exact .inl ((fitting.flushEach _).steps system.handles)
  | fault unwritable => exact .inr ⟨unwritable, rfl⟩

theorem perform_lasts (fitting : system.store.Fitting) (action : Action) :
    Store.Lasts system.store (system.perform action).store := by
  rcases perform_cases fitting action with steps | ⟨unwritable, same⟩
  · exact Store.CacheSteps.lasts steps
  · have store := congrArg Prod.fst same
    change (system.perform action).store = _ at store
    rw [store]
    exact ⟨rfl, rfl, Nat.le_refl _, .refl _⟩

/-- A page that is cached after an action was cached before, or was read in between from
the file that its table has. -/
theorem perform_frame (fitting : system.store.Fitting) {action : Action} {id : PageId}
    {frame : Frame} (found : (system.perform action).store.frames.get? id = some frame) :
    system.store.Had id frame ∨
      Store.Took system.store (system.perform action).store id frame := by
  rcases perform_cases fitting action with steps | ⟨unwritable, same⟩
  · exact Store.CacheSteps.frame steps fitting found
  · have store := congrArg Prod.fst same
    change (system.perform action).store = _ at store
    rw [store] at found
    exact .inl (.here found)

/-- A deed is a path of steps of the cache, or a change around it. -/
theorem carry_cases (fitting : system.store.Fitting) (deed : Deed) :
    Store.CacheSteps system.cache (system.carry deed).cache ∨
    ∃ disk catalog unwritable, (system.carry deed).cache =
      ({ system.store with disk, catalog, unwritable }, system.handles) := by
  cases deed with
  | act action =>
      rcases perform_cases fitting action with steps | ⟨unwritable, same⟩
      · exact .inl steps
      · exact .inr ⟨_, _, unwritable, same⟩
  | commit txn => exact .inl ((fitting.commit txn).steps system.handles)
  | abort txn => exact .inl ((Store.edits_abort _ txn).steps system.handles)
  | flushTransaction txn =>
      exact .inl ((fitting.flushCommittedEach _).steps system.handles)
  | discard page => exact .inl (.single (.discard page))
  | evictTable table => exact .inl (fitting.evictTable table system.handles)
  | outside disk catalog unwritable => exact .inr ⟨disk, catalog, unwritable, rfl⟩

theorem carryAll_act (actions : List Action) :
    system.carryAll (actions.map .act) = system.run actions :=
  List.foldl_map

/-- What every step of the cache keeps, and every change around it, is kept by all
deeds, beside the form of the cached pages. -/
theorem carryAll_keeps {keeps : Store × List Handle → Prop}
    (step : ∀ before later, before.1.Fitting → Store.CacheStep before later →
      keeps before → keeps later)
    (around : ∀ store handles disk catalog unwritable, keeps (store, handles) →
      keeps ({ store with disk, catalog, unwritable }, handles))
    (fitting : system.store.Fitting) (kept : keeps system.cache) (deeds : List Deed) :
    (system.carryAll deeds).store.Fitting ∧ keeps (system.carryAll deeds).cache := by
  induction deeds generalizing system with
  | nil => exact ⟨fitting, kept⟩
  | cons deed deeds ih =>
      have path (later : Store × List Handle) (steps : Store.CacheSteps system.cache later) :
          later.1.Fitting ∧ keeps later := by
        induction steps with
        | refl => exact ⟨fitting, kept⟩
        | tail rest last ih => exact ⟨ih.1.step last, step _ _ ih.1 last ih.2⟩
      rcases carry_cases fitting deed with steps | ⟨disk, catalog, unwritable, same⟩
      · obtain ⟨form, later⟩ := path _ steps
        exact ih form later
      · have form : (system.carry deed).store.Fitting := by
          have store := congrArg Prod.fst same
          rw [show (system.carry deed).store = { system.store with disk, catalog, unwritable }
            from store]
          exact fitting
        exact ih form (same ▸ around _ _ disk catalog unwritable kept)

end System

end TableStore
