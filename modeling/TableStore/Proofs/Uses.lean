import TableStore.Database
import TableStore.Proofs.CacheRuns
import TableStore.Proofs.CatalogNames
import TableStore.Proofs.LockSteps
import TableStore.Proofs.PageRoundTrips

/-!
# Everything that can be done to a store

Beside what transactions do, tables are registered and taken off the catalog while
pages of them are cached, locks are given back early, the files become others, and
whoever has an exclusive handle changes the page to which it leads.  Through all of this
every cached page stays in the form in which it was read, every table is found under its
own identity, and the lock table knows who holds what.
-/

set_option autoImplicit false

namespace TableStore

inductive Touch where
  | rows (change : Page.Call)
  | mark (dirty : Bool) (txn : TxnId)
  | capture

/-- The page after it was touched.  What is refused leaves it as it is. -/
def Touch.on (page : Page) : Touch → Page
  | .rows change => change.on page
  | .mark dirty txn => page.mark dirty txn
  | .capture =>
      match page.capture with
      | .ok captured => captured
      | .error _ => page

inductive Use where
  | act (action : Action)
  | commit (txn : TxnId)
  | abort (txn : TxnId)
  | flushTransaction (txn : TxnId)
  | discard (page : PageId)
  | evictTable (table : TableId)
  | release (txn : TxnId) (page : PageId)
  | register (table : Table) (name : String)
  | unregister (table : TableId)
  /-- The files become others. -/
  | files (disk : Disk)
  | touch (handle : Handle) (touch : Touch)

namespace System

variable (system : System)

def use : Use → System
  | .act action => system.perform action
  | .commit txn => { system with store := (system.store.commit txn).2 }
  | .abort txn => { system with store := (system.store.abort txn).2 }
  | .flushTransaction txn => { system with store := (system.store.flushTransaction txn).2 }
  | .discard page => { system with store := system.store.discard page }
  | .evictTable table => { system with store := (system.store.evictTable table).2 }
  | .release txn page => { system with store := (system.store.releasePage txn page).2 }
  | .register table name => { system with store := system.store.register table name }
  | .unregister table => { system with store := (system.store.unregister table).2 }
  | .files disk => { system with store := { system.store with disk } }
  | .touch handle touch =>
      if handle ∈ system.handles ∧ handle.mode = .exclusive then
        match system.store.pageOf? handle with
        | some page => { system with store := system.store.setPageOf handle (touch.on page) }
        | none => system
      else system

def useAll (uses : List Use) : System := uses.foldl use system

structure Ordered : Prop where
  fitting : system.store.Fitting
  tables : ∀ id table, system.store.catalog.tables.get? id = some table → table.id = id
  locks : system.store.locks.Sound

end System

/-! ## Locks -/

namespace Store

variable {store : Store} {request : PageRequest}

theorem locks_giveBack (sound : store.locks.Sound) (error : StoreError) :
    (store.giveBack request error).locks.Sound := by
  unfold giveBack
  split
  · exact sound
  · exact sound.release

/-- A request keeps the lock table sound, also one that was made long ago. -/
theorem locks_attempt (sound : store.locks.Sound) (request : PageRequest) :
    (store.attempt request).2.locks.Sound := by
  have locked : ((store.locked request).pin request.page).2.locks.Sound := by
    rw [locks_pin]
    exact sound.acquire
  rcases run : store.attempt request with ⟨answer, after⟩
  cases attempt_cases run with
  | pins granted pinned =>
      rw [pinned] at locked
      exact locked
  | fails granted unpinned =>
      rw [unpinned] at locked
      exact locks_giveBack locked _
  | waits refused free => exact sound.acquire
  | deadlock refused circle => exact sound.acquire.cancelWait

theorem locks_discardEach (ids : List PageId) (store : Store) :
    (ids.foldl discard store).locks = store.locks := by
  induction ids generalizing store with
  | nil => rfl
  | cons id ids ih => exact (ih _).trans (locks_dropFrame store id)

theorem locks_evictTable (store : Store) (table : TableId) :
    (store.evictTable table).2.locks = store.locks := by
  have flushed := locks_flushEach (store.pagesOfTable table) store
  unfold evictTable
  split
  · next run =>
      rw [run] at flushed
      exact flushed
  · next run =>
      rw [run] at flushed
      exact (locks_discardEach _ _).trans flushed

theorem releasePage_eq (store : Store) (txn : TxnId) (page : PageId) :
    (store.releasePage txn page).2 =
      { store with locks := (store.locks.release txn page).2 } := by
  unfold releasePage
  split <;> next run => rw [run]

theorem catalog_setPageOf (store : Store) (handle : Handle) (page : Page) :
    (store.setPageOf handle page).catalog = store.catalog := by
  unfold setPageOf
  split
  · split
    · rfl
    · rfl
  · rfl

theorem disk_setPageOf (store : Store) (handle : Handle) (page : Page) :
    (store.setPageOf handle page).disk = store.disk := by
  unfold setPageOf
  split
  · split
    · rfl
    · rfl
  · rfl

end Store

namespace System

variable {system : System}

theorem locks_perform (sound : system.store.locks.Sound) (action : Action) :
    (system.perform action).store.locks.Sound := by
  have effect := system.effect_perform action
  generalize (system.perform action).store = after at effect ⊢
  cases effect with
  | idles => exact sound
  | begins run => exact (Operation.start_asks run).1 ▸ sound
  | @advances _ operation _ _ busy run =>
      have locks := Operation.locks_step system.store operation
      rw [run] at locks
      rw [locks]
      split
      · exact Store.locks_attempt sound _
      · exact sound
  | drops live =>
      rw [Store.locks_unpin]
      exact sound
  | commits =>
      rw [Store.locks_commit]
      exact sound.releaseAll
  | aborts =>
      rw [Store.locks_abort]
      exact sound.releaseAll
  | flushes =>
      rw [Store.locks_flushPage]
      exact sound
  | flushesAll =>
      rw [Store.flushAll, Store.locks_flushEach]
      exact sound
  | faults => exact sound

theorem locks_use (sound : system.store.locks.Sound) (use : Use) :
    (system.use use).store.locks.Sound := by
  cases use with
  | act action => exact locks_perform sound action
  | commit txn =>
      rw [System.use, Store.locks_commit]
      exact sound.releaseAll
  | abort txn =>
      rw [System.use, Store.locks_abort]
      exact sound.releaseAll
  | flushTransaction txn =>
      rw [System.use, Store.flushTransaction, Store.locks_flushCommittedEach]
      exact sound
  | discard page =>
      rw [System.use]
      exact (Store.locks_dropFrame system.store page).symm ▸ sound
  | evictTable table =>
      rw [System.use, Store.locks_evictTable]
      exact sound
  | release txn page =>
      rw [System.use, Store.releasePage_eq]
      exact sound.release
  | register table name => exact sound
  | unregister table => exact sound
  | files disk => exact sound
  | touch handle touch =>
      rw [System.use]
      split
      · split
        · rw [Store.locks_setPageOf]
          exact sound
        · exact sound
      · exact sound

end System

/-! ## Pages -/

namespace Page

variable {page : Page} {table : Table} {id : PageId}

theorem Fits.changed {after : Page} (fits : page.Fits table id) (sound : after.Sound)
    (same : after = { page with header := after.header, slots := after.slots }) :
    after.Fits table id := by
  have image : after.imageContents = page.imageContents := by
    rw [same]
    rfl
  rw [same] at sound image ⊢
  exact ⟨fits.id, fits.schema, fits.size, sound, fits.length, image ▸ fits.image⟩

theorem Fits.call (fits : page.Fits table id) (call : Call) : (call.on page).Fits table id := by
  cases call with
  | insert row =>
      simp only [Call.on]
      split
      · next run =>
          obtain ⟨-, -, -, -, later, -, same⟩ := fits.sound.insert_ok run
          exact fits.changed later same
      · exact fits
  | delete row =>
      simp only [Call.on]
      split
      · next run =>
          obtain ⟨-, -, -, -, later, -, same⟩ := fits.sound.delete_ok run
          exact fits.changed later same
      · exact fits

theorem Fits.touch (fits : page.Fits table id) (touch : Touch) :
    (touch.on page).Fits table id := by
  cases touch with
  | rows change => exact fits.call change
  | mark dirty txn => exact fits.mark dirty txn
  | capture => exact fits.captured.1

end Page

namespace Store

variable {store : Store} {handle : Handle} {page : Page}

/-- A handle to a cached page changes this page, and one to a page that left the cache
changes no cached one. -/
theorem before_of_touch (known : store.pageOf? handle = some page) (touch : Touch) {id : PageId}
    {other : Page} (cached : (store.setPageOf handle (touch.on page)).cached? id = some other) :
    ∃ before, store.cached? id = some before ∧
      ∀ table, before.Fits table id → other.Fits table id := by
  have kept (same : store.cached? id = some other) : ∃ before, store.cached? id = some before ∧
      ∀ table, before.Fits table id → other.Fits table id :=
    ⟨other, same, fun _ fits => fits⟩
  cases found : store.frames.get? handle.page with
  | none =>
      simp only [Store.setPageOf, found] at cached
      exact kept cached
  | some frame =>
      simp only [Store.setPageOf, found] at cached
      split at cached
      · next serial =>
          rw [pageOf?_of_frame found serial] at known
          cases known
          rw [cached?, SortedMap.get?_insert] at cached
          split at cached
          · next here =>
              cases cached
              subst here
              exact ⟨frame.page, cached?_of_frame found, fun table fits => fits.touch touch⟩
          · exact kept cached
      · exact kept cached

theorem Fitting.touch (fitting : store.Fitting) (known : store.pageOf? handle = some page)
    (touch : Touch) : (store.setPageOf handle (touch.on page)).Fitting := by
  intro id other cached
  obtain ⟨before, cachedBefore, fits⟩ := before_of_touch known touch cached
  obtain ⟨table, fitted⟩ := fitting id before cachedBefore
  exact ⟨table, fits table fitted⟩

end Store

/-! ## Uses -/

namespace Catalog

variable {catalog : Catalog} {id : TableId} {table : Table}

theorem tables_of_add {added : Table} {name : String}
    (found : (catalog.add added name).tables.get? id = some table) :
    id = added.id ∧ table = added ∨ catalog.tables.get? id = some table := by
  rw [tables_add] at found
  split at found
  · next here =>
      cases found
      exact .inl ⟨here, rfl⟩
  · split at found
    · cases found
    · exact .inr found

theorem tables_of_remove {removed : TableId}
    (found : (catalog.remove removed).2.tables.get? id = some table) :
    catalog.tables.get? id = some table := by
  rw [tables_remove] at found
  split at found
  · cases found
  · exact found

end Catalog

namespace System

variable {system after : System}

theorem Ordered.steps (ordered : system.Ordered)
    (steps : Store.CacheSteps system.cache after.cache) (locks : after.store.locks.Sound) :
    after.Ordered where
  fitting := by
    have path (later : Store × List Handle) (steps : Store.CacheSteps system.cache later) :
        later.1.Fitting := by
      induction steps with
      | refl => exact ordered.fitting
      | tail rest last ih => exact ih.step last
    exact path _ steps
  tables := by
    have same : after.store.catalog = system.store.catalog :=
      (Store.CacheSteps.lasts steps).catalog
    rw [same]
    exact ordered.tables
  locks := locks

theorem Ordered.use (ordered : system.Ordered) (use : Use) : (system.use use).Ordered := by
  have locks := locks_use ordered.locks use
  have fitting := ordered.fitting
  cases use with
  | act action =>
      rcases perform_cases fitting action with steps | ⟨unwritable, same⟩
      · exact ordered.steps steps locks
      · have store := congrArg Prod.fst same
        change (system.perform action).store = _ at store
        refine ⟨?_, ?_, locks⟩
        · rw [System.use, store]
          exact fitting
        · rw [System.use, store]
          exact ordered.tables
  | commit txn => exact ordered.steps ((fitting.commit txn).steps system.handles) locks
  | abort txn => exact ordered.steps ((Store.edits_abort _ txn).steps system.handles) locks
  | flushTransaction txn =>
      exact ordered.steps ((fitting.flushCommittedEach _).steps system.handles) locks
  | discard page => exact ordered.steps (.single (.discard page)) locks
  | evictTable table => exact ordered.steps (fitting.evictTable table system.handles) locks
  | release txn page =>
      refine ⟨?_, ?_, locks⟩
      · rw [System.use, Store.releasePage_eq]
        exact fitting
      · rw [System.use, Store.releasePage_eq]
        exact ordered.tables
  | register table name =>
      refine ⟨fitting, ?_, locks⟩
      intro id other found
      rcases Catalog.tables_of_add found with ⟨rfl, rfl⟩ | known
      · rfl
      · exact ordered.tables id other known
  | unregister table =>
      refine ⟨fitting, ?_, locks⟩
      intro id other found
      exact ordered.tables id other (Catalog.tables_of_remove found)
  | files disk => exact ⟨fitting, ordered.tables, locks⟩
  | touch handle touch =>
      rw [System.use] at locks ⊢
      split
      · split
        · next page known =>
            refine ⟨fitting.touch known touch, ?_, ?_⟩
            · change ∀ id table, (system.store.setPageOf handle (touch.on page)).catalog.tables.get?
                id = some table → table.id = id
              rw [Store.catalog_setPageOf]
              exact ordered.tables
            · change (system.store.setPageOf handle (touch.on page)).locks.Sound
              rw [Store.locks_setPageOf]
              exact ordered.locks
        · exact ordered
      · exact ordered

theorem Ordered.useAll (ordered : system.Ordered) (uses : List Use) :
    (system.useAll uses).Ordered := by
  induction uses generalizing system with
  | nil => exact ordered
  | cons use uses ih => exact ih (ordered.use use)

theorem ordered_start (disk : Disk) (capacity : Nat) (policy : EvictionPolicy) :
    ({ store := { disk, capacity, policy } } : System).Ordered where
  fitting := Store.fitting_of_empty rfl
  tables := by
    intro id table found
    cases found
  locks := LockTable.sound_empty

end System

end TableStore
