import TableStore.Proofs.WriteBacks

/-!
# Pages that leave and enter the cache

The page chosen to leave a full cache is written first, if it was changed; if
that fails it stays.  A page is loaded as its file has it.  On the outline of
the store these are moves of the store itself.
-/

set_option autoImplicit false

namespace TableStore

def Catalog.blank (catalog : Catalog) (id : PageId) : Contents :=
  match catalog.tables.get? id.table with
  | some table =>
      match Page.empty id table.schema table.pageSize with
      | .ok page => page.contents
      | .error _ => []
  | none => []

namespace Store

variable {store middle after : Store} {id victim : PageId} {page : Page} {table : Table}
  {txn : TxnId} {policy : EvictionPolicy}

/-! ## Changes that leave the pages alone -/

/-- The second store differs from the first only in the locks, the pins and the
order of use. -/
structure Rests (store after : Store) : Prop where
  catalog : after.catalog = store.catalog
  disk : after.disk = store.disk
  unflushed : after.unflushed = store.unflushed
  unwritable : after.unwritable = store.unwritable
  capacity : after.capacity = store.capacity
  cached : ∀ id, after.cached? id = store.cached? id
  locks : after.locks.Sound

theorem Rests.continues (rests : Rests store after) : Continues store after :=
  ⟨rests.catalog, rests.unwritable, rests.capacity, fun _ _ _ => by rw [rests.disk]⟩

theorem Rests.stored (rests : Rests store after) (id : PageId) :
    after.stored id = store.stored id :=
  stored_congr (readPage_congr rests.catalog rests.disk)

theorem Rests.states (rests : Rests store after) (id : PageId) :
    after.pageState id = store.pageState id := by
  rw [pageState, pageState, rests.cached, rests.stored, rests.unflushed]

theorem Rests.sound (rests : Rests store after) (sound : store.Sound) : after.Sound where
  catalog := rests.catalog ▸ sound.catalog
  locks := rests.locks
  page id page cached := by
    rw [rests.catalog, rests.stored, rests.continues.lost]
    exact sound.page id page (rests.cached id ▸ cached)

theorem Rests.trans (first : Rests store middle) (second : Rests middle after) :
    Rests store after where
  catalog := second.catalog.trans first.catalog
  disk := second.disk.trans first.disk
  unflushed := second.unflushed.trans first.unflushed
  unwritable := second.unwritable.trans first.unwritable
  capacity := second.capacity.trans first.capacity
  cached id := (second.cached id).trans (first.cached id)
  locks := second.locks

theorem Sound.repolicy (sound : store.Sound) (policy : EvictionPolicy) :
    Rests store { store with policy } :=
  ⟨rfl, rfl, rfl, rfl, rfl, fun _ => rfl, sound.locks⟩

/-! ## Leaving the cache -/

structure Leaves (store after : Store) (victim : PageId) : Prop extends Continues store after where
  sound : after.Sound
  locks : after.locks = store.locks
  nextSerial : after.nextSerial = store.nextSerial
  frames : ∀ id, after.frames.get? id = if id = victim then none else store.frames.get? id
  page : ∀ id, id ≠ victim → after.pageState id = store.pageState id

theorem frames_dropFrame (id : PageId) :
    (store.dropFrame victim).frames.get? id =
      if id = victim then none else store.frames.get? id := by
  rw [dropFrame]
  split
  · next absent => split <;> simp_all
  · exact SortedMap.get?_erase store.frames victim id

theorem Sound.dropFrame (sound : store.Sound) (victim : PageId) :
    Leaves store (store.dropFrame victim) victim ∧
      (store.dropFrame victim).pageState victim =
        { store.pageState victim with cached := none } ∧
      (store.dropFrame victim).policy = store.policy := by
  have cached (id : PageId) : (store.dropFrame victim).cached? id =
      if id = victim then none else store.cached? id := by
    rw [cached?, frames_dropFrame]
    split <;> rfl
  have same : (store.dropFrame victim).catalog = store.catalog ∧
      (store.dropFrame victim).disk = store.disk ∧
      (store.dropFrame victim).unflushed = store.unflushed ∧
      (store.dropFrame victim).unwritable = store.unwritable ∧
      (store.dropFrame victim).capacity = store.capacity ∧
      (store.dropFrame victim).locks = store.locks ∧
      (store.dropFrame victim).nextSerial = store.nextSerial ∧
      (store.dropFrame victim).policy = store.policy := by
    rw [Store.dropFrame]
    split <;> exact ⟨rfl, rfl, rfl, rfl, rfl, rfl, rfl, rfl⟩
  obtain ⟨catalog, disk, unflushed, unwritable, capacity, locks, nextSerial, policy⟩ := same
  have stored (id : PageId) : (store.dropFrame victim).stored id = store.stored id :=
    stored_congr (readPage_congr catalog disk)
  have continues : Continues store (store.dropFrame victim) :=
    ⟨catalog, unwritable, capacity, fun _ _ _ => by rw [disk]⟩
  refine ⟨⟨continues, ⟨catalog ▸ sound.catalog, locks ▸ sound.locks, ?_⟩, locks, nextSerial,
    frames_dropFrame, ?_⟩, ?_, policy⟩
  · intro id page found
    rw [cached] at found
    split at found
    · cases found
    · rw [catalog, stored, continues.lost]
      exact sound.page id page found
  · intro id other
    rw [pageState, pageState, cached, if_neg other, stored, unflushed]
  · rw [pageState, pageState, cached, if_pos rfl, stored, unflushed]
    rfl

theorem Becomes.dropFrame {states : PageId → PageState} (becomes : Becomes store middle states)
    (others : ∀ id, id ≠ victim → states id = store.pageState id)
    (frames : ∀ id, id ≠ victim → middle.frames.get? id = store.frames.get? id) :
    Leaves store (middle.dropFrame victim) victim ∧
      (middle.dropFrame victim).policy = store.policy ∧
      (middle.dropFrame victim).pageState victim = { states victim with cached := none } := by
  obtain ⟨leaves, state, policy⟩ := becomes.sound.dropFrame victim
  refine ⟨⟨becomes.still.toContinues.trans leaves.toContinues, leaves.sound,
    leaves.locks.trans becomes.still.locks, leaves.nextSerial.trans becomes.still.nextSerial,
    fun id => ?_, fun id other => ?_⟩, policy.trans becomes.still.policy, ?_⟩
  · rw [leaves.frames]
    split
    · rfl
    · next other => exact frames id other
  · rw [leaves.page id other, becomes.page, others id other]
  · rw [state, becomes.page]

theorem frames_setPage_other (other : id ≠ page.id) :
    (store.setPage page).frames.get? id = store.frames.get? id := by
  simp only [setPage, SortedMap.get?_modify, if_neg other]

section

variable {frame : Frame}

theorem Sound.evict_clean (sound : store.Sound)
    (chosen : store.policy.evict = (some victim, policy))
    (found : store.frames.get? victim = some frame) (clean : frame.page.dirtiedBy = none) :
    store.evict.1 = .ok () ∧ Leaves store store.evict.2 victim ∧ store.evict.2.policy = policy ∧
      store.evict.2.pageState victim = { store.pageState victim with cached := none } := by
  have rests := sound.repolicy policy
  have cached : ({ store with policy } : Store).cached? victim = some frame.page :=
    cached?_of_frame found
  obtain ⟨⟨table, registered, fits⟩, -⟩ := (rests.sound sound).page _ _ cached
  have written : ({ store with policy } : Store).writeBack frame.page =
      .ok (frame.page, { store with policy }) := by
    rw [Store.writeBack, clean]
  have run : store.evict =
      (.ok (), (({ store with policy } : Store).setPage frame.page).dropFrame victim) := by
    rw [Store.evict, chosen]
    simp only [found, written]
  obtain ⟨leaves, samePolicy, state⟩ :=
    ((rests.sound sound).setPage cached registered fits).dropFrame (fun id other => if_neg other)
      (fun id other => frames_setPage_other (fits.id ▸ other))
  rw [run]
  refine ⟨rfl, ⟨rests.continues.trans leaves.toContinues, leaves.sound, leaves.locks,
    leaves.nextSerial, leaves.frames, fun id other => ?_⟩, samePolicy, ?_⟩
  · rw [leaves.page id other, rests.states]
  · rw [state, if_pos rfl, rests.states]

theorem Sound.evict_dirty (sound : store.Sound)
    (chosen : store.policy.evict = (some victim, policy))
    (found : store.frames.get? victim = some frame) (dirty : frame.page.dirtiedBy = some txn) :
    (∃ fault, store.unwritable.get? victim = some fault ∧ store.evict =
      (.error (.io (.other fault)), { store with policy := policy.unpin victim })) ∨
    store.takes victim = true ∧ store.evict.1 = .ok () ∧ Leaves store store.evict.2 victim ∧
      store.evict.2.policy = policy ∧
      store.evict.2.pageState victim =
        ⟨none, (store.pageState victim).filed frame.page.contents, false⟩ := by
  have rests := sound.repolicy policy
  have cached : ({ store with policy } : Store).cached? victim = some frame.page :=
    cached?_of_frame found
  obtain ⟨⟨table, registered, fits⟩, -⟩ := (rests.sound sound).page _ _ cached
  rcases (rests.sound sound).writeBack cached dirty with
    ⟨fault, refused, failed⟩ | ⟨taken, written, wrote, becomes, frames⟩
  · refine .inl ⟨fault, refused, ?_⟩
    rw [Store.evict, chosen]
    simp only [found, failed]
  · have run : store.evict =
        (.ok (), (written.setPage (frame.page.mark false txn)).dropFrame victim) := by
      rw [Store.evict, chosen]
      simp only [found, wrote]
    have still : written.cached? victim = some frame.page := by
      rw [cached?, frames]
      exact cached
    have replaced := becomes.trans (becomes.sound.setPage still
      (becomes.still.catalog ▸ registered) (fits.mark false txn))
    obtain ⟨leaves, samePolicy, state⟩ := replaced.dropFrame
      (fun id other => by rw [if_neg other, becomes.page, if_neg other])
      (fun id other => by rw [frames_setPage_other (fits.id ▸ other), frames])
    rw [run]
    refine .inr ⟨taken, rfl, ⟨rests.continues.trans leaves.toContinues, leaves.sound, leaves.locks,
      leaves.nextSerial, leaves.frames, fun id other => ?_⟩, samePolicy, ?_⟩
    · rw [leaves.page id other, rests.states]
    · rw [state, if_pos rfl, becomes.page, if_pos rfl, rests.states]

end

inductive Evicts (store : Store) : Except StoreError Unit → Store → Prop
  | nobody (chosen : store.policy.evict.1 = none) :
      Evicts store (.error .poolFull) { store with policy := store.policy.evict.2 }
  | stray {victim : PageId} (chosen : store.policy.evict.1 = some victim)
      (absent : store.frames.get? victim = none) :
      Evicts store (.ok ()) { store with policy := store.policy.evict.2 }
  | stays {victim : PageId} {frame : Frame} {fault : String}
      (chosen : store.policy.evict.1 = some victim) (found : store.frames.get? victim = some frame)
      (dirty : frame.page.dirtiedBy ≠ none)
      (refused : store.unwritable.get? victim = some fault) :
      Evicts store (.error (.io (.other fault)))
        { store with policy := store.policy.evict.2.unpin victim }
  | leaves {victim : PageId} {frame : Frame} {after : Store}
      (chosen : store.policy.evict.1 = some victim) (found : store.frames.get? victim = some frame)
      (free : frame.page.dirtiedBy ≠ none → store.takes victim = true)
      (leaves : Leaves store after victim) (policy : after.policy = store.policy.evict.2)
      (state : after.pageState victim =
        match frame.page.dirtiedBy with
        | none => { store.pageState victim with cached := none }
        | some _ => ⟨none, (store.pageState victim).filed frame.page.contents, false⟩) :
      Evicts store (.ok ()) after

theorem Sound.evict_cases (sound : store.Sound) {result : Except StoreError Unit}
    (run : store.evict = (result, after)) : Evicts store result after := by
  cases chosen : store.policy.evict.1 with
  | none =>
      rw [Store.evict, ← Prod.eta store.policy.evict, chosen] at run
      cases run
      exact .nobody chosen
  | some victim =>
      have split : store.policy.evict = (some victim, store.policy.evict.2) := by
        rw [← chosen]
      cases found : store.frames.get? victim with
      | none =>
          rw [Store.evict, split] at run
          simp only [found] at run
          cases run
          exact .stray chosen found
      | some frame =>
          cases dirty : frame.page.dirtiedBy with
          | none =>
              obtain ⟨done, leaves, policy, state⟩ := sound.evict_clean split found dirty
              rw [run] at done leaves policy state
              cases done
              exact .leaves chosen found (absurd dirty) leaves policy (by rw [state, dirty])
          | some txn =>
              rcases sound.evict_dirty split found dirty with
                ⟨fault, refused, failed⟩ | ⟨taken, done, leaves, policy, state⟩
              · cases failed.symm.trans run
                exact .stays chosen found (by simp [dirty]) refused
              · rw [run] at done leaves policy state
                cases done
                exact .leaves chosen found (fun _ => taken) leaves policy (by rw [state, dirty])

end Store

end TableStore
