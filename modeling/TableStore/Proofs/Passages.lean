import TableStore.Proofs.LockSteps

/-!
# Pages that come and go

While a transaction asks for a page, pages leave the cache, written if they were
changed, and come in as their files have them.  Nothing else happens to any page, however
the request ends.  What holds of a page through both of these passages holds of it
through every request.
-/

set_option autoImplicit false

namespace TableStore

namespace PageState

inductive Pass (state : PageState) : PageState → Prop
  | leave {copy : Copy} (cached : state.cached = some copy) {left : PageState}
      (leaves : left = match copy.dirtiedBy with
        | none => { state with cached := none }
        | some _ => ⟨none, .ok copy.contents, false⟩) : Pass state left
  | load {contents : Contents} (absent : state.cached = none)
      (stored : state.stored = .ok contents) :
      Pass state { state with cached := some ⟨contents, contents, none⟩ }

abbrev Passes : PageState → PageState → Prop := Relation.ReflTransGen Pass

/-- A page without changes is as its file has it. -/
def Faithful (state : PageState) : Prop :=
  ∀ copy, state.cached = some copy → copy.dirtiedBy = none → state.stored = .ok copy.contents

variable {state passed : PageState}

/-- As long as pages are faithful, nobody can tell whether one has left and come back. -/
theorem Faithful.pass (faithful : state.Faithful) (pass : state.Pass passed) :
    passed.Faithful ∧ passed.look = state.look := by
  cases pass with
  | @leave copy cached _ leaves =>
      have seen := look_of_cached cached
      cases marked : copy.dirtiedBy with
      | none =>
          rw [marked] at leaves
          subst leaves
          exact ⟨nofun, (faithful copy cached marked).trans seen.symm⟩
      | some owner =>
          rw [marked] at leaves
          subst leaves
          exact ⟨nofun, seen.symm⟩
  | load absent stored =>
      refine ⟨?_, stored.symm.trans (look_of_absent absent).symm⟩
      rintro loaded ⟨⟩ -
      exact stored

theorem Faithful.passes (faithful : state.Faithful) (passes : state.Passes passed) :
    passed.Faithful ∧ passed.look = state.look := by
  induction passes with
  | refl => exact ⟨faithful, rfl⟩
  | tail _ pass ih =>
      obtain ⟨last, same⟩ := ih.1.pass pass
      exact ⟨last, same.trans ih.2⟩

end PageState

namespace Store

variable {store middle after : Store} {id victim : PageId} {page : Page} {table : Table}
  {request : PageRequest}

/-- Between the two stores pages have come and gone, and no transaction has lost an
exclusive lock. -/
structure Passes (store after : Store) : Prop extends Continues store after where
  sound : after.Sound
  page : ∀ id, ¬ store.Lost id.table → (store.pageState id).Passes (after.pageState id)
  exclusive : ∀ txn id, store.locks.mode? txn id = some .exclusive →
    after.locks.mode? txn id = some .exclusive

theorem Passes.trans (first : Passes store middle) (second : Passes middle after) :
    Passes store after where
  toContinues := first.toContinues.trans second.toContinues
  sound := second.sound
  page id kept := (first.page id kept).trans (second.page id (first.toContinues.lost ▸ kept))
  exclusive txn id held := second.exclusive txn id (first.exclusive txn id held)

theorem Rests.passes (rests : Rests store after) (sound : store.Sound)
    (exclusive : ∀ txn id, store.locks.mode? txn id = some .exclusive →
      after.locks.mode? txn id = some .exclusive) : Passes store after where
  toContinues := rests.continues
  sound := rests.sound sound
  page id _ := by rw [rests.states]
  exclusive := exclusive

theorem Rests.passes_of_locks (rests : Rests store after) (sound : store.Sound)
    (locks : after.locks = store.locks) : Passes store after := by
  apply rests.passes sound
  intro txn id held
  rw [locks]
  exact held

theorem Leaves.passes (leaves : Leaves store after victim) (sound : store.Sound)
    (cached : store.cached? victim = some page)
    (state : after.pageState victim = match page.dirtiedBy with
      | none => { store.pageState victim with cached := none }
      | some _ => ⟨none, (store.pageState victim).filed page.contents, false⟩) :
    Passes store after where
  toContinues := leaves.toContinues
  sound := leaves.sound
  page id kept := by
    by_cases here : id = victim
    · subst here
      obtain ⟨contents, stored⟩ := (sound.page id page cached).2.resolve_right kept
      have filed := @PageState.filed_of_stored (store.pageState id) _ stored page.contents
      rw [filed] at state
      exact .single (.leave (copy_of_cached cached) state)
    · rw [leaves.page id here]
  exclusive txn id held := by
    rw [leaves.locks]
    exact held

theorem Sound.evict_passes (sound : store.Sound) {result : Except StoreError Unit}
    (run : store.evict = (result, after)) : Passes store after := by
  cases sound.evict_cases run with
  | nobody => exact (sound.repolicy _).passes_of_locks sound rfl
  | stray => exact (sound.repolicy _).passes_of_locks sound rfl
  | stays => exact (sound.repolicy _).passes_of_locks sound rfl
  | leaves _ found _ leaves _ state => exact leaves.passes sound (cached?_of_frame found) state

theorem Sound.install_passes (sound : store.Sound) (absent : store.frames.get? id = none)
    (registered : store.catalog.tables.get? id.table = some table) (fits : page.Fits table id)
    (copy : page.copy = ⟨page.contents, page.contents, none⟩)
    (stored : store.stored id = .ok page.contents) : Passes store (store.install page).2 := by
  have uncached : store.cached? id = none := cached?_of_missing absent
  obtain ⟨moves, frames⟩ : Moves (fun _ => True) store (store.install page).2 ∧ _ :=
    sound.install uncached registered fits copy stored
  refine ⟨moves.toContinues, moves.sound, ?_, fun _ _ held => held⟩
  intro other _
  by_cases here : other = id
  · subst here
    have loaded : (store.install page).2.pageState other =
        { store.pageState other with cached := some ⟨page.contents, page.contents, none⟩ } := by
      rw [pageState, cached?, frames, if_pos rfl, Option.map_some, Option.map_some, copy]
      rfl
    rw [loaded]
    exact .single (.load (copy_of_uncached uncached) stored)
  · have same : (store.install page).2.pageState other = store.pageState other := by
      rw [pageState, cached?, frames, if_neg here]
      rfl
    rw [same]

theorem Sound.pin_passes (sound : store.Sound) (id : PageId) :
    Passes store (store.pin id).2 := by
  rcases run : store.pin id with ⟨result, after⟩
  cases pin_cases run with
  | hits found => exact (sound.repin found _).passes_of_locks sound rfl
  | unreadable => exact ⟨.refl store, sound, fun _ _ => .refl, fun _ _ held => held⟩
  | @loads page room absent read made =>
      obtain ⟨table, registered, -, -, fits, image, clean⟩ := sound.readPage_ok read
      have copy : page.copy = ⟨page.contents, page.contents, none⟩ := by
        rw [Page.copy_eq image, clean]
      have stored : store.stored id = .ok page.contents := by
        rw [Store.stored, read]
        rfl
      rcases made with ⟨-, rfl⟩ | ⟨-, evicted⟩
      · exact sound.install_passes absent registered fits copy stored
      · have left := sound.evict_passes evicted
        obtain ⟨still, kept⟩ := sound.evict_absent evicted absent
        exact left.trans (left.sound.install_passes still (left.catalog ▸ registered) fits copy
          (kept.trans stored))
  | blocked _ _ _ evicted => exact sound.evict_passes evicted

/-- However a request ends, pages have only come and gone. -/
theorem Sound.attempt_passes (sound : store.Sound)
    (held : request.heldBefore = store.locks.holds request.txn request.page) :
    Passes store (store.attempt request).2 := by
  have rests : Rests store (store.locked request) := relock_rests sound.locks.acquire
  have pinPasses := (rests.sound sound).pin_passes request.page
  rcases run : store.attempt request with ⟨answer, after⟩
  cases attempt_cases run with
  | pins granted pinned =>
      rw [pinned] at pinPasses
      exact (rests.passes sound (relocks_of_granted granted).exclusive).trans pinPasses
  | @fails error middle granted unpinned =>
      rcases (rests.sound sound).pin unpinned (.any : Spares (fun _ => True) _ _) with
        ⟨serial, pinned, -⟩ | ⟨failure, -, pinRests, pinLocks⟩
      · cases pinned
      · -- The lock that is given back is not an exclusive one from before.
        obtain ⟨given, back⟩ := sound.giveBack error pinLocks held
        have returned : Relocks request store (middle.giveBack request error) :=
          (relocks_of_granted granted).back fun txn id =>
            (back txn id).imp_left fun same => same.trans (by rw [pinLocks])
        exact (rests.trans (pinRests.trans given)).passes sound returned.exclusive
  | waits refused free =>
      apply rests.passes sound
      intro txn id exclusive
      exact (LockTable.mode?_of_refused refused).trans exclusive
  | deadlock refused circle =>
      apply (relock_rests sound.locks.acquire.cancelWait).passes sound
      intro txn id exclusive
      exact (LockTable.mode?_of_refused refused).trans exclusive

end Store

end TableStore
