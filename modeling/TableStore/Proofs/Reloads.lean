import TableStore.Proofs.PageErrors
import TableStore.Proofs.Passages
import TableStore.Proofs.Uses

/-!
# Pages between two looks at them

Whatever request is made, by whomever and whether it is granted, refused or fails, pages
only leave the cache and come back.  A page that is unchanged and leaves may look
different afterwards, namely as its file has it, and then keeps this look.  So what a
page looks like in between is what it looked like at first, or what it looks like at last.
-/

set_option autoImplicit false

namespace TableStore

namespace PageState

variable {state middle after : PageState}

def Settled (state : PageState) : Prop :=
  ∀ copy, state.cached = some copy →
    state.stored = .ok copy.contents ∧ copy.dirtiedBy = none

theorem Settled.look (settled : state.Settled) : state.look = state.stored := by
  cases cached : state.cached with
  | none => exact look_of_absent cached
  | some copy => rw [look_of_cached cached, (settled copy cached).1]

theorem Settled.pass (settled : state.Settled) (pass : Pass state after) :
    after.Settled ∧ after.look = state.look := by
  cases pass with
  | leave cached leaves =>
      rw [(settled _ cached).2] at leaves
      subst leaves
      refine ⟨nofun, ?_⟩
      rw [look_of_absent rfl, settled.look]
  | @load contents absent stored =>
      have loaded : Settled { state with cached := some ⟨contents, contents, none⟩ } := by
        rintro _ ⟨⟩
        exact ⟨stored, rfl⟩
      refine ⟨loaded, ?_⟩
      rw [loaded.look, settled.look]

theorem Settled.passes (settled : state.Settled) (passes : state.Passes after) :
    after.look = state.look := by
  suffices kept : after.Settled ∧ after.look = state.look from kept.2
  induction passes with
  | refl => exact ⟨settled, rfl⟩
  | tail _ pass ih =>
      obtain ⟨between, same⟩ := ih
      obtain ⟨last, again⟩ := between.pass pass
      exact ⟨last, again.trans same⟩

/-- A page that leaves or comes in keeps its look, or is as its file has it. -/
theorem Pass.look (pass : Pass state after) : after.look = state.look ∨ after.Settled := by
  cases pass with
  | @leave copy cached left leaves =>
      cases clean : copy.dirtiedBy with
      | none =>
          rw [clean] at leaves
          subst leaves
          exact .inr nofun
      | some txn =>
          rw [clean] at leaves
          subst leaves
          exact .inl (by rw [look_of_absent rfl, look_of_cached cached])
  | load absent stored =>
      left
      rw [look_of_cached rfl, look_of_absent absent, stored]

theorem Passes.look (passes : state.Passes middle) :
    middle.look = state.look ∨ middle.Settled := by
  induction passes with
  | refl => exact .inl rfl
  | tail _ pass ih =>
      rcases ih with same | settled
      · exact pass.look.imp_left fun again => again.trans same
      · exact .inr (settled.pass pass).1

theorem Passes.look_between (first : state.Passes middle) (second : middle.Passes after) :
    middle.look = state.look ∨ middle.look = after.look :=
  first.look.imp_right fun settled => (settled.passes second).symm

end PageState

namespace Store

variable {store middle after : Store} {request : PageRequest}

structure Flows (store after : Store) : Prop extends Continues store after where
  sound : after.Sound
  page : ∀ id, ¬ store.Lost id.table → (store.pageState id).Passes (after.pageState id)

theorem Sound.flows (sound : store.Sound) : Flows store store :=
  ⟨.refl store, sound, fun _ _ => .refl⟩

theorem Flows.trans (first : Flows store middle) (second : Flows middle after) :
    Flows store after where
  toContinues := first.toContinues.trans second.toContinues
  sound := second.sound
  page id kept := (first.page id kept).trans (second.page id (first.toContinues.lost ▸ kept))

theorem Passes.flows (passes : Passes store after) : Flows store after :=
  ⟨passes.toContinues, passes.sound, passes.page⟩

theorem Rests.flows (rests : Rests store after) (sound : store.Sound) : Flows store after where
  toContinues := rests.continues
  sound := rests.sound sound
  page id _ := by rw [rests.states]

/-- However a request ends, pages have only come and gone, also if its transaction has
got or lost the page since the request was made. -/
theorem Sound.attempt_flows (sound : store.Sound) (request : PageRequest) :
    Flows store (store.attempt request).2 := by
  have locks : (store.attempt request).2.locks.Sound := locks_attempt sound.locks request
  have rests : Rests store (store.locked request) := relock_rests sound.locks.acquire
  have pinFlows := ((rests.sound sound).pin_passes request.page).flows
  rcases run : store.attempt request with ⟨answer, after⟩
  rw [run] at locks
  cases attempt_cases run with
  | pins granted pinned =>
      rw [pinned] at pinFlows
      exact (rests.flows sound).trans pinFlows
  | @fails error middle granted unpinned =>
      rw [unpinned] at pinFlows
      obtain ⟨given, back⟩ := giveBack_relocked middle request error
      rw [back] at locks ⊢
      exact (rests.flows sound).trans (pinFlows.trans ((relock_rests locks).flows pinFlows.sound))
  | waits refused free => exact rests.flows sound
  | deadlock refused circle => exact (relock_rests locks).flows sound

theorem Sound.unpin_flows (sound : store.Sound) (handle : Handle) :
    Flows store (store.unpin handle) :=
  (sound.unpin handle).1.flows sound

/-! ## Why a page of a table cannot be had -/

theorem Sound.evict_unfatal (sound : store.Sound) {error : StoreError}
    (run : store.evict = (.error error, after)) : error.isFatal = false := by
  cases sound.evict_cases run with
  | nobody => rfl
  | stays => rfl

theorem Sound.pin_unfatal (sound : store.Sound) {id : PageId} {table : Table} {error : StoreError}
    (registered : store.catalog.tables.get? id.table = some table) (sized : 0 < table.pageSize)
    (run : store.pin id = (.error error, after)) : error.isFatal = false := by
  cases pin_cases run with
  | unreadable absent unread =>
      have own : id.table = table.id := (sound.catalog.identity _ _ registered).symm
      rw [readPage_of_table registered,
        Table.readPage_of_counted own sized] at unread
      split at unread
      · exact (StoreError.isOfFile_of_isOfForm (Page.decode_error unread)).2
      · cases unread
        rfl
  | blocked _ _ _ evicted => exact sound.evict_unfatal evicted

theorem Sound.attempt_unfatal (sound : store.Sound) {table : Table} {error : StoreError}
    (registered : store.catalog.tables.get? request.page.table = some table)
    (sized : 0 < table.pageSize)
    (run : store.attempt request = (.finished (.error error), after)) :
    error.isFatal = false := by
  cases attempt_cases run with
  | fails granted unpinned =>
      have rests : Rests store (store.locked request) := relock_rests sound.locks.acquire
      exact (rests.sound sound).pin_unfatal registered sized unpinned
  | deadlock refused circle => rfl

theorem Flows.registered (flows : Flows store after) {id : TableId} {table : Table}
    (registered : store.catalog.tables.get? id = some table) :
    after.catalog.tables.get? id = some table :=
  flows.catalog ▸ registered

end Store

end TableStore
