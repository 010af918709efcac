import TableStore.Proofs.Runs

/-!
# Pages that leave the cache and come back

A cached page without changes should be as its file has it, so that nobody can
tell whether it left the cache and was loaded again.  Moves of the store, changes
and commits keep it so.  A rollback keeps it so exactly if the contents that it
restores are those of the file, or are noted as unflushed.  That can fail: a flush
writes the changes of a running transaction and takes their mark away, but leaves
the contents that a rollback returns to; the rollback then restores them without
a mark, while the file holds the changes that were taken back.
-/

set_option autoImplicit false

namespace TableStore

namespace Outline

variable {blank : PageId → Contents} {outline after : Outline} {txn : TxnId}

def Faithful (outline : Outline) : Prop :=
  ∀ id copy, (outline.page id).cached = some copy → copy.dirtiedBy = none →
    (outline.page id).stored = .ok copy.contents

/-- A rollback restores contents that the file holds, apart from those that are
noted as unflushed and pages that another transaction changed. -/
def Restores (outline : Outline) (txn : TxnId) : Prop :=
  ∀ id copy, outline.mode txn id = some .exclusive → (outline.page id).cached = some copy →
    (copy.dirtiedBy = none ∨ copy.dirtiedBy = some txn) → (outline.page id).unflushed = false →
      (outline.page id).stored = .ok copy.image

theorem Faithful.set (faithful : outline.Faithful) {id : PageId} {state : PageState}
    (here : ∀ copy, state.cached = some copy → copy.dirtiedBy = none →
      state.stored = .ok copy.contents) : (outline.set id state).Faithful := by
  intro other copy cached clean
  by_cases same : other = id
  · subst same
    rw [set_same] at cached ⊢
    exact here copy cached clean
  · rw [outline.set_other same] at cached ⊢
    exact faithful other copy cached clean

/-- Moves of the store keep it so, as long as no table is lost. -/
theorem Faithful.shift (faithful : outline.Faithful) (filed : outline.Filed)
    {writes : TxnId → Prop} (shift : Shift outline blank writes after)
    (kept : ∀ table, ¬ after.lost table) : after.Faithful := by
  cases shift with
  | relock mode alone keeps => exact faithful
  | load id contents absent stored =>
      apply faithful.set
      rintro _ ⟨⟩ -
      exact stored
  | write id copy txn cached dirty may =>
      apply faithful.set
      rintro _ ⟨⟩ -
      obtain ⟨before, stored⟩ := (filed id copy cached).resolve_right (kept id.table)
      exact PageState.filed_of_stored stored copy.contents
  | leave id copy cached clean =>
      apply faithful.set
      intro _ known
      cases known
  | append id error stored known absent missing fresh =>
      apply faithful.set
      intro copy cached
      cases absent.symm.trans cached
  | lose table => exact absurd (.inl rfl) (kept table)

theorem Faithful.change (faithful : outline.Faithful) (copy : Copy) (change : Change) :
    (outline.change txn copy change).Faithful := by
  apply faithful.set
  rintro _ ⟨⟩ clean
  cases clean

theorem faithful_committed {state : PageState} {taken : Bool}
    (faithful : ∀ copy, state.cached = some copy → copy.dirtiedBy = none →
      state.stored = .ok copy.contents)
    (filed : ∀ copy, state.cached = some copy → ∃ contents, state.stored = .ok contents)
    (copy : Copy)
    (cached : (state.committed txn taken).cached = some copy) (clean : copy.dirtiedBy = none) :
    (state.committed txn taken).stored = .ok copy.contents := by
  rw [PageState.committed] at cached ⊢
  split at cached
  · next absent =>
      rw [absent] at cached
      cases cached
  · next before found =>
      simp only [found]
      split at cached
      · next dirty =>
          rw [if_pos dirty]
          split at cached
          · next taken =>
              rw [if_pos taken]
              cases cached
              obtain ⟨contents, stored⟩ := filed before found
              exact PageState.filed_of_stored stored before.contents
          · cases found.symm.trans cached
            cases dirty.symm.trans clean
      · next foreign =>
          rw [if_neg foreign]
          exact faithful copy cached clean

theorem Faithful.commit (faithful : outline.Faithful) (filed : outline.Filed)
    (kept : ∀ table, ¬ outline.lost table) (txn : TxnId) (taken : PageId → Bool) :
    (outline.commit txn taken).Faithful := by
  intro id copy cached clean
  have committed (copy : Copy)
      (found : ((outline.page id).committed txn (taken id)).cached = some copy)
      (clean : copy.dirtiedBy = none) :
      ((outline.page id).committed txn (taken id)).stored = .ok copy.contents :=
    faithful_committed (faithful id)
      (fun copy cached => (filed id copy cached).resolve_right (kept id.table)) copy found clean
  simp only [Outline.commit, release] at cached ⊢
  split at cached
  · next exclusive =>
      obtain ⟨before, found, captured⟩ := Option.map_eq_some_iff.mp cached
      rw [← captured] at clean ⊢
      rw [if_pos exclusive]
      exact committed before found clean
  · next foreign =>
      rw [if_neg foreign]
      exact committed copy cached clean

/-- A rollback keeps clean pages as their files have them exactly if it restores
contents that the files hold. -/
theorem Faithful.abort_iff (faithful : outline.Faithful) (txn : TxnId) :
    (outline.abort txn).Faithful ↔ outline.Restores txn := by
  constructor
  · intro after id copy exclusive cached own flushed
    have restored : copy.restored txn false = ⟨copy.image, copy.image, none⟩ := by
      rw [Copy.restored, if_neg]
      · rfl
      · rcases own with clean | own
        · simp [clean]
        · simp [own]
    have page : (outline.abort txn).page id = (outline.page id).restored txn := if_pos exclusive
    have here := after id ⟨copy.image, copy.image, none⟩
    rw [page, PageState.restored, cached, flushed] at here
    exact here (congrArg some restored) rfl
  · intro restores id copy cached clean
    simp only [Outline.abort, release] at cached ⊢
    split at cached
    · next exclusive =>
        rw [if_pos exclusive]
        obtain ⟨before, found, same⟩ := Option.map_eq_some_iff.mp cached
        rw [Copy.restored] at same
        split at same
        · next foreign =>
            rw [same, clean] at foreign
            cases foreign
        · next own =>
            have mine : before.dirtiedBy = none ∨ before.dirtiedBy = some txn := by
              cases dirty : before.dirtiedBy with
              | none => exact .inl rfl
              | some other => simpa [dirty] using own
            cases flushed : (outline.page id).unflushed with
            | true =>
                rw [flushed] at same
                cases same
                cases clean
            | false =>
                rw [flushed] at same
                cases same
                exact restores id before exclusive found mine flushed
    · next foreign =>
        rw [if_neg foreign]
        exact faithful id copy cached clean

theorem Faithful.path {writes : List Event → TxnId → Prop} {before after : Outline × List Event}
    (faithful : before.1.Faithful) (filed : before.1.Filed)
    (path : Path blank writes before after) (kept : ∀ table, ¬ after.1.lost table) :
    ∃ events, after.2 = before.2 ++ events ∧
      ((∀ txn, Event.aborted txn ∉ events) → after.1.Faithful) := by
  suffices reached : ∃ events, after.2 = before.2 ++ events ∧ ((∀ table, ¬ after.1.lost table) →
      (∀ txn, Event.aborted txn ∉ events) → after.1.Faithful) by
    obtain ⟨events, grown, reached⟩ := reached
    exact ⟨events, grown, reached kept⟩
  apply path.keeps_filed (motive := fun outline history => ∃ events,
      history = before.2 ++ events ∧ ((∀ table, ¬ outline.lost table) →
        (∀ txn, Event.aborted txn ∉ events) → outline.Faithful))
    filed ⟨[], (List.append_nil _).symm, fun _ _ => faithful⟩
  rintro current history events next step filed ⟨past, rfl, before⟩
  refine ⟨past ++ events, List.append_assoc .., fun kept unaborted => ?_⟩
  have keptBefore (table : TableId) : ¬ current.lost table := fun lost => kept table (step.lost lost)
  have faithful : current.Faithful := before keptBefore fun txn aborted =>
    unaborted txn (List.mem_append_left events aborted)
  cases step with
  | shift shift => exact faithful.shift filed shift kept
  | read txn id copy holds cached => exact faithful
  | change txn copy change exclusive cached => exact faithful.change copy change
  | commit txn taken => exact faithful.commit filed keptBefore txn taken
  | abort txn =>
      exact absurd (List.mem_append_right past (List.mem_singleton_self _)) (unaborted txn)

end Outline

namespace Store

variable {store after : Store} {id : PageId} {page : Page} {txn : TxnId}

def Faithful (store : Store) : Prop :=
  ∀ id page, store.cached? id = some page → page.dirtiedBy = none →
    ∃ again, store.readPage id = .ok again ∧ again.contents = page.contents

/-- Whichever page is chosen to leave the cache, it can be loaded again as it
was. -/
def Reloads (store : Store) : Prop :=
  ∀ policy after, ({ store with policy } : Store).evict = (.ok (), after) →
    ∀ id page, store.cached? id = some page → after.cached? id = none →
      ∃ again, after.readPage id = .ok again ∧ again.contents = page.contents

def Restores (store : Store) (txn : TxnId) : Prop :=
  ∀ id page, store.locks.mode? txn id = some .exclusive → store.cached? id = some page →
    (page.dirtiedBy = none ∨ page.dirtiedBy = some txn) → store.unflushed.contains id = false →
      ∃ again image, store.readPage id = .ok again ∧ page.restore = .ok image ∧
        again.contents = image.contents

theorem stored_iff {contents : Contents} : store.stored id = .ok contents ↔
    ∃ again, store.readPage id = .ok again ∧ again.contents = contents := by
  refine ⟨readPage_of_stored, ?_⟩
  rintro ⟨again, read, rfl⟩
  rw [stored, read]
  rfl

theorem faithful_iff : store.Faithful ↔ store.outline.Faithful := by
  constructor
  · intro faithful id copy cached clean
    obtain ⟨page, found, rfl⟩ := cached_of_pageState cached
    exact stored_iff.mpr (faithful id page found clean)
  · intro faithful id page found clean
    refine stored_iff.mp (faithful id page.copy ?_ clean)
    change (store.cached? id).map Page.copy = some page.copy
    rw [found]
    rfl

theorem Sound.restores_iff (sound : store.Sound) :
    store.Restores txn ↔ store.outline.Restores txn := by
  have imaged {id : PageId} {page : Page} (found : store.cached? id = some page) :
      ∃ image, page.restore = .ok image ∧ image.contents = page.copy.image := by
    obtain ⟨⟨table, -, fits⟩, -⟩ := sound.page id page found
    obtain ⟨-, copy, run⟩ := fits.restored
    exact ⟨page.restored, run, congrArg Copy.contents copy⟩
  constructor
  · intro restores id copy exclusive cached own flushed
    obtain ⟨page, found, rfl⟩ := cached_of_pageState cached
    obtain ⟨again, image, read, run, same⟩ := restores id page exclusive found own flushed
    obtain ⟨restored, rerun, contents⟩ := imaged found
    cases run.symm.trans rerun
    exact stored_iff.mpr ⟨again, read, same.trans contents⟩
  · intro restores id page exclusive found own flushed
    have cached : (store.outline.page id).cached = some page.copy := by
      change (store.cached? id).map Page.copy = some page.copy
      rw [found]
      rfl
    obtain ⟨again, read, same⟩ :=
      stored_iff.mp (restores id page.copy exclusive cached own flushed)
    obtain ⟨image, run, contents⟩ := imaged found
    exact ⟨again, image, read, run, same.trans contents.symm⟩

/-- A store reloads every page that leaves the cache exactly if every cached page
without changes is as its file has it. -/
theorem Sound.reloads_iff (sound : store.Sound) (addressable : store.Addressable) :
    store.Reloads ↔ store.Faithful := by
  constructor
  · intro reloads id page found clean
    have chosen := sound.repolicy (.scripted [id])
    obtain ⟨frame, framed, rfl⟩ := Option.map_eq_some_iff.mp found
    rcases run : ({ store with policy := .scripted [id] } : Store).evict with ⟨result, after⟩
    cases (chosen.sound sound).evict_cases run with
    | nobody missing => cases missing
    | stray picked absent =>
        cases picked
        cases framed.symm.trans absent
    | stays picked same dirty =>
        cases picked
        cases framed.symm.trans same
        exact absurd clean dirty
    | leaves picked same _ leaves _ state =>
        cases picked
        cases framed.symm.trans same
        rw [clean] at state
        have gone : after.cached? id = none :=
          cached?_of_missing ((leaves.frames id).trans (if_pos rfl))
        have again := reloads (.scripted [id]) _ run id frame.page found gone
        refine stored_iff.mp (Eq.trans ?_ (stored_iff.mpr again))
        rw [← chosen.stored id]
        exact (congrArg PageState.stored state).symm
  · intro faithful policy after run id page found gone
    have chosen := sound.repolicy policy
    cases (chosen.sound sound).evict_cases run with
    | stray => exact absurd (found.symm.trans gone) (Option.some_ne_none page)
    | @leaves victim frame _ _ framed _ leaves _ state =>
        by_cases here : id = victim
        · subst here
          have same : page = frame.page := by
            rw [cached?, framed] at found
            exact (Option.some.inj found).symm
          subst same
          apply stored_iff.mp
          change (after.pageState id).stored = _
          rw [state]
          cases dirty : frame.page.dirtiedBy with
          | none => exact stored_iff.mpr (faithful id frame.page found dirty)
          | some txn =>
              obtain ⟨contents, stored⟩ := sound.filed addressable found
              exact PageState.filed_of_stored
                ((chosen.stored id).trans stored) frame.page.contents
        · have stays : after.cached? id = store.cached? id := by
            rw [cached?, leaves.frames, if_neg here]
            rfl
          rw [stays, found] at gone
          cases gone

end Store

namespace Operation

theorem step_unaborted (operation : Operation) (store : Store) (txn : TxnId) :
    Event.aborted txn ∉ (operation.step store).1.events := by
  cases operation with
  | fetch request =>
      simp only [step]
      split <;> simp [Store.readEvent]
  | insertion task =>
      simp only [step]
      split <;> simp only [List.not_mem_nil, not_false_iff, insertEvents]
      split <;> simp
  | deletion task =>
      simp only [step]
      split <;> simp only [List.not_mem_nil, not_false_iff, deleteEvents]
      split <;> simp
  | scan task =>
      simp only [step]
      split <;> simp only [List.not_mem_nil, not_false_iff, scanEvents]
      split <;> simp

end Operation

namespace System

variable {system : System} {action : Action} {txn : TxnId}

theorem history_perform (ends : ∀ txn, action ≠ .abort txn) :
    ∃ events, (system.perform action).history = system.history ++ events ∧
      ∀ txn, Event.aborted txn ∉ events := by
  have nothing : ∃ events, system.history = system.history ++ events ∧
      ∀ txn, Event.aborted txn ∉ events :=
    ⟨[], (List.append_nil _).symm, fun _ => List.not_mem_nil⟩
  cases action with
  | call txn call =>
      simp only [perform, begin]
      split
      · exact nothing
      · split <;> exact nothing
  | advance txn =>
      simp only [perform, advance]
      split
      · exact nothing
      · exact ⟨_, rfl, Operation.step_unaborted _ _⟩
  | drop handle =>
      simp only [perform]
      split <;> exact nothing
  | commit txn =>
      simp only [perform, finish]
      split
      · exact nothing
      · exact ⟨_, rfl, by simp⟩
  | abort txn => exact absurd rfl (ends txn)
  | flush page => exact nothing
  | flushAll => exact nothing
  | fault unwritable => exact nothing

def Restoring (system : System) (action : Action) : Prop :=
  ∀ txn, action = .abort txn → system.pending.get? txn = none → system.store.Restores txn

/-- After the action every page can leave the cache and be loaded again as it
was, and every cached page without changes is as its file has it. -/
def Reloading (system : System) (action : Action) : Prop :=
  (system.perform action).store.Reloads ∧ (system.perform action).store.Faithful

/-- Of all actions only a rollback can make a cached page without changes differ
from its file, and does so exactly if it restores other contents. -/
theorem Sound.faithful_perform (sound : system.Sound) (numbered : Numbered system action)
    (faithful : system.store.Faithful) :
    (system.perform action).store.Faithful ↔ Restoring system action := by
  have before := Store.faithful_iff.mp faithful
  by_cases ends : ∃ txn, action = .abort txn
  · obtain ⟨txn, rfl⟩ := ends
    cases busy : system.pending.get? txn with
    | some operation =>
        have same : system.perform (.abort txn) = system := by
          change system.finish txn (system.store.abort txn).2 (.aborted txn) = system
          rw [System.finish, busy]
        rw [same]
        apply iff_of_true faithful
        intro other same free
        cases same
        cases busy.symm.trans free
    | none =>
        have outline : (system.perform (.abort txn)).store.outline =
            system.store.outline.abort txn := by
          change (system.finish txn (system.store.abort txn).2 (.aborted txn)).store.outline = _
          rw [System.finish, busy]
          exact (sound.store.abort txn).2.1
        rw [Store.faithful_iff, outline, before.abort_iff txn, ← sound.store.restores_iff]
        constructor
        · intro restores other same _
          cases same
          exact restores
        · exact fun restoring => restoring txn rfl busy
  · have notAbort (txn : TxnId) : action ≠ .abort txn := fun same => ends ⟨txn, same⟩
    obtain ⟨events, grown, unaborted⟩ := system.history_perform notAbort
    have recorded : system.record.1.Faithful := before
    have follows := sound.perform (.any system action)
    obtain ⟨others, grownAlso, kept⟩ :=
      recorded.path sound.store.outline_filed follows.path numbered.kept
    have same : others = events := List.append_cancel_left (grownAlso.symm.trans grown)
    apply iff_of_true (Store.faithful_iff.mpr (kept (same ▸ unaborted)))
    exact fun txn same => absurd same (notAbort txn)

theorem Sound.reloading_run (sound : system.Sound) (faithful : system.store.Faithful)
    {actions : List Action} (numbered : Along Numbered system actions) :
    Along Reloading system actions ↔ Along Restoring system actions := by
  induction actions generalizing system with
  | nil => exact Iff.rfl
  | cons action actions ih =>
      obtain ⟨first, rest⟩ := numbered
      have after := (sound.perform (.any system action)).sound
      have here : Reloading system action ↔ Restoring system action := by
        rw [Reloading, after.store.reloads_iff first, and_self_iff]
        exact sound.faithful_perform first faithful
      refine ⟨fun ⟨reloading, later⟩ => ⟨here.mp reloading, ?_⟩,
        fun ⟨restoring, later⟩ => ⟨here.mpr restoring, ?_⟩⟩
      · exact (ih after reloading.2 rest).mp later
      · exact (ih after (here.mpr restoring).2 rest).mpr later

theorem Fresh.faithful (fresh : system.Fresh) : system.store.Faithful := by
  intro id page cached
  rw [fresh.store.uncached] at cached
  cases cached

/-- In a run, every page can at every moment leave the cache and be loaded again
as it was, and every cached page without changes is as its file has it, exactly
if every rollback restores contents that the files hold. -/
theorem pages_reload_iff_rollbacks_restore (fresh : system.Fresh) {actions : List Action}
    (numbered : Along Numbered system actions) :
    Along Reloading system actions ↔ Along Restoring system actions :=
  fresh.sound.reloading_run fresh.faithful numbered

/-- A transaction inserts two rows, so that the first page leaves a cache with
room for one; the other one is flushed, and the transaction commits. -/
def flushedAndCommitted : List Action :=
  [.call ⟨1⟩ (.insert ⟨1⟩ (.ofNumber 5)), .advance ⟨1⟩,
    .call ⟨1⟩ (.insert ⟨1⟩ (.ofNumber 6)), .advance ⟨1⟩, .advance ⟨1⟩, .flushAll, .commit ⟨1⟩]

theorem reloading_of_flushed_and_committed :
    Along Numbered (.ofNumbers 1) flushedAndCommitted ∧
      Along Reloading (.ofNumbers 1) flushedAndCommitted := by
  have numbered : Along Numbered (.ofNumbers 1) flushedAndCommitted := by decide +kernel
  have restoring : Along Restoring (.ofNumbers 1) flushedAndCommitted := by
    simp [flushedAndCommitted, Along, Restoring]
  exact ⟨numbered, (pages_reload_iff_rollbacks_restore (fresh_ofNumbers 1) numbered).mpr restoring⟩

/-- A transaction inserts a row, the page is flushed, and the transaction rolls
back. -/
def flushedAndAborted : List Action :=
  [.call ⟨1⟩ (.insert ⟨1⟩ (.ofNumber 5)), .advance ⟨1⟩, .flush (Table.numbers.page 0), .abort ⟨1⟩]

/-- The page in the cache has no row and no mark, but when it leaves the cache
and is loaded again it has the row. -/
theorem rollback_after_flush_comes_back :
    let store := ((System.ofNumbers 1).run flushedAndAborted).store
    let page := Table.numbers.page 0
    Along Numbered (.ofNumbers 1) flushedAndAborted ∧
      (store.cached? page).map Page.contents = some [none] ∧
      (store.cached? page).map Page.dirtiedBy = some none ∧
      store.evict.1.isOk = true ∧ store.evict.2.cached? page = none ∧
      (store.evict.2.readPage page).toOption.map Page.contents = some [some [.int 5]] := by
  decide +kernel

end System

end TableStore
