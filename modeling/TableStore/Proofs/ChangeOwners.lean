import TableStore.Proofs.BackedPages

/-!
# Owners of changes

A cached page may differ from what a rollback returns to only by changes of the
transaction that holds it exclusively.  When that transaction ends they are kept or taken
back.  So while nobody holds a page exclusively, every cached page is as a rollback would
have it, also one with changes that could not be written.
-/

set_option autoImplicit false

namespace TableStore

namespace PageState

/-- What a rollback would take back belongs to the transaction that holds the page
exclusively, and nobody else has changed the page. -/
def Owned (state : PageState) (mode : TxnId → Option LockMode) : Prop :=
  ∀ copy, state.cached = some copy → copy.contents ≠ copy.image →
    ∃ owner, mode owner = some .exclusive ∧
      ∀ other, copy.dirtiedBy = some other → other = owner

variable {state : PageState} {mode later : TxnId → Option LockMode} {txn : TxnId} {copy : Copy}
  {contents : Contents}

theorem owned_of_resolved (resolved : ∀ copy, state.cached = some copy →
    copy.contents = copy.image) : state.Owned mode :=
  fun copy cached differs => absurd (resolved copy cached) differs

theorem Owned.relock (owned : state.Owned mode)
    (keeps : ∀ txn, mode txn = some .exclusive → later txn = some .exclusive) :
    state.Owned later := by
  intro copy cached differs
  obtain ⟨owner, exclusive, only⟩ := owned copy cached differs
  exact ⟨owner, keeps owner exclusive, only⟩

theorem Owned.written (owned : state.Owned mode) (cached : state.cached = some copy) :
    (state.written copy).Owned mode := by
  intro clean known differs
  cases known
  obtain ⟨owner, exclusive, -⟩ := owned copy cached differs
  exact ⟨owner, exclusive, nofun⟩

theorem owned_change (exclusive : mode txn = some .exclusive) :
    ({ state with cached := some ⟨contents, copy.image, some txn⟩ } : PageState).Owned mode := by
  intro changed known _
  cases known
  exact ⟨txn, exclusive, fun other own => (Option.some.inj own).symm⟩

theorem Owned.release (owned : state.Owned mode) (shared : mode txn ≠ some .exclusive) :
    state.Owned (without mode txn) := by
  apply owned.relock
  intro owner exclusive
  have different : owner ≠ txn := by
    rintro rfl
    exact shared exclusive
  exact (if_neg different).trans exclusive

theorem Owned.committed (owned : state.Owned mode) (shared : mode txn ≠ some .exclusive)
    (taken : Bool) : (state.committed txn taken).Owned (without mode txn) := by
  have rest := owned.release shared
  unfold PageState.committed
  split
  · exact rest
  · next copy cached =>
      split
      · next own =>
          split
          · apply owned_of_resolved
            intro written known
            cases known
            rfl
          · intro kept known differs
            exact rest kept known differs
      · exact rest

theorem Owned.restored (owned : state.Owned mode)
    (alone : ∀ owner, mode owner = some .exclusive → owner = txn) :
    (state.restored txn).Owned (without mode txn) := by
  apply owned_of_resolved
  intro copy known
  obtain ⟨old, cached, rfl⟩ := Option.map_eq_some_iff.mp known
  rw [Copy.restored]
  split
  · next foreign =>
      by_contra differs
      obtain ⟨owner, theirs, only⟩ := owned old cached differs
      cases changed : old.dirtiedBy with
      | none => simp [changed] at foreign
      | some other =>
          have same : other = txn := (only other changed).trans (alone owner theirs)
          simp [changed, same] at foreign
  · rfl

end PageState

namespace Outline

variable {blank : PageId → Contents} {outline after : Outline} {txn : TxnId}

def Owned (outline : Outline) : Prop :=
  ∀ id, (outline.page id).Owned fun txn => outline.mode txn id

theorem Owned.set (owned : outline.Owned) {id : PageId} {state : PageState}
    (here : state.Owned fun txn => outline.mode txn id) : (outline.set id state).Owned := by
  intro other
  by_cases same : other = id
  · subst same
    rw [set_same]
    exact here
  · rw [outline.set_other same]
    exact owned other

theorem Owned.shift (owned : outline.Owned) {writes : TxnId → Prop}
    (shift : Shift outline blank writes after) : after.Owned := by
  cases shift with
  | relock mode alone keeps => exact fun id => (owned id).relock fun txn => keeps txn id
  | load id contents absent stored =>
      apply owned.set
      apply PageState.owned_of_resolved
      intro copy known
      cases known
      rfl
  | write id copy txn cached dirty may => exact owned.set ((owned id).written cached)
  | leave id copy cached clean => exact owned.set (PageState.owned_of_resolved nofun)
  | append id error stored kept absent missing fresh =>
      apply owned.set
      intro copy cached
      cases absent.symm.trans cached
  | lose table =>
      intro id
      simp only [lose]
      split
      · exact owned id
      · exact owned id

theorem Owned.commit (owned : outline.Owned) (txn : TxnId) (taken : PageId → Bool) :
    (outline.commit txn taken).Owned := by
  intro id
  simp only [Outline.commit, release]
  split
  · apply PageState.owned_of_resolved
    intro copy known
    obtain ⟨old, -, rfl⟩ := Option.map_eq_some_iff.mp known
    rfl
  · next shared => exact (owned id).committed shared (taken id)

theorem Owned.abort (owned : outline.Owned) (txn : TxnId) : (outline.abort txn).Owned := by
  intro id
  simp only [Outline.abort, release]
  split
  · next exclusive =>
      apply (owned id).restored
      intro owner theirs
      exact outline.alone txn owner id exclusive (by rw [theirs]; rfl)
  · next shared => exact (owned id).release shared

theorem Owned.step (owned : outline.Owned) {writes : TxnId → Prop} {events : List Event}
    (step : Step outline blank writes events after) : after.Owned := by
  cases step with
  | shift shift => exact owned.shift shift
  | read txn id copy holds cached => exact owned
  | change txn copy change exclusive cached => exact owned.set (PageState.owned_change exclusive)
  | commit txn taken => exact owned.commit txn taken
  | abort txn => exact owned.abort txn

theorem Owned.path {writes : List Event → TxnId → Prop} {before after : Outline × List Event}
    (owned : before.1.Owned) (path : Path blank writes before after) : after.1.Owned :=
  path.keeps (motive := fun outline _ => outline.Owned) owned
    fun _ _ _ _ step owned => owned.step step

end Outline

namespace Store

variable {store : Store} {id : PageId} {copy : Copy}

def Resolved (store : Store) : Prop :=
  ∀ id copy, (store.pageState id).cached = some copy → copy.contents = copy.image

theorem resolved_of_owned (owned : store.outline.Owned)
    (free : ∀ txn id, store.locks.mode? txn id = none) : store.Resolved := by
  intro id copy cached
  by_contra differs
  obtain ⟨owner, exclusive, -⟩ := owned id copy cached differs
  cases (free owner id).symm.trans exclusive

theorem Resolved.owned (resolved : store.Resolved) : store.outline.Owned :=
  fun id => PageState.owned_of_resolved (resolved id)

end Store

end TableStore
