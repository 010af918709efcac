import TableStore.Proofs.BackedPages
import TableStore.Proofs.Endings

/-!
# Pages of a store without faults and flushes

While every file takes its pages and nobody flushes, the contents that a rollback
returns to are those in the file, a page without changes is as its file has it, and
a page with changes belongs to a transaction that holds it exclusively.  Then a
page that leaves the cache and is loaded again looks as before, so no request for
a page changes how any page looks.
-/

set_option autoImplicit false

namespace TableStore

namespace PageState

/-- The page in its file is the one that a rollback returns to, and only a
transaction that holds the page exclusively has changes of it. -/
structure Tidy (state : PageState) (mode : TxnId → Option LockMode) : Prop where
  flushed : state.unflushed = false
  image : ∀ copy, state.cached = some copy → state.stored = .ok copy.image
  clean : ∀ copy, state.cached = some copy → copy.dirtiedBy = none → copy.contents = copy.image
  dirty : ∀ copy owner, state.cached = some copy → copy.dirtiedBy = some owner →
    mode owner = some .exclusive

variable {state passed : PageState} {mode later : TxnId → Option LockMode} {txn : TxnId}
  {copy : Copy} {contents : Contents}

/-- Tidy pages are those that can leave the cache and are not noted as unflushed. -/
theorem tidy_iff : state.Tidy mode ↔ state.Backed mode ∧ state.unflushed = false := by
  constructor
  · intro tidy
    refine ⟨⟨?_, ?_, ?_⟩, tidy.flushed⟩
    · intro copy cached _
      exact tidy.image copy cached
    · intro copy cached marked
      rw [tidy.clean copy cached marked]
      exact tidy.image copy cached
    · intro copy owner cached marked
      exact .inl (tidy.dirty copy owner cached marked)
  · rintro ⟨backed, flushed⟩
    have image (copy : Copy) (cached : state.cached = some copy) : state.stored = .ok copy.image :=
      backed.image copy cached flushed
    refine ⟨flushed, image, ?_, ?_⟩
    · intro copy cached marked
      exact Except.ok.inj ((backed.clean copy cached marked).symm.trans (image copy cached))
    · intro copy owner cached marked
      apply (backed.dirty copy owner cached marked).resolve_right
      simp [flushed]

theorem Tidy.backed (tidy : state.Tidy mode) : state.Backed mode :=
  (tidy_iff.mp tidy).1

theorem tidy_of_absent (flushed : state.unflushed = false) (absent : state.cached = none) :
    state.Tidy mode :=
  tidy_iff.mpr ⟨backed_of_absent absent, flushed⟩

theorem Tidy.relock (tidy : state.Tidy mode)
    (keeps : ∀ txn, mode txn = some .exclusive → later txn = some .exclusive) :
    state.Tidy later :=
  tidy_iff.mpr ⟨tidy.backed.relock keeps, tidy.flushed⟩

theorem Passes.flushed (passes : state.Passes passed) (flushed : state.unflushed = false) :
    passed.unflushed = false := by
  induction passes with
  | refl => exact flushed
  | tail before pass ih =>
      cases pass with
      | load absent stored => exact ih
      | leave cached leaves =>
          subst leaves
          split
          · exact ih
          · rfl

/-- A page looks as before when it has left the cache, written or not, and when it has
come in. -/
theorem Tidy.passes (tidy : state.Tidy mode) (passes : state.Passes passed) :
    passed.Tidy mode ∧ passed.look = state.look := by
  obtain ⟨backed, look, -⟩ := tidy.backed.passes passes
  exact ⟨tidy_iff.mpr ⟨backed, passes.flushed tidy.flushed⟩, look⟩

theorem Tidy.change (tidy : state.Tidy mode) (cached : state.cached = some copy)
    (exclusive : mode txn = some .exclusive) :
    ({ state with cached := some ⟨contents, copy.image, some txn⟩ } : PageState).Tidy mode :=
  tidy_iff.mpr ⟨tidy.backed.change cached exclusive, tidy.flushed⟩

theorem Tidy.release (tidy : state.Tidy mode)
    (foreign : ∀ copy, state.cached = some copy → copy.dirtiedBy ≠ some txn) :
    state.Tidy (without mode txn) := by
  refine tidy_iff.mpr ⟨tidy.backed.release ?_, tidy.flushed⟩
  intro copy cached marked
  exact absurd marked (foreign copy cached)

theorem Tidy.committed (tidy : state.Tidy mode) (txn : TxnId) :
    (state.committed txn true).Tidy (without mode txn) ∧
      (state.committed txn true).look = state.look := by
  rw [tidy_iff, and_assoc]
  refine ⟨tidy.backed.committed (fun copy cached => ⟨copy.image, tidy.image copy cached⟩) txn true,
    ?_⟩
  unfold PageState.committed
  cases cached : state.cached with
  | none => exact ⟨tidy.flushed, rfl⟩
  | some copy =>
      by_cases own : copy.dirtiedBy = some txn
      · simp only [own, if_true]
        exact ⟨trivial, (look_of_cached cached).symm⟩
      · simp only [own, if_false]
        exact ⟨tidy.flushed, trivial⟩

theorem Tidy.restored (tidy : state.Tidy mode) (txn : TxnId) :
    (state.restored txn).Tidy (without mode txn) :=
  tidy_iff.mpr ⟨tidy.backed.restored txn, tidy.flushed⟩

/-- On a page that the transaction holds exclusively, what a rollback returns to is
after the commit what it was. -/
theorem Tidy.captured (tidy : state.Tidy mode)
    (clean : ∀ copy, state.cached = some copy → copy.dirtiedBy = none) :
    state.captured = state :=
  captured_of_same fun copy cached => (tidy.clean copy cached (clean copy cached)).symm

end PageState

namespace Store

variable {store after : Store}

structure Tidy (store : Store) : Prop where
  writable : store.unwritable = ∅
  addressable : store.Addressable
  page : ∀ id, (store.pageState id).Tidy fun txn => store.locks.mode? txn id

structure Looks (store after : Store) : Prop extends Continues store after where
  tidy : after.Tidy
  look : ∀ id, (after.pageState id).look = (store.pageState id).look

theorem Tidy.passed (tidy : store.Tidy) (passes : Passes store after) : Looks store after := by
  have passed (id : PageId) :=
    (tidy.page id).passes (passes.page id (tidy.addressable.kept id.table))
  exact ⟨passes.toContinues, ⟨passes.unwritable.trans tidy.writable,
    passes.toContinues.addressable tidy.addressable,
    fun id => (passed id).1.relock fun txn => passes.exclusive txn id⟩, fun id => (passed id).2⟩

end Store

end TableStore
