import TableStore.Proofs.Tidy

/-!
# What others do to the pages of a transaction

Whatever the other transactions do, a transaction keeps the pages that it holds,
and these look as before.  And if it holds the first page of a table, no page is
appended to the table: who appends one has been refused a free slot on every page
from the first on, and holds the first page exclusively.
-/

set_option autoImplicit false

namespace TableStore

namespace Store

variable {store middle after : Store} {id : PageId} {table : Table} {txn other : TxnId}

/-- The transaction keeps its pages, and they look as before.  A table whose first
page it holds has as many pages as before, and no table has fewer. -/
structure Undisturbed (txn : TxnId) (store after : Store) : Prop where
  catalog : after.catalog = store.catalog
  holds : ∀ id, (store.locks.mode? txn id).isSome = true →
    (after.locks.mode? txn id).isSome = true
  look : ∀ id contents, (store.locks.mode? txn id).isSome = true →
    (store.pageState id).look = .ok contents → (after.pageState id).look = .ok contents
  grows : ∀ id table, store.catalog.tables.get? id = some table →
    table.wholePages store.disk ≤ table.wholePages after.disk
  count : ∀ id table, store.catalog.tables.get? id = some table →
    0 < table.wholePages store.disk → (store.locks.mode? txn (table.page 0)).isSome = true →
    table.wholePages after.disk = table.wholePages store.disk

theorem Undisturbed.refl (txn : TxnId) (store : Store) : Undisturbed txn store store :=
  ⟨rfl, fun _ holds => holds, fun _ _ _ look => look, fun _ _ _ => Nat.le_refl _,
    fun _ _ _ _ _ => rfl⟩

theorem Undisturbed.trans (first : Undisturbed txn store middle)
    (second : Undisturbed txn middle after) : Undisturbed txn store after where
  catalog := second.catalog.trans first.catalog
  holds id holds := second.holds id (first.holds id holds)
  look id contents holds look :=
    second.look id contents (first.holds id holds) (first.look id contents holds look)
  grows id table registered :=
    Nat.le_trans (first.grows id table registered)
      (second.grows id table (first.catalog ▸ registered))
  count id table registered paged holds := by
    have same := first.count id table registered paged holds
    rw [← same]
    apply second.count id table (first.catalog ▸ registered)
    · rw [same]
      exact paged
    · exact first.holds _ holds

theorem Looks.undisturbed (looks : Looks store after)
    (holds : ∀ id, (store.locks.mode? txn id).isSome = true →
      (after.locks.mode? txn id).isSome = true) : Undisturbed txn store after where
  catalog := looks.catalog
  holds := holds
  look id _ _ known := (looks.look id).trans known
  grows id table registered := Nat.le_of_eq (looks.counts id table registered).symm
  count id table registered _ _ := looks.counts id table registered

theorem Looks.undisturbed_of_locks (looks : Looks store after)
    (locks : after.locks = store.locks) (txn : TxnId) : Undisturbed txn store after := by
  apply looks.undisturbed
  intro id holds
  rw [locks]
  exact holds

theorem apart_of_exclusive (exclusive : store.locks.mode? txn id = some .exclusive)
    (different : other ≠ txn) : ¬ (store.locks.mode? other id).isSome = true := by
  intro holds
  exact different (LockTable.alone_of_exclusive exclusive holds)

/-! ## Changes -/

theorem Tidy.changed (tidy : store.Tidy) {change : Change}
    (changes : Changes store after txn change)
    (exclusive : store.locks.mode? txn change.page = some .exclusive) :
    after.Tidy ∧ ∀ other, other ≠ txn → Undisturbed other store after := by
  obtain ⟨copy, cached, -, states⟩ := changes.pages
  constructor
  · refine ⟨changes.unwritable.trans tidy.writable,
      changes.toContinues.addressable tidy.addressable, ?_⟩
    intro id
    rw [states, changes.locks]
    split
    · next here =>
        subst here
        exact (tidy.page _).change cached exclusive
    · exact tidy.page id
  · intro other different
    refine ⟨changes.catalog, ?_, ?_, ?_, ?_⟩
    · intro id holds
      rw [changes.locks]
      exact holds
    · intro id contents holds known
      rw [states, if_neg]
      · exact known
      · intro here
        subst here
        exact apart_of_exclusive exclusive different holds
    · intro id table registered
      exact Nat.le_of_eq (changes.counts id table registered).symm
    · intro id table registered _ _
      exact changes.counts id table registered

/-- A page is appended by a transaction that holds the first page exclusively,
unless there is none. -/
theorem Tidy.appended (tidy : store.Tidy) (appends : Appends store after table)
    (registered : store.catalog.tables.get? table.id = some table)
    (first : 0 < table.wholePages store.disk →
      store.locks.mode? txn (table.page 0) = some .exclusive) :
    after.Tidy ∧ ∀ other, other ≠ txn → Undisturbed other store after := by
  have catalog : after.catalog = store.catalog := by rw [appends.disk]
  have unwritable : after.unwritable = store.unwritable := by rw [appends.disk]
  have locks : after.locks = store.locks := by rw [appends.disk]
  have absent : (store.pageState (store.nextPage table)).cached = none :=
    copy_of_uncached appends.uncached
  constructor
  · refine ⟨unwritable.trans tidy.writable, appends.addressable registered tidy.addressable, ?_⟩
    intro id
    rw [locks]
    by_cases here : id = store.nextPage table
    · subst here
      rw [appends.state]
      exact PageState.tidy_of_absent (tidy.page _).flushed absent
    · rw [appends.others here]
      exact tidy.page id
  · intro other different
    refine ⟨catalog, ?_, ?_, ?_, ?_⟩
    · intro id holds
      rw [locks]
      exact holds
    · intro id contents _ known
      rw [appends.others]
      · exact known
      · intro here
        subst here
        rw [PageState.look_of_absent absent] at known
        cases appends.missing.symm.trans known
    · intro id own found
      by_cases same : id = table.id
      · subst same
        cases found.symm.trans registered
        rw [appends.count]
        exact Nat.le_succ _
      · exact Nat.le_of_eq (appends.counts id own found same).symm
    · intro id own found paged holds
      by_cases same : id = table.id
      · subst same
        cases found.symm.trans registered
        exact absurd holds (apart_of_exclusive (first paged) different)
      · exact appends.counts id own found same

/-! ## Ends of transactions -/

theorem Ends.undisturbed (ends : Ends store after txn) (sound : store.Sound)
    (different : other ≠ txn)
    (look : ∀ id, (store.locks.mode? other id).isSome = true →
      (after.pageState id).look = (store.pageState id).look) : Undisturbed other store after where
  catalog := ends.still.catalog
  holds id holds := by
    rw [ends.mode sound, Outline.released, if_neg different]
    exact holds
  look id contents holds known := (look id holds).trans known
  grows id table registered := Nat.le_of_eq (ends.still.counts id table registered).symm
  count id table registered _ _ := ends.still.counts id table registered

theorem Tidy.commit (tidy : store.Tidy) (sound : store.Sound) (txn : TxnId) :
    (store.commit txn).2.Tidy ∧
      ∀ other, other ≠ txn → Undisturbed other store (store.commit txn).2 := by
  obtain ⟨ends, -, -⟩ := sound.commit txn
  have states (id : PageId) :
      (store.commit txn).2.pageState id = (store.pageState id).committed txn true := by
    rw [sound.pageState_commit, takes_of_writable tidy.writable]
    split
    · next exclusive =>
        apply ((tidy.page id).committed txn).1.captured
        intro copy cached
        cases marked : copy.dirtiedBy with
        | none => rfl
        | some owner =>
            have held := ((tidy.page id).committed txn).1.dirty copy owner cached marked
            exact absurd held (nobody_without exclusive owner)
    · rfl
  constructor
  · refine ⟨ends.still.unwritable.trans tidy.writable,
      ends.still.toContinues.addressable tidy.addressable, ?_⟩
    intro id
    rw [states, ends.modes sound]
    exact ((tidy.page id).committed txn).1
  · intro other different
    apply ends.undisturbed sound different
    intro id _
    rw [states]
    exact ((tidy.page id).committed txn).2

theorem Tidy.abort (tidy : store.Tidy) (sound : store.Sound) (txn : TxnId) :
    (store.abort txn).2.Tidy ∧
      ∀ other, other ≠ txn → Undisturbed other store (store.abort txn).2 := by
  obtain ⟨ends, -, -⟩ := sound.abort txn
  constructor
  · refine ⟨ends.still.unwritable.trans tidy.writable,
      ends.still.toContinues.addressable tidy.addressable, ?_⟩
    intro id
    rw [sound.pageState_abort, ends.modes sound]
    split
    · exact (tidy.page id).restored txn
    · next shared =>
        apply (tidy.page id).release
        intro copy cached marked
        exact shared ((tidy.page id).dirty copy txn cached marked)
  · intro other different
    apply ends.undisturbed sound different
    intro id holds
    rw [sound.pageState_abort, if_neg]
    intro exclusive
    exact apart_of_exclusive exclusive different holds

end Store

end TableStore
