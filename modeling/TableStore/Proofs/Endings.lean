import TableStore.Proofs.WriteBacks

/-!
# Commit and rollback

A commit writes every page that the transaction changed, as far as the files
take them, and makes the contents of the pages that it holds exclusively those
that a rollback returns to; a rollback restores these pages.  Both release the
locks of the transaction.  On the outline of a sound store they are the commit
and the rollback of outlines.
-/

set_option autoImplicit false

namespace TableStore.Store

variable {store middle after : Store} {id : PageId} {txn : TxnId}

/-! ## Writing the pages of a transaction -/

theorem firstError_eq_ok {first later : Except StoreError Unit} :
    firstError first later = .ok () ↔ first = .ok () ∧ later = .ok () := by
  cases first <;> simp [firstError]

theorem Sound.flushCommittedEach {ids : List PageId} (distinct : ids.Nodup)
    (sound : store.Sound)
    (dirty : ∀ id ∈ ids, ∃ copy, (store.pageState id).cached = some copy ∧
      copy.dirtiedBy = some txn) :
    (Becomes store (Store.flushCommittedEach ids store).2 fun other =>
        if other ∈ ids then (store.pageState other).committed txn (store.takes other)
        else store.pageState other) ∧
      ((Store.flushCommittedEach ids store).1 = .ok () ↔
        ∀ id ∈ ids, store.takes id = true) := by
  induction ids generalizing store with
  | nil => exact ⟨sound.becomes.congr fun other => by simp, by simp [Store.flushCommittedEach]⟩
  | cons id ids ih =>
      obtain ⟨fresh, distinct⟩ := List.nodup_cons.mp distinct
      obtain ⟨copy, cached, dirtyCopy⟩ := dirty id List.mem_cons_self
      obtain ⟨page, cachedPage, rfl⟩ := cached_of_pageState cached
      obtain ⟨first, result⟩ := sound.flushCommitted cachedPage dirtyCopy
      have unchanged (other : PageId) (member : other ∈ ids) :
          (store.flushCommitted id).2.pageState other = store.pageState other := by
        rw [first.page other, if_neg fun same : other = id => fresh (same ▸ member)]
      obtain ⟨rest, results⟩ := ih distinct first.sound fun other member => by
        rw [unchanged other member]
        exact dirty other (List.mem_cons_of_mem _ member)
      have taken (other : PageId) :
          (store.flushCommitted id).2.takes other = store.takes other := first.still.toContinues.takes other
      simp only [taken] at rest results
      constructor
      · exact Becomes.cons (fun other state => state.committed txn (store.takes other)) fresh
          first rest
      · rw [Store.flushCommittedEach, firstError_eq_ok, result, results, List.forall_mem_cons]

theorem mem_dirtyPages_iff : id ∈ store.dirtyPages txn ↔
    ∃ page, store.cached? id = some page ∧ page.dirtiedBy = some txn := by
  rw [dirtyPages, SortedMap.mem_keys_iff]
  simp only [SortedMap.get?_filter, Option.filter_eq_some_iff, decide_eq_true_eq, cached?,
    Option.map_eq_some_iff]
  constructor
  · rintro ⟨frame, found, dirty⟩
    exact ⟨frame.page, ⟨frame, found, rfl⟩, dirty⟩
  · rintro ⟨page, ⟨frame, found, rfl⟩, dirty⟩
    exact ⟨frame, found, dirty⟩

theorem mem_dirtyPages : id ∈ store.dirtyPages txn ↔
    ∃ copy, (store.pageState id).cached = some copy ∧ copy.dirtiedBy = some txn := by
  rw [mem_dirtyPages_iff]
  simp only [pageState, Option.map_eq_some_iff]
  constructor
  · rintro ⟨page, cached, dirty⟩
    exact ⟨page.copy, ⟨page, cached, rfl⟩, dirty⟩
  · rintro ⟨copy, ⟨page, cached, rfl⟩, dirty⟩
    exact ⟨page, cached, dirty⟩

theorem Sound.flushTransaction (sound : store.Sound) (txn : TxnId) :
    (Becomes store (store.flushTransaction txn).2 fun id =>
        (store.pageState id).committed txn (store.takes id)) ∧
      ((store.flushTransaction txn).1 = .ok () ↔
        ∀ id copy, (store.pageState id).cached = some copy → copy.dirtiedBy = some txn →
          store.takes id = true) := by
  obtain ⟨run, result⟩ := sound.flushCommittedEach (SortedMap.nodup_keys _)
    fun id member => mem_dirtyPages.mp member
  constructor
  · apply run.congr
    intro id
    split
    · rfl
    · next clean =>
        rw [PageState.committed]
        split
        · rfl
        · next copy cached =>
            rw [if_neg fun dirty => clean (mem_dirtyPages.mpr ⟨copy, cached, dirty⟩)]
  · refine result.trans ⟨fun taken id copy cached dirty => ?_, fun taken id member => ?_⟩
    · exact taken id (mem_dirtyPages.mpr ⟨copy, cached, dirty⟩)
    · obtain ⟨copy, cached, dirty⟩ := mem_dirtyPages.mp member
      exact taken id copy cached dirty

/-! ## The pages of a transaction -/

theorem mem_exclusivePages (locks : store.locks.Sound) : id ∈ store.exclusivePages txn ↔
    store.locks.mode? txn id = some .exclusive ∧ store.cached? id ≠ none := by
  simp only [exclusivePages, List.mem_filter, Bool.and_eq_true, decide_eq_true_eq,
    locks txn id, cached?, SortedMap.contains, Option.isSome_iff_ne_none, ne_eq,
    Option.map_eq_none_iff]
  constructor
  · rintro ⟨-, exclusive, cached⟩
    exact ⟨exclusive, cached⟩
  · rintro ⟨exclusive, cached⟩
    exact ⟨by simp [exclusive], exclusive, cached⟩

theorem nodup_exclusivePages : (store.exclusivePages txn).Nodup := by
  apply List.Pairwise.filter _
  rw [LockTable.heldPages]
  split
  · exact SortedMap.nodup_keys _
  · exact List.nodup_nil

/-- What applies to the pages that a transaction holds exclusively applies to
all of them, if it does nothing to pages that are not cached. -/
theorem Sound.exclusive_becomes (sound : store.Sound) {change : PageState → PageState}
    (absent : ∀ state : PageState, state.cached = none → change state = state)
    (run : Becomes store after fun id =>
      if id ∈ store.exclusivePages txn then change (store.pageState id)
      else store.pageState id) :
    Becomes store after fun id =>
      if store.locks.mode? txn id = some .exclusive then change (store.pageState id)
      else store.pageState id := by
  apply run.congr
  intro id
  by_cases exclusive : store.locks.mode? txn id = some .exclusive
  · rw [if_pos exclusive]
    by_cases present : store.cached? id = none
    · rw [absent _ (copy_of_uncached present), ite_self]
    · rw [if_pos ((mem_exclusivePages sound.locks).mpr ⟨exclusive, present⟩)]
  · rw [if_neg exclusive, if_neg fun member => exclusive ((mem_exclusivePages sound.locks).mp member).1]

/-! ## Capturing and restoring -/

theorem Sound.capturePage (sound : store.Sound) (id : PageId) :
    Becomes store (store.capturePage id) fun other =>
      if other = id then (store.pageState other).captured else store.pageState other := by
  rw [Store.capturePage]
  cases cached : store.cached? id with
  | none =>
      apply sound.becomes.congr
      intro other
      split
      · next here =>
          rw [here, PageState.captured_of_absent (copy_of_uncached cached)]
      · rfl
  | some page =>
      obtain ⟨⟨table, registered, fits⟩, -⟩ := sound.page id page cached
      obtain ⟨capturedFits, capturedCopy, run⟩ := fits.captured
      simp only [run]
      apply (sound.setPage cached registered capturedFits).congr
      intro other
      split
      · next here =>
          rw [PageState.captured, here, pageState, cached, capturedCopy]
          rfl
      · rfl

theorem Sound.captureEach {ids : List PageId} (distinct : ids.Nodup) (sound : store.Sound) :
    Becomes store (ids.foldl Store.capturePage store) fun other =>
      if other ∈ ids then (store.pageState other).captured else store.pageState other := by
  induction ids generalizing store with
  | nil => exact sound.becomes.congr fun other => by simp
  | cons id ids ih =>
      obtain ⟨fresh, distinct⟩ := List.nodup_cons.mp distinct
      have first := sound.capturePage id
      exact Becomes.cons (fun _ state => state.captured) fresh first (ih distinct first.sound)

theorem Sound.restorePage (sound : store.Sound) (txn : TxnId) (id : PageId) :
    (Becomes store (store.restorePage txn id).2 fun other =>
      if other = id then (store.pageState other).restored txn else store.pageState other) ∧
      (store.restorePage txn id).1 = .ok () := by
  rw [Store.restorePage]
  cases cached : store.cached? id with
  | none =>
      refine ⟨sound.becomes.congr fun other => ?_, rfl⟩
      split
      · next here =>
          rw [here, PageState.restored_of_absent (copy_of_uncached cached)]
      · rfl
  | some page =>
      obtain ⟨⟨table, registered, fits⟩, -⟩ := sound.page id page cached
      obtain ⟨restoredFits, restoredCopy, run⟩ := fits.restored
      have dirtyCopy : page.copy.dirtiedBy = page.dirtiedBy := rfl
      have state : (store.pageState id).restored txn =
          { store.pageState id with
            cached := some (page.copy.restored txn (store.unflushed.contains id)) } := by
        rw [PageState.restored, pageState, cached]
        rfl
      simp only [run]
      split
      · next foreign =>
          refine ⟨sound.becomes.congr fun other => ?_, rfl⟩
          split
          · next here =>
              rw [here, state, Copy.restored, dirtyCopy, if_pos foreign, pageState, cached]
              rfl
          · rfl
      · next own =>
          refine ⟨?_, rfl⟩
          have fitting : (if store.unflushed.contains id = true then
              page.restored.mark true txn else page.restored).Fits table id := by
            split
            · exact restoredFits.mark true txn
            · exact restoredFits
          apply (sound.setPage cached registered fitting).congr
          intro other
          split
          · next here =>
              rw [here, state, Copy.restored, dirtyCopy, if_neg own]
              split
              · rw [Page.copy_dirty, restoredCopy]
              · rw [restoredCopy]
          · rfl

theorem Sound.restoreEach {ids : List PageId} (distinct : ids.Nodup) (sound : store.Sound)
    (txn : TxnId) :
    (Becomes store (Store.restoreEach txn ids store).2 fun other =>
      if other ∈ ids then (store.pageState other).restored txn else store.pageState other) ∧
      (Store.restoreEach txn ids store).1 = .ok () := by
  induction ids generalizing store with
  | nil => exact ⟨sound.becomes.congr fun other => by simp, rfl⟩
  | cons id ids ih =>
      obtain ⟨fresh, distinct⟩ := List.nodup_cons.mp distinct
      obtain ⟨first, result⟩ := sound.restorePage txn id
      obtain ⟨rest, results⟩ := ih distinct first.sound
      exact ⟨Becomes.cons (fun _ state => state.restored txn) fresh first rest,
        firstError_eq_ok.mpr ⟨result, results⟩⟩

/-! ## Ends of transactions -/

structure Ends (store after : Store) (txn : TxnId) : Prop where
  locks : after.locks = (store.locks.releaseAll txn).2
  sound : after.Sound
  still : Still { store with locks := after.locks } after

theorem Becomes.ends {states : PageId → PageState} (run : Becomes store after states)
    (txn : TxnId) :
    Ends store (after.releaseAll txn) txn ∧
      ∀ id, (after.releaseAll txn).pageState id = states id := by
  refine ⟨⟨?_, ⟨run.sound.catalog, run.sound.locks.releaseAll, run.sound.page⟩, ⟨⟨run.still.catalog, run.still.unwritable, run.still.capacity,
    run.still.counts⟩, rfl, run.still.policy, run.still.nextSerial, run.still.hold⟩⟩, run.page⟩
  rw [Store.releaseAll, run.still.locks]

theorem Ends.mode (ends : Ends store after txn) (sound : store.Sound) (other : TxnId)
    (id : PageId) : after.locks.mode? other id = store.outline.released txn other id := by
  rw [ends.locks, LockTable.mode?_releaseAll sound.locks]
  rfl

/-- A commit of a store is a commit of its outline.  It succeeds if the files
take every page that the transaction changed. -/
theorem Sound.commit (sound : store.Sound) (txn : TxnId) :
    Ends store (store.commit txn).2 txn ∧
      (store.commit txn).2.outline = store.outline.commit txn store.takes ∧
      ((store.commit txn).1 = .ok () ↔
        ∀ id copy, (store.pageState id).cached = some copy → copy.dirtiedBy = some txn →
          store.takes id = true) := by
  obtain ⟨flushed, result⟩ := sound.flushTransaction txn
  let middle := (store.flushTransaction txn).2
  have exclusive (id : PageId) :
      middle.locks.mode? txn id = store.locks.mode? txn id := by
    rw [show middle.locks = store.locks from flushed.still.locks]
  have captured : Becomes middle ((middle.exclusivePages txn).foldl Store.capturePage middle)
      fun id => if middle.locks.mode? txn id = some .exclusive
        then (middle.pageState id).captured else middle.pageState id := by
    exact flushed.sound.exclusive_becomes (fun _ => PageState.captured_of_absent)
      (Sound.captureEach nodup_exclusivePages flushed.sound)
  obtain ⟨ends, states⟩ := (flushed.trans captured).ends txn
  refine ⟨ends, Outline.ext (funext fun id => ?_) (funext fun other => funext fun id => ?_)
    ends.still.toContinues.lost, result⟩
  · apply (states id).trans
    rw [exclusive id, flushed.page id]
    rfl
  · exact ends.mode sound other id

theorem Sound.pageState_commit (sound : store.Sound) (txn : TxnId) (id : PageId) :
    (store.commit txn).2.pageState id =
      if store.locks.mode? txn id = some .exclusive then
        ((store.pageState id).committed txn (store.takes id)).captured
      else (store.pageState id).committed txn (store.takes id) :=
  congrFun (congrArg Outline.page (sound.commit txn).2.1) id

/-- A rollback of a store is a rollback of its outline.  It succeeds. -/
theorem Sound.abort (sound : store.Sound) (txn : TxnId) :
    Ends store (store.abort txn).2 txn ∧
      (store.abort txn).2.outline = store.outline.abort txn ∧
      (store.abort txn).1 = .ok () := by
  obtain ⟨run, result⟩ : _ ∧ (Store.restoreEach txn (store.exclusivePages txn) store).1 = _ :=
    Sound.restoreEach nodup_exclusivePages sound txn
  obtain ⟨ends, states⟩ := (sound.exclusive_becomes
    (fun _ absent => PageState.restored_of_absent absent txn) run).ends txn
  exact ⟨ends, Outline.ext (funext states)
    (funext fun other => funext fun id => ends.mode sound other id)
    ends.still.toContinues.lost, result⟩

theorem Sound.pageState_abort (sound : store.Sound) (txn : TxnId) (id : PageId) :
    (store.abort txn).2.pageState id =
      if store.locks.mode? txn id = some .exclusive then (store.pageState id).restored txn
      else store.pageState id :=
  congrFun (congrArg Outline.page (sound.abort txn).2.1) id

end TableStore.Store
