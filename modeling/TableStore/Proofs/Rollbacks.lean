import TableStore.Proofs.Uses

/-!
# Rollbacks

What a rollback returns to is always a page that can be read, so no rollback fails.  A
commit makes the present content of its pages the one that later rollbacks return to, and
that never fails either: all that can go wrong in a commit is writing a page back.
-/

set_option autoImplicit false

namespace TableStore

def Page.SameRows (page after : Page) : Prop :=
  after = { page with dirtiedBy := after.dirtiedBy, image := after.image }

namespace Page.SameRows

variable {page middle after : Page}

theorem refl (page : Page) : page.SameRows page := rfl

theorem trans (first : page.SameRows middle) (second : middle.SameRows after) :
    page.SameRows after := by
  rw [SameRows] at first second ⊢
  rw [second, first]

theorem mark (page : Page) (dirty : Bool) (txn : TxnId) :
    page.SameRows (page.mark dirty txn) := rfl

theorem captured (page : Page) : page.SameRows page.captured := by
  rw [Page.captured, Page.capture]
  cases page.encode <;> rfl

end Page.SameRows

theorem Page.Fits.encode_captured {page : Page} {table : Table} {id : PageId}
    (fits : page.Fits table id) : page.captured.encode = .ok page.captured.image := by
  obtain ⟨bytes, encoded, -⟩ := fits.sound.encode_decode
  have captured : page.captured = { page with image := bytes } := by
    rw [Page.captured, Page.capture, encoded]
  rw [captured]
  exact encoded

namespace Store

variable {store after written : Store} {txn : TxnId} {id other : PageId} {page clean : Page}
  {error : StoreError}

/-! ## Rollbacks -/

theorem Fitting.restorePage_ok (fitting : store.Fitting) (txn : TxnId) (id : PageId) :
    (store.restorePage txn id).1 = .ok () := by
  unfold Store.restorePage
  split
  · rfl
  · next page cached =>
      split
      · rfl
      · obtain ⟨table, fits⟩ := fitting id page cached
        rw [fits.restored.2.2]

theorem Fitting.restoreEach_ok (fitting : store.Fitting) (txn : TxnId) (ids : List PageId) :
    (restoreEach txn ids store).1 = .ok () := by
  induction ids generalizing store with
  | nil => rfl
  | cons id ids ih =>
      have first := fitting.restorePage_ok txn id
      have rest := ih (fitting.edits (edits_restorePage store txn id))
      change firstError (store.restorePage txn id).1
        (restoreEach txn ids (store.restorePage txn id).2).1 = .ok ()
      rw [first, rest]
      rfl

theorem Fitting.abort_ok (fitting : store.Fitting) (txn : TxnId) :
    (store.abort txn).1 = .ok () :=
  fitting.restoreEach_ok txn _

/-! ## Write-backs -/

/-- Why a page that was changed cannot be written back: its table is not registered, the
file of its table does not take the bytes, or it takes nothing at this place. -/
inductive Unwritten (store : Store) (id : PageId) (page : Page) : StoreError → Prop
  | table (missing : store.catalog.tables.get? id.table = none) :
      Unwritten store id page (.noSuchTable id.table)
  | file {table : Table} {bytes : Bytes} {fault : IoFault}
      (registered : store.catalog.tables.get? id.table = some table)
      (encoded : page.encode = .ok bytes)
      (refused : (table.pages store.disk).write id.number bytes = .error fault) :
      Unwritten store id page (.io fault)
  | place {text : String} (blocked : store.unwritable.get? id = some text) :
      Unwritten store id page (.io (.other text))

theorem Unwritten.congr (unwritten : after.Unwritten id page error)
    (catalog : after.catalog = store.catalog) (unwritable : after.unwritable = store.unwritable) :
    ({ store with disk := after.disk }).Unwritten id page error := by
  cases unwritten with
  | table missing => exact .table (catalog ▸ missing)
  | file registered encoded refused => exact .file (catalog ▸ registered) encoded refused
  | place blocked => exact .place (unwritable ▸ blocked)

theorem Fitting.writeBack_error (fitting : store.Fitting)
    (own : ∀ id table, store.catalog.tables.get? id = some table → table.id = id)
    (cached : store.cached? id = some page) (run : store.writeBack page = .error error) :
    store.Unwritten id page error := by
  obtain ⟨form, fits⟩ := fitting id page cached
  obtain ⟨bytes, encoded, -⟩ := fits.sound.encode_decode
  unfold writeBack at run
  split at run
  · cases run
  · cases registered : store.catalog.tables.get? id.table with
    | none =>
        simp only [Catalog.table, fits.id, registered, bind, Except.bind] at run
        cases run
        exact .table registered
    | some table =>
        have mine : table.id = id.table := own _ _ registered
        cases write : (table.pages store.disk).write id.number bytes with
        | error fault =>
            simp only [Catalog.table, fits.id, registered, Table.writePage, Table.checkPage, mine,
              if_true, encoded, write, bind, Except.bind] at run
            cases run
            exact .file registered encoded write
        | ok file =>
            simp only [Catalog.table, fits.id, registered, Table.writePage, Table.checkPage, mine,
              if_true, encoded, write, bind, Except.bind] at run
            split at run
            · next blocked =>
                cases run
                exact .place blocked
            · cases run

theorem Fitting.flushCommitted_error (fitting : store.Fitting)
    (own : ∀ id table, store.catalog.tables.get? id = some table → table.id = id)
    (run : (store.flushCommitted id).1 = .error error) :
    ∃ page, store.cached? id = some page ∧ store.Unwritten id page error := by
  unfold Store.flushCommitted at run
  split at run
  · cases run
  · next page cached =>
      split at run
      · next failed =>
          cases run
          exact ⟨page, cached, fitting.writeBack_error own cached failed⟩
      · next clean written wrote =>
          obtain ⟨edits, known, -⟩ := fitting.written cached wrote
          obtain ⟨captured, captures⟩ := (fitting.edits edits).capture known
          rw [captures] at run
          cases run

/-- A page that a commit comes to is written and captured, or stays as it is.  It does
nothing to the others. -/
theorem Fitting.cached_flushCommitted (fitting : store.Fitting) (id : PageId)
    (found : store.cached? other = some page) : ∃ after,
      (store.flushCommitted id).2.cached? other = some after ∧ page.SameRows after ∧
        (other ≠ id → after = page) ∧
        (other = id → after.dirtiedBy = none → after.encode = .ok after.image) := by
  have edits := fitting.flushCommitted id
  have present := edits.stays.isCached other
  rw [found, Option.isSome_some, Option.isSome_iff_exists] at present
  obtain ⟨last, known⟩ := present
  refine ⟨last, known, ?_⟩
  unfold Store.flushCommitted at known
  split at known
  · next missing =>
      cases found.symm.trans known
      refine ⟨.refl page, fun _ => rfl, ?_⟩
      rintro rfl
      cases missing.symm.trans found
  · next old cached =>
      split at known
      · next failed =>
          have same : store.cached? other = some last := known
          cases found.symm.trans same
          refine ⟨.refl page, fun _ => rfl, ?_⟩
          rintro rfl unchanged
          cases cached.symm.trans found
          have changed := dirty_of_writeBack_error failed
          rw [unchanged] at changed
          cases changed
      · next clean written wrote =>
          obtain ⟨writes, stored, -⟩ := fitting.written cached wrote
          obtain ⟨table, fits⟩ := fitting.edits writes id clean stored
          obtain ⟨captured, -, captures⟩ := fits.captured
          rw [captures] at known
          have frames : written.cached? = store.cached? := by
            rcases writeBack_cases wrote with ⟨-, -, rfl⟩ | ⟨_, _, _, -, -, -, -, -, rfl⟩ <;> rfl
          have before : written.cached? id = some old := frames ▸ cached
          have rows : old.SameRows clean := by
            rcases writeBack_cases wrote with ⟨-, rfl, -⟩ | ⟨txn, _, _, -, -, -, -, rfl, -⟩
            · exact .refl _
            · exact .mark old false txn
          have after : (if other = id then some clean.captured else written.cached? other) =
              some last := (cached?_replace before captured.id other).symm.trans known
          split at after
          · next here =>
              cases after
              subst here
              cases cached.symm.trans found
              exact ⟨rows.trans (.captured clean), fun different => absurd rfl different,
                fun _ _ => fits.encode_captured⟩
          · next different =>
              rw [frames] at after
              cases found.symm.trans after
              exact ⟨.refl page, fun _ => rfl, fun here => absurd here different⟩

theorem Fitting.flushCommittedEach_error (fitting : store.Fitting)
    (own : ∀ id table, store.catalog.tables.get? id = some table → table.id = id)
    {ids : List PageId} (distinct : ids.Nodup)
    (run : (Store.flushCommittedEach ids store).1 = .error error) :
    ∃ id ∈ ids, ∃ page disk, store.cached? id = some page ∧ store.disk.GrowsTo disk ∧
      ({ store with disk }).Unwritten id page error := by
  induction ids generalizing store with
  | nil => cases run
  | cons id ids ih =>
      obtain ⟨fresh, distinct⟩ := List.nodup_cons.mp distinct
      change firstError (store.flushCommitted id).1
        (Store.flushCommittedEach ids (store.flushCommitted id).2).1 = .error error at run
      cases first : (store.flushCommitted id).1 with
      | error failure =>
          rw [first] at run
          cases run
          obtain ⟨page, cached, unwritten⟩ := fitting.flushCommitted_error own first
          exact ⟨id, List.mem_cons_self, page, store.disk, cached, .refl _, unwritten⟩
      | ok =>
          rw [first] at run
          have edits := fitting.flushCommitted id
          have stays := edits.stays
          obtain ⟨later, member, page, disk, cached, grows, unwritten⟩ :=
            ih (fitting.edits edits) (stays.catalog ▸ own) distinct run
          have different : later ≠ id := fun same => fresh (same ▸ member)
          have present := stays.isCached later
          rw [cached, Option.isSome_some, eq_comm, Option.isSome_iff_exists] at present
          obtain ⟨old, known⟩ := present
          obtain ⟨after, found, -, unchanged, -⟩ := fitting.cached_flushCommitted id known
          cases found.symm.trans cached
          rw [unchanged different] at unwritten
          exact ⟨later, List.mem_cons_of_mem _ member, old, disk, known,
            stays.disk.trans grows, unwritten.congr stays.catalog stays.unwritable⟩

theorem Fitting.cached_flushCommittedEach (fitting : store.Fitting) (ids : List PageId)
    (found : store.cached? id = some page) : ∃ after,
      (Store.flushCommittedEach ids store).2.cached? id = some after ∧ page.SameRows after ∧
        (id ∉ ids → after = page) ∧
        (id ∈ ids → after.dirtiedBy = none → after.encode = .ok after.image) := by
  induction ids generalizing store page with
  | nil => exact ⟨page, found, .refl page, fun _ => rfl, nofun⟩
  | cons first ids ih =>
      obtain ⟨middle, known, rows, unchanged, fresh⟩ := fitting.cached_flushCommitted first found
      obtain ⟨after, cached, rest, kept, captured⟩ :=
        ih (fitting.edits (fitting.flushCommitted first)) known
      refine ⟨after, cached, rows.trans rest, ?_, ?_⟩
      · intro absent
        have different : id ≠ first := fun here => absent (here ▸ List.mem_cons_self)
        rw [kept fun later => absent (List.mem_cons_of_mem _ later), unchanged different]
      · intro member clean
        by_cases later : id ∈ ids
        · exact captured later clean
        · rw [kept later] at clean ⊢
          exact fresh ((List.mem_cons.mp member).resolve_right later) clean

/-! ## Commits -/

theorem Fitting.cached_capturePage (fitting : store.Fitting) (id other : PageId) :
    (store.capturePage id).cached? other =
      if other = id then (store.cached? other).map Page.captured else store.cached? other := by
  unfold Store.capturePage
  split
  · next missing =>
      split
      · next here => rw [here, missing, Option.map_none]
      · rfl
  · next page cached =>
      obtain ⟨table, fits⟩ := fitting id page cached
      obtain ⟨captured, -, captures⟩ := fits.captured
      rw [captures]
      have after : (store.setPage page.captured).cached? other = _ :=
        cached?_replace cached captured.id other
      rw [after]
      split
      · next here => rw [here, cached, Option.map_some]
      · rfl

theorem Fitting.cached_captureEach (fitting : store.Fitting) {ids : List PageId}
    (distinct : ids.Nodup) (other : PageId) : (ids.foldl Store.capturePage store).cached? other =
      if other ∈ ids then (store.cached? other).map Page.captured else store.cached? other := by
  induction ids generalizing store with
  | nil => rfl
  | cons id ids ih =>
      obtain ⟨fresh, distinct⟩ := List.nodup_cons.mp distinct
      have rest := ih (fitting.edits (edits_capturePage store id)) distinct
      rw [List.foldl_cons, rest, fitting.cached_capturePage]
      by_cases here : other = id
      · subst here
        simp [fresh]
      · simp [here]

/-- A commit changes no row, and makes the content of each page that it writes or that
its transaction holds exclusively the one that a rollback returns to. -/
theorem Fitting.cached_commit (fitting : store.Fitting) (locks : store.locks.Sound)
    (txn : TxnId) (found : store.cached? id = some page) : ∃ after,
      (store.commit txn).2.cached? id = some after ∧ page.SameRows after ∧
        (store.locks.mode? txn id = some .exclusive ∨
          page.dirtiedBy = some txn ∧ after.dirtiedBy = none →
            after.encode = .ok after.image) := by
  have edits : Edits store (store.flushTransaction txn).2 := fitting.flushCommittedEach _
  have flushed := fitting.edits edits
  have sameLocks : (store.flushTransaction txn).2.locks = store.locks :=
    locks_flushCommittedEach _ store
  obtain ⟨middle, known, rows, -, fresh⟩ :=
    fitting.cached_flushCommittedEach (store.dirtyPages txn) found
  have kept : (store.flushTransaction txn).2.cached? id = some middle := known
  have distinct : ((store.flushTransaction txn).2.exclusivePages txn).Nodup :=
    nodup_exclusivePages
  have after : (store.commit txn).2.cached? id = _ := flushed.cached_captureEach distinct id
  have exclusive : id ∈ (store.flushTransaction txn).2.exclusivePages txn ↔
      store.locks.mode? txn id = some .exclusive := by
    rw [mem_exclusivePages (sameLocks ▸ locks), sameLocks, kept]
    simp
  rw [kept, Option.map_some] at after
  obtain ⟨table, fits⟩ := flushed id middle kept
  split at after
  · exact ⟨_, after, rows.trans (.captured middle), fun _ => fits.encode_captured⟩
  · next free =>
      refine ⟨middle, after, rows, ?_⟩
      rintro (held | ⟨dirty, clean⟩)
      · exact absurd (exclusive.mpr held) free
      · exact fresh (mem_dirtyPages_iff.mpr ⟨page, found, dirty⟩) clean

theorem Fitting.commit_error (fitting : store.Fitting)
    (own : ∀ id table, store.catalog.tables.get? id = some table → table.id = id)
    (run : (store.commit txn).1 = .error error) :
    ∃ id page disk, store.cached? id = some page ∧ page.dirtiedBy = some txn ∧
      store.disk.GrowsTo disk ∧ ({ store with disk }).Unwritten id page error := by
  obtain ⟨id, member, page, disk, cached, grows, unwritten⟩ :=
    fitting.flushCommittedEach_error own (SortedMap.nodup_keys _) run
  obtain ⟨same, known, dirty⟩ := mem_dirtyPages_iff.mp member
  cases known.symm.trans cached
  exact ⟨id, page, disk, cached, dirty, grows, unwritten⟩

end Store

namespace System

/-- Whatever is done to a store, every rollback succeeds, since what every cached page
returns to is a page again.  A commit always makes the content of its pages the one that
a rollback returns to; it fails only if a page that its transaction changed cannot be
written back. -/
theorem rollbacks_never_fail (disk : Disk) (capacity : Nat) (policy : EvictionPolicy)
    (uses : List Use) (txn : TxnId) :
    let store := (({ store := { disk, capacity, policy } } : System).useAll uses).store
    (store.abort txn).1 = .ok () ∧
    (∀ id page, store.cached? id = some page → ∃ restored,
      Page.decode page.id page.schema page.size page.image = .ok restored) ∧
    (∀ id page, store.cached? id = some page → ∃ after,
      (store.commit txn).2.cached? id = some after ∧ page.SameRows after ∧
        (store.locks.mode? txn id = some .exclusive ∨
          page.dirtiedBy = some txn ∧ after.dirtiedBy = none →
            after.encode = .ok after.image)) ∧
    ∀ error, (store.commit txn).1 = .error error →
      ∃ id page disk, store.cached? id = some page ∧ page.dirtiedBy = some txn ∧
        store.disk.GrowsTo disk ∧ ({ store with disk }).Unwritten id page error := by
  intro store
  have ordered := (ordered_start disk capacity policy).useAll uses
  refine ⟨ordered.fitting.abort_ok txn, ?_, ?_, ?_⟩
  · intro id page cached
    obtain ⟨table, fits⟩ := ordered.fitting id page cached
    exact ⟨page.restored, fits.restored.2.2⟩
  · intro id page cached
    exact ordered.fitting.cached_commit ordered.locks txn cached
  · intro error run
    exact ordered.fitting.commit_error ordered.tables run

end System

end TableStore
