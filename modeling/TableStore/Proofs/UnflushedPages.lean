import TableStore.Proofs.CacheRuns

/-!
# Unflushed pages stay

A page is noted as unflushed when a transaction committed changes to it that could
not be written.  Whatever happens then, the page is in the cache and counts as
changed, until it is written or discarded: an eviction takes no changed page without
writing it first, a rollback that restores the page marks it again, and a table whose
pages cannot all be written keeps them all.
-/

set_option autoImplicit false

namespace TableStore

namespace Store

variable {store after : Store} {id : PageId} {page : Page} {handle : Handle}

def Noted (store : Store) : Prop :=
  ∀ id, store.unflushed.contains id = true →
    ∃ page, store.cached? id = some page ∧ page.dirtiedBy.isSome = true

/-! ## Steps of the cache -/

theorem Noted.of_cached (noted : store.Noted) (unflushed : after.unflushed = store.unflushed)
    (cached : ∀ id page, store.cached? id = some page → page.dirtiedBy.isSome = true →
      after.cached? id = some page) : after.Noted := by
  intro id inside
  rw [unflushed] at inside
  obtain ⟨page, known, dirty⟩ := noted id inside
  exact ⟨page, cached id page known dirty, dirty⟩

theorem cached?_install (page : Page) (id : PageId) :
    (store.install page).2.cached? id = if id = page.id then some page else store.cached? id := by
  rw [cached?, frames_install]
  split <;> rfl

theorem cached?_dropFrame (victim id : PageId) :
    (store.dropFrame victim).cached? id = if id = victim then none else store.cached? id := by
  rw [cached?, frames_dropFrame]
  split <;> rfl

@[simp] theorem unflushed_dropFrame (store : Store) (victim : PageId) :
    (store.dropFrame victim).unflushed = store.unflushed := by
  rw [dropFrame_eq]

@[simp] theorem unflushed_unpin (store : Store) (handle : Handle) :
    (store.unpin handle).unflushed = store.unflushed := by
  rw [unpin_eq]

theorem Noted.edit (noted : store.Noted) (fitting : store.Fitting) (edit : Edit store after) :
    after.Noted := by
  cases edit with
  | relock locks => exact noted
  | append run => exact noted
  | @write place old clean written known dirty run =>
      have own := fitting.id_eq known
      rcases writeBack_cases run with ⟨none, -, -⟩ | ⟨txn, table, disk, -, -, -, -, rfl, rfl⟩
      · rw [none] at dirty
        cases dirty
      · intro other inside
        have rest : other ≠ place ∧ store.unflushed.contains other = true := by
          have erased := SortedMap.contains_erase store.unflushed old.id other
          rw [own] at erased
          have kept : (store.unflushed.erase old.id).contains other = true := inside
          rw [own, erased] at kept
          simpa using kept
        obtain ⟨page, cached, changed⟩ := noted other rest.2
        refine ⟨page, ?_, changed⟩
        rw [← cached]
        have marked : (old.mark false txn).id = place := own
        exact (cached?_replace known marked other).trans (if_neg rest.1)
  | @note place old known dirty =>
      intro other inside
      have either := SortedMap.contains_add store.unflushed place other
      have added : (store.unflushed.add place).contains other = true := inside
      rw [either, Bool.or_eq_true, decide_eq_true_eq] at added
      rcases added with rfl | before
      · exact ⟨old, known, dirty⟩
      · exact noted other before
  | @change place old changed known fits dirty =>
      obtain ⟨table, oldFits⟩ := fitting place old known
      intro other inside
      obtain ⟨page, cached, marked⟩ := noted other inside
      rw [cached?_replace known (fits table oldFits).id]
      split
      · next here =>
          subst here
          cases cached.symm.trans known
          exact ⟨changed, rfl, dirty inside marked⟩
      · exact ⟨page, cached, marked⟩

theorem Noted.install (noted : store.Noted) (absent : store.cached? page.id = none) :
    (store.install page).2.Noted := by
  refine noted.of_cached rfl ?_
  intro other old known _
  rw [cached?_install, if_neg]
  · exact known
  · rintro rfl
    cases absent.symm.trans known

theorem Noted.step {before later : Store × List Handle} (step : CacheStep before later)
    (fitting : before.1.Fitting) (noted : before.1.Noted) : later.1.Noted := by
  cases step with
  | edit edit => exact noted.edit fitting edit
  | hit found serial =>
      refine noted.of_cached rfl ?_
      intro other old known _
      rw [cached?, SortedMap.get?_insert]
      split
      · next here =>
          rw [here, cached?_of_frame found] at known
          exact known
      · exact known
  | load absent reads room serial =>
      obtain ⟨table, -, fits, -⟩ := reads.fits
      exact noted.install (fits.id ▸ cached?_of_missing absent)
  | @swap store handles handle page old victim absent reads chosen cached clean serial =>
      obtain ⟨table, -, fits, -⟩ := reads.fits
      have vacated : (store.vacated victim).Noted := by
        refine noted.of_cached (unflushed_dropFrame _ victim) ?_
        intro other copy known dirty
        rw [Store.vacated, cached?_dropFrame, if_neg]
        · exact known
        · -- the chosen page is unchanged, so it is not one of those that are noted
          rintro rfl
          cases cached.symm.trans known
          rw [clean] at dirty
          cases dirty
      apply vacated.install
      rw [fits.id, Store.vacated, cached?_dropFrame]
      split
      · rfl
      · exact cached?_of_missing absent
  | @stray store handles handle page victim absent reads chosen uncached serial =>
      obtain ⟨table, -, fits, -⟩ := reads.fits
      have same : ({ store with policy := store.policy.evict.2 } : Store).Noted := noted
      exact same.install (fits.id ▸ cached?_of_missing absent)
  | blocked chosen => exact noted
  | spare chosen cached => exact noted
  | give live =>
      refine noted.of_cached (unflushed_unpin _ _) ?_
      intro other old known _
      rw [cached?_unpin]
      exact known
  | @discard store handles place =>
      intro other inside
      have erased := SortedMap.contains_erase store.unflushed place other
      have kept : ((store.dropFrame place).unflushed.erase place).contains other = true := inside
      rw [unflushed_dropFrame, erased] at kept
      obtain ⟨different, before⟩ : other ≠ place ∧ store.unflushed.contains other = true := by
        simpa using kept
      obtain ⟨page, cached, dirty⟩ := noted other before
      refine ⟨page, ?_, dirty⟩
      rw [← cached]
      exact (cached?_dropFrame place other).trans (if_neg different)

/-! ## Ways out of the cache -/

theorem Stays.cached_of_gone (stays : Stays store after) (gone : after.cached? id = none) :
    store.cached? id = none := by
  have same := stays.isCached id
  rw [gone] at same
  exact Option.isNone_iff_eq_none.mp (Option.isSome_eq_false_iff.mp same.symm)

theorem Fitting.evict_gone (fitting : store.Fitting) {result : Except StoreError Unit}
    (run : store.evict = (result, after)) (cached : store.cached? id = some page)
    (gone : after.cached? id = none) : ∃ written, store.writeBack page = .ok written := by
  cases makes_room run with
  | nobody => cases cached.symm.trans gone
  | stray => cases cached.symm.trans gone
  | spares => cases cached.symm.trans gone
  | leaves chosen known wrote =>
      rw [cached?_dropFrame] at gone
      split at gone
      · next here =>
          subst here
          cases cached.symm.trans known
          exact ⟨_, wrote⟩
      · have stays := (fitting.written known wrote).1.stays
        cases cached.symm.trans (stays.cached_of_gone gone)

theorem Fitting.pin_gone (fitting : store.Fitting) {place : PageId}
    {result : Except StoreError Nat} (run : store.pin place = (result, after))
    (cached : store.cached? id = some page) (gone : after.cached? id = none) :
    ∃ written, store.writeBack page = .ok written := by
  cases pin_cases run with
  | hits found =>
      rw [cached?, SortedMap.get?_insert] at gone
      split at gone
      · cases gone
      · cases cached.symm.trans gone
  | unreadable => cases cached.symm.trans gone
  | loads _ _ made =>
      rw [cached?_install] at gone
      split at gone
      · cases gone
      · rcases made with ⟨-, rfl⟩ | ⟨-, evicted⟩
        · cases cached.symm.trans gone
        · exact fitting.evict_gone evicted cached gone
  | blocked _ _ _ evicted => exact fitting.evict_gone evicted cached gone

/-- A page that is gone after a request was written first, if it had been changed. -/
theorem Fitting.attempt_gone (fitting : store.Fitting) {request : PageRequest}
    {answer : Progress PageRequest (Except StoreError Handle)}
    (run : store.attempt request = (answer, after)) (cached : store.cached? id = some page)
    (gone : after.cached? id = none) : ∃ written, store.writeBack page = .ok written := by
  have granted {result : Except StoreError Nat} {middle : Store}
      (pinned : (store.locked request).pin request.page = (result, middle))
      (left : middle.cached? id = none) : ∃ written, store.writeBack page = .ok written := by
    have locked : (store.locked request).Fitting := fitting
    obtain ⟨written, wrote⟩ := locked.pin_gone pinned cached left
    have beside := writeBack_beside store (store.locked request).locks store.policy page
    have same : (store.locked request).writeBack page = _ := beside
    cases result : store.writeBack page with
    | ok written => exact ⟨written, rfl⟩
    | error error =>
        rw [same, result] at wrote
        cases wrote
  cases attempt_cases run with
  | pins _ pinned => exact granted pinned gone
  | fails _ unpinned => exact granted unpinned ((cached?_giveBack request _ id).symm.trans gone)
  | waits => cases cached.symm.trans gone
  | deadlock => cases cached.symm.trans gone

theorem Fitting.course_gone (fitting : store.Fitting) {fetched : Option Handle}
    (course : Operation.Course store after fetched) (cached : store.cached? id = some page)
    (gone : after.cached? id = none) : ∃ written, store.writeBack page = .ok written := by
  cases course with
  | stays same =>
      subst same
      cases cached.symm.trans gone
  | asked request answer run => exact fitting.attempt_gone run cached gone
  | used request handle got changed run edits rest =>
      have unpinned := rest.stays.cached_of_gone gone
      rw [cached?_unpin] at unpinned
      exact fitting.attempt_gone run cached (edits.stays.cached_of_gone unpinned)

theorem Fitting.cached_flushPage (fitting : store.Fitting) {other : PageId}
    (different : id ≠ other) : (store.flushPage other).2.cached? id = store.cached? id := by
  unfold Store.flushPage
  split
  · rfl
  · next old known =>
      split
      · next clean written run =>
          rcases writeBack_cases run with ⟨-, rfl, rfl⟩ | ⟨txn, table, disk, -, -, -, -, rfl, rfl⟩
          · rw [setPage_self fitting known]
          · have own : (old.mark false txn).id = other :=
              (old.id_mark ..).trans (fitting.id_eq known)
            exact (cached?_replace known own id).trans (if_neg different)
      · rfl

/-- A list of pages is written up to one of them, if all of them can be written. -/
theorem Fitting.flushEach_reaches (fitting : store.Fitting) {ids rest : List PageId}
    (fresh : id ∉ ids) (run : (Store.flushEach (ids ++ id :: rest) store).1 = .ok ())
    (cached : store.cached? id = some page) :
    (Store.flushEach ids store).1 = .ok () ∧
      ∃ written, (Store.flushEach ids store).2.writeBack page = .ok written := by
  induction ids generalizing store with
  | nil =>
      refine ⟨rfl, ?_⟩
      cases wrote : store.writeBack page with
      | ok written => exact ⟨written, wrote⟩
      | error error =>
          simp only [List.nil_append, Store.flushEach, Store.flushPage, cached, wrote] at run
          cases run
  | cons first ids ih =>
      have different : id ≠ first := fun here => fresh (here ▸ List.mem_cons_self)
      have kept := fitting.cached_flushPage different
      have edits := fitting.flushPage first
      rcases flushed : store.flushPage first with ⟨error | ⟨⟩, middle⟩
      · simp only [List.cons_append, Store.flushEach, flushed] at run
        cases run
      · rw [flushed] at kept edits
        simp only [List.cons_append, Store.flushEach, flushed] at run ⊢
        exact ih (fitting.edits edits) (fun later => fresh (List.mem_cons_of_mem _ later)) run
          (kept.trans cached)

def WritesBack (store : Store) (id : PageId) : Prop :=
  ∃ ids page written, id ∉ ids ∧ store.cached? id = some page ∧
    (Store.flushEach ids store).1 = .ok () ∧
    (Store.flushEach ids store).2.writeBack page = .ok written

theorem WritesBack.now (cached : store.cached? id = some page)
    (wrote : ∃ written, store.writeBack page = .ok written) : store.WritesBack id := by
  obtain ⟨written, wrote⟩ := wrote
  exact ⟨[], page, written, List.not_mem_nil, cached, rfl, wrote⟩

theorem cached?_discard (place : PageId) :
    (store.discard place).cached? id = if id = place then none else store.cached? id :=
  cached?_dropFrame place id

theorem Fitting.evictTable_gone (fitting : store.Fitting) {table : TableId}
    (cached : store.cached? id = some page) (gone : (store.evictTable table).2.cached? id = none) :
    store.WritesBack id := by
  have edits := fitting.flushEach (store.pagesOfTable table)
  unfold Store.evictTable at gone
  rcases run : Store.flushEach (store.pagesOfTable table) store with ⟨error | ⟨⟩, flushed⟩
  · rw [run] at gone edits
    cases cached.symm.trans (edits.stays.cached_of_gone gone)
  · rw [run] at gone edits
    have listed : id ∈ flushed.pagesOfTable table := by
      by_contra absent
      have left := frames_discardEach (flushed.pagesOfTable table) flushed id
      rw [if_neg absent] at left
      have still : flushed.cached? id = none := by
        rw [cached?, ← left]
        exact gone
      cases cached.symm.trans (edits.stays.cached_of_gone still)
    have own : id.table = table := by
      have both := List.mem_filter.mp listed
      exact of_decide_eq_true both.2
    have inside : id ∈ store.pagesOfTable table := by
      obtain ⟨frame, found, -⟩ := Option.map_eq_some_iff.mp cached
      exact List.mem_filter.mpr ⟨SortedMap.mem_keys_iff.mpr ⟨frame, found⟩, decide_eq_true own⟩
    have distinct : (store.pagesOfTable table).Nodup := store.frames.nodup_keys.filter _
    obtain ⟨ids, rest, split⟩ := List.append_of_mem inside
    rw [split] at distinct run
    have fresh : id ∉ ids := fun earlier =>
      (List.nodup_append.mp distinct).2.2 id earlier id List.mem_cons_self rfl
    obtain ⟨done, written, wrote⟩ :=
      fitting.flushEach_reaches fresh (by rw [run]) cached
    exact ⟨ids, page, written, fresh, cached, done, wrote⟩

end Store

namespace System

variable {system : System} {id : PageId} {page : Page}

/-- A page leaves the cache by being discarded, or is written back before. -/
theorem carry_gone (fitting : system.store.Fitting) (cached : system.store.cached? id = some page)
    (deed : Deed) (gone : (system.carry deed).store.cached? id = none) :
    deed = .discard id ∨ system.store.WritesBack id := by
  have edited {after : Store} (edits : Store.Edits system.store after)
      (left : after.cached? id = none) : False := by
    cases cached.symm.trans (edits.stays.cached_of_gone left)
  cases deed with
  | act action =>
      have effect := system.effect_perform action
      rw [System.carry] at gone
      generalize (system.perform action).store = after at effect gone
      cases effect with
      | idles => cases cached.symm.trans gone
      | begins run => exact absurd gone (edited (Call.start_edits run))
      | @advances _ operation _ _ busy run =>
          exact .inr (.now cached (fitting.course_gone (operation.course fitting run) cached gone))
      | drops live =>
          rw [Store.cached?_unpin] at gone
          cases cached.symm.trans gone
      | commits => exact absurd gone (edited (fitting.commit _))
      | aborts => exact absurd gone (edited (Store.edits_abort _ _))
      | flushes => exact absurd gone (edited (fitting.flushPage _))
      | flushesAll => exact absurd gone (edited (fitting.flushEach _))
      | faults => cases cached.symm.trans gone
  | commit txn => exact absurd gone (edited (fitting.commit txn))
  | abort txn => exact absurd gone (edited (Store.edits_abort _ txn))
  | flushTransaction txn => exact absurd gone (edited (fitting.flushCommittedEach _))
  | discard place =>
      left
      have rest : (system.store.discard place).cached? id =
          if id = place then none else system.store.cached? id := Store.cached?_discard place
      by_cases here : id = place
      · rw [here]
      · rw [if_neg here, cached] at rest
        cases rest.symm.trans gone
  | evictTable table => exact .inr (fitting.evictTable_gone cached gone)
  | outside disk catalog unwritable => cases cached.symm.trans gone

/-- Whatever is done to a store whose cache was empty, each page that is noted as
unflushed is in the cache and counts as changed; and it leaves the cache only if it
is discarded or written back. -/
theorem unflushed_pages_stay (disk : Disk) (catalog : Catalog) (capacity : Nat)
    (policy : EvictionPolicy) (deeds : List Deed) :
    let system := ({ store := { disk, catalog, capacity, policy } } : System).carryAll deeds
    ∀ id, system.store.unflushed.contains id = true →
      (∃ page, system.store.cached? id = some page ∧ page.dirtiedBy.isSome = true) ∧
      ∀ deed, (system.carry deed).store.cached? id = none →
        deed = .discard id ∨ system.store.WritesBack id := by
  let start : System := { store := { disk, catalog, capacity, policy } }
  have fitting : start.store.Fitting := Store.fitting_of_empty rfl
  have noted : start.store.Noted := by
    intro id inside
    cases inside
  have kept := carryAll_keeps (fun _ _ form step => Store.Noted.step step form)
    (fun _ _ _ _ _ noted => noted) fitting noted deeds
  intro system id inside
  obtain ⟨page, cached, dirty⟩ := kept.2 id inside
  exact ⟨⟨page, cached, dirty⟩, fun deed => carry_gone kept.1 cached deed⟩

end System

end TableStore
