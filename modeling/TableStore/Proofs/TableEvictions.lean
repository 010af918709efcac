import TableStore.Proofs.ChangeOwners
import TableStore.Proofs.LoneVisits

/-!
# The pages of a table leave the cache

The cached pages of a table are written one after the other.  If a stuck page is among
them this ends there, and all pages stay in the cache with the same rows.  Otherwise
they leave the cache, each in its file as it looked before, and every other page stays as
it is.
-/

set_option autoImplicit false

namespace TableStore

namespace EvictionPolicy

theorem Ordered.nodup {policy : EvictionPolicy} (ordered : policy.Ordered) :
    policy.order.Nodup := by
  obtain ⟨queue, rfl, sound⟩ := ordered
  exact sound.nodup_byAge

end EvictionPolicy

namespace Store

variable {store middle after : Store} {id : PageId} {page : Page} {txn : TxnId} {copy : Copy}
  {ids rest : List PageId} {table : TableId} {handles : List Handle}

/-! ## One page is written -/

theorem stuck_eq (store : Store) (id : PageId) : store.stuck id =
    (store.pageState id).cached.any fun copy => copy.dirtiedBy.isSome && !store.takes id := by
  rw [stuck, pageState, Option.any_map]
  rfl

theorem frames_flushPage (fitting : store.Fitting) (id : PageId) {other : PageId}
    (different : other ≠ id) :
    (store.flushPage id).2.frames.get? other = store.frames.get? other := by
  cases cached : store.cached? id with
  | none => simp only [flushPage, cached]
  | some page =>
      have own := fitting.id_eq cached
      rcases run : store.writeBack page with error | ⟨clean, written⟩
      · simp only [flushPage, cached, run]
      · simp only [flushPage, cached, run]
        rcases writeBack_cases run with ⟨-, rfl, rfl⟩ | ⟨_, _, _, -, -, -, -, rfl, rfl⟩
        · exact frames_setPage_other (own ▸ different)
        · exact frames_setPage_other
            (show other ≠ (page.mark false _).id from own ▸ different)

theorem Sound.flushPage_stuck (sound : store.Sound) (stuck : store.stuck id = true) :
    ∃ fault, store.unwritable.get? id = some fault ∧
      store.flushPage id = (.error (.io (.other fault)), store) := by
  cases cached : store.cached? id with
  | none =>
      rw [stuck_of_uncached cached] at stuck
      cases stuck
  | some page =>
      obtain ⟨fault, refused, failed⟩ := sound.writeBack_stuck cached stuck
      refine ⟨fault, refused, ?_⟩
      simp only [Store.flushPage, cached, failed]

theorem Sound.flushPage_moves (sound : store.Sound) (moves : store.stuck id = false) :
    (store.flushPage id).1 = .ok () ∧
      ∀ page, (store.flushPage id).2.cached? id = some page → page.dirtiedBy = none := by
  have replaced {written : Store} {old clean : Page} (own : clean.id = id)
      (known : written.cached? id = some old) (unchanged : clean.dirtiedBy = none) (page : Page)
      (found : (written.setPage clean).cached? id = some page) : page.dirtiedBy = none := by
    have present : written.cached? clean.id ≠ none := by
      rw [own, known]
      exact Option.some_ne_none old
    rw [cached?_setPage present, if_pos own.symm] at found
    exact Option.some.inj found ▸ unchanged
  rw [Store.flushPage]
  cases cached : store.cached? id with
  | none =>
      exact ⟨rfl, fun page found =>
        absurd (cached.symm.trans found) (Option.some_ne_none page).symm⟩
  | some page =>
      have own := sound.fitting.id_eq cached
      cases dirty : page.dirtiedBy with
      | none =>
          have run : store.writeBack page = .ok (page, store) := by rw [Store.writeBack, dirty]
          simp only [run]
          exact ⟨trivial, replaced own cached dirty⟩
      | some txn =>
          rcases sound.writeBack cached dirty with
            ⟨fault, refused, -⟩ | ⟨-, written, run, -, frames⟩
          · rw [Store.stuck, cached, Option.any_some, dirty, takes_of_refused refused] at moves
            cases moves
          · simp only [run]
            have still : written.cached? id = some page := by
              rw [cached?, frames]
              exact cached
            exact ⟨trivial, replaced own still rfl⟩

/-! ## Pages are written one after the other -/

/-- Some of the given pages were written, as a rollback would have them, and nothing else
has changed. -/
structure Flushes (store after : Store) (ids : List PageId) : Prop extends Still store after where
  sound : after.Sound
  backed : after.Backed
  resolved : after.Resolved
  state : ∀ id, after.pageState id = store.pageState id ∨
    id ∈ ids ∧ store.stuck id = false ∧ ∃ copy, (store.pageState id).cached = some copy ∧
      after.pageState id = ⟨some { copy with dirtiedBy := none }, .ok copy.contents, false⟩
  frames : ∀ id, id ∉ ids → after.frames.get? id = store.frames.get? id

theorem Flushes.look (flushes : Flushes store after ids) (id : PageId) :
    (after.pageState id).look = (store.pageState id).look := by
  rcases flushes.state id with same | ⟨-, -, copy, cached, written⟩
  · rw [same]
  · rw [written, PageState.look_of_cached cached]
    rfl

theorem Flushes.contents (flushes : Flushes store after ids) (id : PageId) :
    (after.cached? id).map Page.contents = (store.cached? id).map Page.contents := by
  have seen (store : Store) : (store.cached? id).map Page.contents =
      (store.pageState id).cached.map Copy.contents := by
    rw [pageState, Option.map_map]
    rfl
  rw [seen, seen]
  rcases flushes.state id with same | ⟨-, -, copy, cached, written⟩
  · rw [same]
  · rw [written, cached]
    rfl

theorem Flushes.stuck (flushes : Flushes store after ids) : after.stuck = store.stuck := by
  funext id
  rcases flushes.state id with same | ⟨-, moves, copy, -, written⟩
  · rw [stuck_eq, stuck_eq, same, flushes.takes]
  · rw [moves, stuck_eq, written]
    rfl

theorem Flushes.clean (flushes : Flushes store after ids)
    (clean : ∀ copy, (store.pageState id).cached = some copy → copy.dirtiedBy = none)
    (cached : (after.pageState id).cached = some copy) : copy.dirtiedBy = none := by
  rcases flushes.state id with same | ⟨-, -, old, -, written⟩
  · exact clean copy (same ▸ cached)
  · rw [written] at cached
    cases cached
    rfl

theorem Flushes.trans (first : Flushes store middle ids) (second : Flushes middle after rest) :
    Flushes store after (ids ++ rest) where
  toStill := first.toStill.trans second.toStill
  sound := second.sound
  backed := second.backed
  resolved := second.resolved
  state id := by
    rcases second.state id with same | ⟨listed, moves, copy, cached, written⟩
    · rw [same]
      exact (first.state id).imp_right fun ⟨listed, known⟩ =>
        ⟨List.mem_append_left rest listed, known⟩
    · rw [first.stuck] at moves
      rcases first.state id with same | ⟨-, -, old, known, before⟩
      · exact .inr ⟨List.mem_append_right ids listed, moves, copy, same ▸ cached, written⟩
      · rw [before] at cached
        cases cached
        exact .inr ⟨List.mem_append_right ids listed, moves, old, known, written⟩
  frames id unlisted := by
    rw [List.mem_append, not_or] at unlisted
    exact (second.frames id unlisted.2).trans (first.frames id unlisted.1)

section

variable (sound : store.Sound) (addressable : store.Addressable) (backed : store.Backed)
  (resolved : store.Resolved)

include sound backed resolved

theorem Resolved.flushes (ids : List PageId) : Flushes store store ids :=
  ⟨.refl store, sound, backed, resolved, fun _ => .inl rfl, fun _ _ => rfl⟩

include addressable

theorem Resolved.flushPage (id : PageId) : Flushes store (store.flushPage id).2 [id] := by
  have same : (∀ other, (store.flushPage id).2.pageState other = store.pageState other) →
      (store.flushPage id).2.Resolved := by
    intro unchanged other copy cached
    exact resolved other copy (unchanged other ▸ cached)
  have frames (other : PageId) (unlisted : other ∉ [id]) :=
    frames_flushPage sound.fitting id fun here => unlisted (List.mem_singleton.mpr here)
  cases moves : store.stuck id with
  | true =>
      obtain ⟨fault, -, run⟩ := sound.flushPage_stuck moves
      rw [run]
      exact resolved.flushes sound backed [id]
  | false =>
      rcases sound.flushPage id with becomes | ⟨copy, txn, cached, dirty, becomes⟩
      · refine ⟨becomes.still, becomes.sound, fun other => ?_, same becomes.page,
          fun other => .inl (becomes.page other), frames⟩
        rw [becomes.page, becomes.still.locks]
        exact backed other
      · obtain ⟨before, stored⟩ := sound.filed_copy addressable cached
        have filed := PageState.filed_of_stored stored copy.contents
        refine ⟨becomes.still, becomes.sound, fun other => ?_, fun other old known => ?_,
          fun other => ?_, frames⟩
        · rw [becomes.page, becomes.still.locks]
          split
          · refine ⟨?_, ?_, ?_⟩
            · rintro written ⟨⟩ -
              exact filed.trans (congrArg Except.ok (resolved id copy cached))
            · rintro written ⟨⟩ -
              exact filed
            · rintro written owner ⟨⟩ ⟨⟩
          · exact backed other
        · rw [becomes.page] at known
          split at known
          · cases known
            exact resolved id copy cached
          · exact resolved other old known
        · rw [becomes.page]
          split
          · next here =>
              subst here
              refine .inr ⟨List.mem_singleton_self other, moves, copy, cached, ?_⟩
              rw [PageState.written, filed]
          · exact .inl rfl

theorem Resolved.flushEach (ids : List PageId) :
    Flushes store (Store.flushEach ids store).2 ids ∧
      (((Store.flushEach ids store).1 = .ok () ∧ ∀ id ∈ ids, store.stuck id = false ∧
        ∀ copy, ((Store.flushEach ids store).2.pageState id).cached = some copy →
          copy.dirtiedBy = none) ∨
      ∃ id ∈ ids, ∃ fault, store.stuck id = true ∧ store.unwritable.get? id = some fault ∧
        (Store.flushEach ids store).1 = .error (.io (.other fault))) := by
  induction ids generalizing store with
  | nil => exact ⟨resolved.flushes sound backed [], .inl ⟨rfl, nofun⟩⟩
  | cons id ids ih =>
      have first := resolved.flushPage sound addressable backed id
      rw [Store.flushEach]
      cases moves : store.stuck id with
      | true =>
          obtain ⟨fault, refused, run⟩ := sound.flushPage_stuck moves
          rw [run]
          exact ⟨resolved.flushes sound backed (id :: ids),
            .inr ⟨id, List.mem_cons_self, fault, moves, refused, rfl⟩⟩
      | false =>
          obtain ⟨done, clean⟩ := sound.flushPage_moves moves
          rcases run : store.flushPage id with ⟨result, middle⟩
          rw [run] at first done clean
          obtain rfl : result = .ok () := done
          have numbered := first.toContinues.addressable addressable
          obtain ⟨later, ends⟩ := ih first.sound numbered first.backed first.resolved
          rw [first.stuck, first.unwritable] at ends
          refine ⟨first.trans later, ?_⟩
          rcases ends with ⟨works, all⟩ | ⟨other, listed, known⟩
          · refine .inl ⟨works, ?_⟩
            intro other listed
            rcases List.mem_cons.mp listed with rfl | listed
            · refine ⟨moves, fun copy cached => later.clean ?_ cached⟩
              intro old known
              obtain ⟨page, found, rfl⟩ := cached_of_pageState known
              exact clean page found
            · exact all other listed
          · exact .inr ⟨other, List.mem_cons_of_mem id listed, known⟩

end

/-! ## Pages are dropped -/

structure Discards (store after : Store) (ids : List PageId) : Prop
    extends Continues store after where
  sound : after.Sound
  locks : after.locks = store.locks
  state : ∀ id, after.pageState id =
    if id ∈ ids then ⟨none, (store.pageState id).stored, false⟩ else store.pageState id
  frames : ∀ id, after.frames.get? id = if id ∈ ids then none else store.frames.get? id
  ordered : store.policy.Ordered → after.policy.Ordered ∧
    after.policy.order = store.policy.order.filter (decide <| · ∉ ids)

theorem Sound.discard (sound : store.Sound) (id : PageId) :
    Discards store (store.discard id) [id] := by
  obtain ⟨leaves, state, policy⟩ := sound.dropFrame id
  have stored (other : PageId) : (store.discard id).stored other = store.stored other := by
    have same : (store.discard id).stored other = (store.dropFrame id).stored other := rfl
    rw [same]
    by_cases here : other = id
    · rw [here]
      exact congrArg PageState.stored state
    · exact congrArg PageState.stored (leaves.page other here)
  have frames (other : PageId) : (store.discard id).frames.get? other =
      if other ∈ [id] then none else store.frames.get? other := by
    simp only [List.mem_singleton]
    exact leaves.frames other
  refine ⟨⟨leaves.catalog, leaves.unwritable, leaves.capacity, leaves.counts⟩,
    ⟨leaves.sound.catalog, leaves.sound.locks, leaves.sound.page⟩,
    leaves.locks, fun other => ?_, frames, fun ordered => ?_⟩
  · have unflushed : (store.discard id).unflushed.contains other =
        (!decide (other = id) && (store.dropFrame id).unflushed.contains other) :=
      SortedMap.contains_erase _ id other
    rw [pageState, unflushed, stored, cached?, frames]
    by_cases here : other = id
    · simp [here, pageState]
    · have same := leaves.page other here
      simp only [List.mem_singleton, here, if_false, decide_false, Bool.not_false,
        Bool.true_and]
      rw [show (store.dropFrame id).unflushed.contains other = store.unflushed.contains other
        from congrArg PageState.unflushed same]
      rfl
  · obtain ⟨after, order⟩ := ordered.pin id
    have removed : (store.discard id).policy = store.policy.pin id :=
      congrArg (EvictionPolicy.remove · id) policy
    rw [removed, order, ordered.nodup.erase_eq_filter]
    refine ⟨after, List.filter_congr fun other _ => ?_⟩
    simp only [List.mem_singleton, decide_not, bne, beq_eq_decide]

theorem Discards.trans (first : Discards store middle ids) (second : Discards middle after rest) :
    Discards store after (ids ++ rest) where
  toContinues := first.toContinues.trans second.toContinues
  sound := second.sound
  locks := second.locks.trans first.locks
  state id := by
    rw [second.state, first.state]
    by_cases here : id ∈ ids
    · simp [here]
    · simp [here]
  frames id := by
    rw [second.frames, first.frames]
    by_cases here : id ∈ ids
    · simp [here]
    · simp [here]
  ordered known := by
    obtain ⟨middle, order⟩ := first.ordered known
    obtain ⟨after, last⟩ := second.ordered middle
    refine ⟨after, ?_⟩
    rw [last, order, List.filter_filter]
    refine List.filter_congr fun other _ => ?_
    simp only [List.mem_append, not_or, Bool.decide_and, Bool.and_comm]

theorem Sound.discardEach (sound : store.Sound) (ids : List PageId) :
    Discards store (ids.foldl Store.discard store) ids := by
  induction ids generalizing store with
  | nil =>
      refine ⟨.refl store, sound, rfl, fun _ => rfl, fun _ => rfl, fun known => ⟨known, ?_⟩⟩
      simp
  | cons id ids ih =>
      have first := sound.discard id
      exact first.trans (ih first.sound)

/-! ## The pages of a table -/

theorem Accounted.cached_of_mem_order (accounted : store.Accounted handles)
    (inside : id ∈ store.policy.order) : store.frames.contains id = true := by
  obtain ⟨queue, recent, sound⟩ := accounted.ordered
  rw [recent] at inside
  obtain ⟨-, listed⟩ := accounted.lists queue recent
  obtain ⟨frame, found, -⟩ := (listed id).mp (sound.mem_byAge.mp inside)
  rw [SortedMap.contains, found, Option.isSome_some]

theorem mem_pagesOfTable : id ∈ store.pagesOfTable table ↔
    store.frames.contains id = true ∧ id.table = table := by
  rw [pagesOfTable, List.mem_filter, SortedMap.mem_keys_iff_contains, decide_eq_true_eq]

theorem missing_of_unlisted (own : id.table = table) (unlisted : id ∉ store.pagesOfTable table) :
    store.frames.get? id = none := by
  cases found : store.frames.get? id with
  | none => rfl
  | some frame =>
      have present : store.frames.contains id = true := by
        rw [SortedMap.contains, found, Option.isSome_some]
      exact absurd (mem_pagesOfTable.mpr ⟨present, own⟩) unlisted

theorem Flushes.mem_pages_iff (flushes : Flushes store after ids) :
    id ∈ after.pagesOfTable table ↔ id ∈ store.pagesOfTable table := by
  have same := congrArg Option.isSome (flushes.hold id)
  rw [Option.isSome_map, Option.isSome_map] at same
  rw [mem_pagesOfTable, mem_pagesOfTable, SortedMap.contains, SortedMap.contains, same]

/-- No page of the table is cached any more; they are in their files as they looked.  All
others are as they were. -/
structure Empties (store after : Store) (table : TableId) : Prop
    extends Continues store after where
  sound : after.Sound
  backed : after.Backed
  resolved : after.Resolved
  locks : after.locks = store.locks
  own : ∀ id, id.table = table → after.frames.get? id = none ∧ store.stuck id = false
  look : ∀ id, (after.pageState id).look = (store.pageState id).look
  frames : ∀ id, id.table ≠ table → after.frames.get? id = store.frames.get? id
  state : ∀ id, id.table ≠ table → after.pageState id = store.pageState id
  order : after.policy.order = store.policy.order.filter (decide <| ·.table ≠ table)

theorem Empties.stuck (empties : Empties store after table) : after.stuck = store.stuck := by
  funext id
  by_cases own : id.table = table
  · obtain ⟨absent, moves⟩ := empties.own id own
    rw [moves, stuck_of_uncached (cached?_of_missing absent)]
  · rw [stuck_eq, stuck_eq, empties.state id own, empties.takes]

theorem Flushes.empties (flushes : Flushes store middle (store.pagesOfTable table))
    (discards : Discards middle after (middle.pagesOfTable table))
    (accounted : store.Accounted handles)
    (moves : ∀ id ∈ store.pagesOfTable table, store.stuck id = false ∧
      ∀ copy, (middle.pageState id).cached = some copy → copy.dirtiedBy = none) :
    Empties store after table := by
  have foreign (id : PageId) (other : id.table ≠ table) : id ∉ middle.pagesOfTable table :=
    fun inside => other (mem_pagesOfTable.mp inside).2
  have states (id : PageId) (other : id.table ≠ table) :
      after.pageState id = store.pageState id := by
    rw [discards.state, if_neg (foreign id other)]
    rcases flushes.state id with same | ⟨inside, -⟩
    · exact same
    · exact absurd (mem_pagesOfTable.mp inside).2 other
  have locks : after.locks = store.locks := discards.locks.trans flushes.locks
  refine ⟨flushes.toContinues.trans discards.toContinues, discards.sound, ?_, ?_, locks, ?_, ?_,
    ?_, states, ?_⟩
  · intro id
    rw [discards.state, discards.locks]
    split
    · exact PageState.backed_of_absent rfl
    · exact flushes.backed id
  · intro id copy cached
    rw [discards.state] at cached
    split at cached
    · cases cached
    · exact flushes.resolved id copy cached
  · intro id own
    rw [discards.frames]
    split
    · next inside => exact ⟨rfl, (moves id (flushes.mem_pages_iff.mp inside)).1⟩
    -- A page of the table that was not written was not cached before, either.
    · next outside =>
        refine ⟨missing_of_unlisted own outside, stuck_of_uncached (cached?_of_missing ?_)⟩
        exact missing_of_unlisted own (outside ∘ flushes.mem_pages_iff.mpr)
  · intro id
    rw [← flushes.look, discards.state]
    split
    · next inside =>
        have clean := (moves id (flushes.mem_pages_iff.mp inside)).2
        cases cached : (middle.pageState id).cached with
        | none =>
            rw [PageState.look_of_absent cached]
            rfl
        | some copy =>
            rw [PageState.look_of_cached cached]
            exact (flushes.backed id).clean copy cached (clean copy cached)
    · rfl
  · intro id other
    rw [discards.frames, if_neg (foreign id other), flushes.frames]
    exact fun inside => other (mem_pagesOfTable.mp inside).2
  · have ordered : middle.policy.Ordered := flushes.policy ▸ accounted.ordered
    rw [(discards.ordered ordered).2, flushes.policy]
    refine List.filter_congr fun id inside => ?_
    have here := accounted.cached_of_mem_order inside
    simp only [flushes.mem_pages_iff, mem_pagesOfTable, here, true_and, ne_eq]

/-- A table is taken out of the cache, unless a stuck page of it is in the way. -/
theorem Resolved.evictTable (resolved : store.Resolved) (sound : store.Sound)
    (addressable : store.Addressable) (backed : store.Backed)
    (accounted : store.Accounted handles) (table : TableId) :
    ((store.evictTable table).1 = .ok () ∧ Empties store (store.evictTable table).2 table) ∨
    ∃ id fault, id.table = table ∧ store.stuck id = true ∧
      store.unwritable.get? id = some fault ∧
      (store.evictTable table).1 = .error (.io (.other fault)) ∧
      Flushes store (store.evictTable table).2 (store.pagesOfTable table) := by
  obtain ⟨flushes, ends⟩ :=
    resolved.flushEach sound addressable backed (store.pagesOfTable table)
  unfold Store.evictTable
  rcases run : Store.flushEach (store.pagesOfTable table) store with ⟨result, middle⟩
  rw [run] at flushes ends
  rcases ends with ⟨done, moves⟩ | ⟨id, listed, fault, stuck, refused, failed⟩
  · obtain rfl : result = .ok () := done
    exact .inl ⟨rfl, flushes.empties (flushes.sound.discardEach _) accounted moves⟩
  · obtain rfl : result = .error _ := failed
    exact .inr ⟨id, fault, (mem_pagesOfTable.mp listed).2, stuck, refused, rfl, flushes⟩

end Store

end TableStore
