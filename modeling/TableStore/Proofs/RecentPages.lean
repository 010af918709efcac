import Mathlib.Data.List.Dedup
import Mathlib.Data.List.DropRight
import TableStore.Proofs.Accesses
import TableStore.Proofs.LoneVisits

/-!
# The pages used last

While pages are accessed one after the other, each through a handle that is dropped
before the next access, the cache holds the pages used last: all of them as long as there
is room, and as many as there is room for from then on.  Whose changes they are does not
matter, as long as every page that was changed is marked so.  A page that has left the
cache is in its file as it would be had it never left.
-/

set_option autoImplicit false

namespace TableStore

/-! ## The end of a line -/

namespace Line

variable {stuck : PageId → Bool} {line after : Line} {page : PageId} {pages : List PageId}
  {order : List PageId} {places : Nat}

/-- The pages used last, each of them once and the one used longest ago in front: as many
as there are places for. -/
def recent (places : Nat) (pages : List PageId) : List PageId := pages.dedup.rtake places

theorem length_recent (places : Nat) (pages : List PageId) :
    (recent places pages).length = min places pages.dedup.length := by
  rw [recent, List.rtake, List.length_drop]
  omega

/-- A page is among those used last if fewer pages than there are places were used since
its last use. -/
theorem mem_recent_iff {before since : List PageId} (fresh : page ∉ since) :
    page ∈ recent places (before ++ page :: since) ↔ since.dedup.length < places := by
  have whole : page :: since.dedup <:+ (before ++ page :: since).dedup := by
    rw [List.dedup_append, List.dedup_cons_of_notMem fresh]
    exact List.suffix_union_right _ _
  have last : recent places (before ++ page :: since) <:+ (before ++ page :: since).dedup :=
    List.drop_suffix _ _
  have length := length_recent places (before ++ page :: since)
  have longer := whole.length_le
  rw [List.length_cons] at longer
  constructor
  · intro inside
    by_contra many
    have later : recent places (before ++ page :: since) <:+ since.dedup :=
      List.suffix_of_suffix_length_le last ((List.suffix_cons page _).trans whole) (by omega)
    exact fresh (List.mem_dedup.mp (later.subset inside))
  · intro few
    have within : page :: since.dedup <:+ recent places (before ++ page :: since) :=
      List.suffix_of_suffix_length_le whole last (by rw [List.length_cons]; omega)
    exact within.subset List.mem_cons_self

theorem dedup_concat (pages : List PageId) (page : PageId) :
    (pages ++ [page]).dedup = pages.dedup.erase page ++ [page] := by
  induction pages with
  | nil => rfl
  | cons first rest ih =>
      rw [List.cons_append, List.dedup_cons, List.dedup_cons, ih]
      by_cases same : first = page
      · subst same
        rw [if_pos (List.mem_append_right rest List.mem_cons_self)]
        split
        · rfl
        · next fresh =>
            have gone : first ∉ rest.dedup := fun inside => fresh (List.mem_dedup.mp inside)
            rw [List.erase_cons_head, List.erase_of_not_mem gone]
      · have elsewhere : first ∈ rest ++ [page] ↔ first ∈ rest := by simp [same]
        by_cases known : first ∈ rest
        · rw [if_pos (elsewhere.mpr known), if_pos known]
        · rw [if_neg (mt elsewhere.mp known), if_neg known,
            List.erase_cons_tail (by simpa using same), List.cons_append]

/-- A page among the last ones is taken out of them. -/
theorem rtake_erase_of_mem (distinct : order.Nodup) (inside : page ∈ order.rtake (places + 1)) :
    (order.erase page).rtake places = (order.rtake (places + 1)).erase page := by
  simp only [List.rtake] at inside ⊢
  have length := List.length_erase_of_mem (List.mem_of_mem_drop inside)
  have same : (order.erase page).length - places = order.length - (places + 1) := by omega
  rw [same]
  generalize order.length - (places + 1) = before at inside
  have within : before < order.length := by
    have some := List.length_pos_of_mem inside
    rw [List.length_drop] at some
    omega
  have outside : page ∉ order.take before := fun early =>
    List.disjoint_take_drop distinct (Nat.le_refl before) early inside
  conv_lhs => rw [← List.take_append_drop before order, List.erase_append_right _ outside]
  exact List.drop_left' (List.length_take_of_le (Nat.le_of_lt within))

/-- A page before the last ones leaves them as they are. -/
theorem rtake_erase_of_not_mem (outside : page ∉ order.rtake (places + 1)) :
    (order.erase page).rtake places = order.rtake places := by
  by_cases inside : page ∈ order
  · simp only [List.rtake] at outside ⊢
    have length := List.length_erase_of_mem inside
    have same : (order.erase page).length - places = order.length - (places + 1) := by omega
    rw [same]
    generalize last : order.length - (places + 1) = before at outside
    have early : page ∈ order.take before := by
      rw [← List.take_append_drop before order, List.mem_append] at inside
      exact inside.resolve_right outside
    have shorter := List.length_erase_of_mem early
    have some := List.length_pos_of_mem early
    rw [List.length_take_of_le (by omega)] at shorter some
    conv_lhs => rw [← List.take_append_drop before order, List.erase_append_left _ early]
    rw [List.drop_append, List.drop_of_length_le (by omega), List.nil_append, List.drop_drop]
    congr 1
    omega
  · rw [List.erase_of_not_mem inside]

theorem tail_rtake (full : places < order.length) :
    (order.rtake (places + 1)).tail = order.rtake places := by
  simp only [List.rtake, List.tail_drop]
  congr 1
  omega

theorem rtake_of_length_le (room : order.length ≤ places) : order.rtake places = order := by
  rw [List.rtake, Nat.sub_eq_zero_of_le room, List.drop_zero]

/-- There is a place for every page if no page in the line is stuck. -/
theorem visit_ne_none (moves : ∀ other ∈ line.order, stuck other = false)
    (spacious : 0 < line.free + line.order.length) : line.visit stuck page ≠ none := by
  unfold visit
  split
  · exact Option.some_ne_none _
  · split
    · exact Option.some_ne_none _
    · next full =>
        split
        · next empty =>
            rw [empty] at spacious
            exact absurd spacious full
        · next front rest listed =>
            have leaves := moves front (listed ▸ List.mem_cons_self)
            rw [leaves, if_neg Bool.false_ne_true]
            exact Option.some_ne_none _

theorem order_visit (spacious : 0 < places) (order : line.order = recent places pages)
    (free : line.free = places - line.order.length) (run : line.visit stuck page = some after) :
    after.order = recent places (pages ++ [page]) := by
  obtain ⟨others, rfl⟩ := Nat.exists_eq_add_one_of_ne_zero (Nat.ne_of_gt spacious)
  have length := length_recent (others + 1) pages
  have next : recent (others + 1) (pages ++ [page]) =
      (pages.dedup.erase page).rtake others ++ [page] := by
    rw [recent, dedup_concat, List.rtake_concat_succ]
  rw [next]
  rw [order] at free
  rcases visit_cases run with
    ⟨here, rfl⟩ | ⟨absent, room, rfl⟩ | ⟨front, rest, absent, full, listed, -, rfl⟩
  · rw [order] at here ⊢
    rw [rtake_erase_of_mem (List.nodup_dedup pages) here]
    rfl
  · rw [order] at absent ⊢
    have few : pages.dedup.length ≤ others := by omega
    rw [rtake_erase_of_not_mem absent, rtake_of_length_le few, recent,
      rtake_of_length_le (Nat.le_succ_of_le few)]
  · rw [order] at absent listed
    have many : others < pages.dedup.length := by omega
    rw [rtake_erase_of_not_mem absent, ← tail_rtake many]
    exact congrArg (fun order => order.tail ++ [page]) listed.symm

end Line

/-! ## Accesses -/

namespace Store

def workOn (store : Store) (handle : Handle) (access : Access) : Store :=
  match store.pageOf? handle with
  | some page => store.setPageOf handle (Access.on page access)
  | none => store

/-- The store after an access, if the page could be fetched at once. -/
def access (store : Store) (access : Access) : Option Store :=
  match store.fetch access.txn access.page access.mode with
  | (.finished (.ok handle), got) => some ((got.workOn handle access).unpin handle)
  | _ => none

def accessAll (store : Store) (accesses : List Access) : Option Store :=
  accesses.foldlM Store.access store

end Store

/-- Nobody who accesses a page is kept from it by the lock of another transaction. -/
def LockTable.Unopposed : LockTable → List Access → Prop
  | _, [] => True
  | locks, access :: accesses =>
      (locks.acquire access.txn access.page access.mode).1 = true ∧
        Unopposed (locks.acquire access.txn access.page access.mode).2 accesses

instance LockTable.decidableUnopposed : (locks : LockTable) → (accesses : List Access) →
    Decidable (locks.Unopposed accesses)
  | _, [] => .isTrue trivial
  | locks, access :: accesses =>
      have := decidableUnopposed (locks.acquire access.txn access.page access.mode).2 accesses
      inferInstanceAs (Decidable (_ ∧ _))

namespace Store

variable {start store got after : Store} {done : List Access} {access : Access} {id : PageId}
  {page : Page} {contents : Contents} {serial : Nat} {handle : Handle}

theorem stuck_of_takes (takes : store.takes id = true) : store.stuck id = false := by
  simp [stuck, takes]

theorem Brings.replaced (brings : Brings store id contents serial got)
    (takes : got.takes id = true) (own : page.id = id) :
    Brings store id page.contents serial (got.setPage page) where
  frame := by
    obtain ⟨frame, found, same, pins, -⟩ := brings.frame
    refine ⟨{ frame with page }, ?_, same, pins, rfl⟩
    rw [setPage, SortedMap.get?_modify, own, if_pos rfl, found]
    rfl
  stuck := by
    obtain ⟨frame, found, -⟩ := brings.frame
    rw [← brings.stuck]
    funext other
    by_cases here : other = id
    · subst here
      have still : (got.setPage page).takes other = true := takes
      rw [stuck_of_takes still, stuck_of_takes takes]
    · refine stuck_congr ?_ rfl
      rw [cached?_replace (cached?_of_frame found) own, if_neg here]
  capacity := brings.capacity
  ordered := brings.ordered
  visits := brings.visits

structure Reached (start : Store) (done : List Access) (store : Store) : Prop
    extends Continues start store where
  sound : store.Sound
  accounted : store.Accounted []
  order : store.policy.order = Line.recent start.capacity (done.map Access.page)
  faithful : ∀ id, ¬ start.Lost id.table → (store.pageState id).Faithful
  look : ∀ id page, start.readPage id = .ok page →
    (store.pageState id).look = .ok (page.accessed done).contents

theorem Reached.unstuck (reached : Reached start done store)
    (takes : ∀ access ∈ done, start.takes access.page = true) :
    ∀ id ∈ store.line.order, store.stuck id = false := by
  intro id listed
  have used : id ∈ done.map Access.page := by
    rw [line, reached.order] at listed
    exact List.mem_dedup.mp (List.mem_of_mem_drop listed)
  obtain ⟨access, inside, rfl⟩ := List.mem_map.mp used
  exact stuck_of_takes ((reached.takes _).trans (takes access inside))

structure Fetched (store : Store) (handle : Handle) (contents : Contents) (got : Store) :
    Prop where
  passes : Passes store got
  accounted : got.Accounted [handle]
  brings : Brings store handle.page contents handle.serial got

theorem Reached.fetch (reached : Reached start done store) (spacious : 0 < start.capacity)
    (takes : ∀ access ∈ done, start.takes access.page = true)
    (existing : start.readPage access.page = .ok page)
    (granted : (store.locks.acquire access.txn access.page access.mode).1 = true) :
    ∃ handle got, store.fetch access.txn access.page access.mode = (.finished (.ok handle), got) ∧
      handle.page = access.page ∧
      got.locks = (store.locks.acquire access.txn access.page access.mode).2 ∧
      Fetched store handle (page.accessed done).contents got := by
  let request := store.request access.txn access.page access.mode
  have room : 0 < store.capacity := reached.capacity ▸ spacious
  have asked : store.askLock request.txn request.page request.mode =
      (.granted, store.locked request) := askLock_of_granted granted
  have locked : (store.locked request).Sound :=
    (relock_rests reached.sound.locks.acquire).sound reached.sound
  have accounted : (store.locked request).Accounted [] :=
    reached.accounted.stays (Edit.relock _).stays
  rcases locked.pin_brings accounted room (reached.look _ _ existing) with
    ⟨serial, got, pinned, brings⟩ | ⟨blocked, -⟩
  · have run := attempt_of_pinned asked pinned
    have locks := locks_pin (store.locked request) access.page
    have passes := reached.sound.attempt_passes (show request.heldBefore = _ from rfl)
    have steps := reached.sound.fitting.attempt [] run
    rw [pinned] at locks
    rw [run] at passes
    exact ⟨_, got, run, rfl, locks, passes,
      (reached.accounted.steps reached.sound.fitting steps).2,
      ⟨brings.frame, brings.stuck, brings.capacity, brings.ordered, brings.visits⟩⟩
  · have places : 0 < store.line.free + store.line.order.length := by
      simp only [line]
      omega
    exact absurd blocked (Line.visit_ne_none (reached.unstuck takes) places)

structure Worked (got : Store) (handle : Handle) (access : Access) (page : Page)
    (after : Store) : Prop extends Continues got after where
  sound : after.Sound
  accounted : after.Accounted []
  locks : after.locks = got.locks
  page : ∀ id, after.pageState id =
    if id = handle.page then
      { got.pageState id with cached := some (Access.on page access).copy }
    else got.pageState id

theorem Fetched.work (fetched : Fetched store handle contents got)
    (takes : got.takes handle.page = true) (access : Access) : ∃ table page,
      got.catalog.tables.get? handle.page.table = some table ∧ page.Fits table handle.page ∧
      got.cached? handle.page = some page ∧ page.contents = contents ∧
      Worked got handle access page ((got.workOn handle access).unpin handle) ∧
      store.line.visit store.stuck handle.page =
        some ((got.workOn handle access).unpin handle).line := by
  obtain ⟨frame, found, own, -, seen⟩ := fetched.brings.frame
  have cached := cached?_of_frame found
  have sound := fetched.passes.sound
  obtain ⟨⟨table, registered, fits⟩, -⟩ := sound.page handle.page frame.page cached
  have fitting := fits.on access
  have worked : got.workOn handle access = got.setPage (Access.on frame.page access) := by
    rw [workOn, pageOf?_of_frame found own]
    exact setPageOf_of_frame found own fitting.id
  rw [worked]
  have becomes := sound.setPage cached registered fitting
  have stays : Stays got (got.setPage (Access.on frame.page access)) :=
    ⟨rfl, rfl, rfl, rfl, rfl, hold_setPage _ _, .refl _⟩
  obtain ⟨rests, locks⟩ := becomes.sound.unpin handle
  have given := (fetched.accounted.stays stays).give List.mem_cons_self
  rw [List.erase_cons_head] at given
  refine ⟨table, frame.page, registered, fits, cached, seen, ?_, ?_⟩
  · exact ⟨becomes.still.toContinues.trans rests.continues, rests.sound becomes.sound, given,
      locks, fun id => (rests.states id).trans (becomes.page id)⟩
  · exact (fetched.brings.replaced takes fitting.id).unpin.2

/-- The page in the cache and the page that never left memory stay alike. -/
theorem Reached.contents_on (reached : Reached start done store) (opened : start.Sound)
    {table : Table} (registered : store.catalog.tables.get? id.table = some table)
    (fits : page.Fits table id) {kept : Page} (existing : start.readPage id = .ok kept)
    (contents : page.contents = (kept.accessed done).contents) (access : Access) :
    (Access.on page access).contents = (kept.accessed (done ++ [access])).contents := by
  obtain ⟨other, known, -, -, old, -⟩ := opened.readPage_ok existing
  rw [reached.catalog, known] at registered
  cases registered
  replace old := old.accessed done
  have same : Page.Matches page (kept.accessed done) :=
    ⟨fits.sound, old.sound, fits.id.trans old.id.symm, fits.schema.trans old.schema.symm, contents⟩
  rw [Page.accessed_snoc]
  exact (same.on access).contents

theorem Sound.accessed_elsewhere (opened : start.Sound) (existing : start.readPage id = .ok page)
    (elsewhere : id ≠ access.page) : page.accessed (done ++ [access]) = page.accessed done := by
  obtain ⟨table, -, -, -, fits, -⟩ := opened.readPage_ok existing
  rw [Page.accessed_snoc, Access.on, (fits.accessed done).id, if_neg]
  rintro ⟨here, -⟩
  exact elsewhere here.symm

theorem Reached.step (reached : Reached start done store) (opened : start.Sound)
    (spacious : 0 < start.capacity)
    (takes : ∀ each ∈ done ++ [access], start.takes each.page = true)
    (existing : start.readPage access.page = .ok page) (tagged : access.Tagged)
    (granted : (store.locks.acquire access.txn access.page access.mode).1 = true) :
    ∃ after, store.access access = some after ∧
      after.locks = (store.locks.acquire access.txn access.page access.mode).2 ∧
      Reached start (done ++ [access]) after := by
  obtain ⟨before, here⟩ := List.forall_mem_append.mp takes
  obtain ⟨handle, got, run, own, locks, fetched⟩ := reached.fetch spacious before existing granted
  have taken : got.takes handle.page = true := by
    rw [fetched.passes.takes, reached.takes, own]
    exact here access List.mem_cons_self
  obtain ⟨table, cached, registered, fits, found, contents, worked, visited⟩ :=
    fetched.work taken access
  rw [own] at registered fits found visited
  rw [fetched.passes.catalog] at registered
  have passed (id : PageId) (kept : ¬ start.Lost id.table) :=
    (reached.faithful id kept).passes (fetched.passes.page id (reached.lost ▸ kept))
  have state := worked.page
  rw [own] at state
  refine ⟨(got.workOn handle access).unpin handle, ?_, worked.locks.trans locks, ?_⟩
  · rw [Store.access, run]
  · refine ⟨?_, worked.sound, worked.accounted, ?_, ?_, ?_⟩
    · exact reached.toContinues.trans (fetched.passes.toContinues.trans worked.toContinues)
    · rw [List.map_append]
      refine Line.order_visit spacious reached.order ?_ visited
      rw [← reached.capacity]
      rfl
    · intro id kept copy known clean
      rw [state] at known ⊢
      split at known
      · next here =>
          subst here
          cases known
          obtain ⟨unmarked, same⟩ := Page.clean_before tagged clean
          rw [if_pos rfl]
          exact ((passed _ kept).1 _ (copy_of_cached found) unmarked).trans
            (congrArg Except.ok same.symm)
      · next elsewhere =>
          rw [if_neg elsewhere]
          exact (passed id kept).1 copy known clean
    · intro id kept read
      rw [state]
      split
      · next here =>
          subst here
          cases existing.symm.trans read
          rw [PageState.look_of_cached rfl]
          exact congrArg Except.ok (reached.contents_on opened registered fits read contents access)
      · next elsewhere =>
          rw [(passed id (opened.kept_of_read read)).2, reached.look id kept read,
            opened.accessed_elsewhere read elsewhere]

theorem Reached.steps {accesses : List Access} (reached : Reached start done store)
    (opened : start.Sound) (spacious : 0 < start.capacity)
    (takes : ∀ access ∈ done ++ accesses, start.takes access.page = true)
    (existing : ∀ access ∈ accesses, ∃ page, start.readPage access.page = .ok page)
    (tagged : ∀ access ∈ accesses, access.Tagged) (unopposed : store.locks.Unopposed accesses) :
    ∃ after, store.accessAll accesses = some after ∧ Reached start (done ++ accesses) after := by
  induction accesses generalizing done store with
  | nil => exact ⟨store, rfl, (List.append_nil done).symm ▸ reached⟩
  | cons access accesses ih =>
      obtain ⟨⟨page, read⟩, existingLater⟩ := List.forall_mem_cons.mp existing
      obtain ⟨marked, taggedLater⟩ := List.forall_mem_cons.mp tagged
      obtain ⟨granted, unopposedLater⟩ := unopposed
      rw [List.append_cons] at takes ⊢
      obtain ⟨next, run, locks, reachedNext⟩ := reached.step opened spacious
        (List.forall_mem_append.mp takes).1 read marked granted
      obtain ⟨after, rest, last⟩ :=
        ih reachedNext takes existingLater taggedLater (locks ▸ unopposedLater)
      exact ⟨after, by rw [accessAll, List.foldlM_cons, run]; exact rest, last⟩

theorem reached_start {tick : Nat} (opened : start.Sound) (empty : start.frames = ∅)
    (unused : start.policy = .leastRecent { tick }) : Reached start [] start := by
  have uncached (id : PageId) : start.cached? id = none := by
    rw [cached?, empty]
    rfl
  refine ⟨.refl start, opened, accounted_of_empty empty unused, ?_, ?_, ?_⟩
  · rw [unused, List.map_nil, Line.recent, List.dedup_nil, List.rtake_nil]
    rfl
  · intro id _ copy known
    cases (copy_of_uncached (uncached id)).symm.trans known
  · intro id page read
    rw [PageState.look_of_absent (copy_of_uncached (uncached id))]
    exact congrArg (Except.map Page.contents) read

/-- Pages that exist are accessed one after the other, each through a handle that is
dropped before the next access; no lock and no file stands in the way, and pages that are
changed are marked so.  Then every page can be fetched, the cache holds the pages used
last, and those that have left it are in their files as the accesses made them. -/
theorem cache_holds_recent_pages (store : Store) (tick : Nat) (accesses : List Access)
    (sound : store.Sound) (empty : store.frames = ∅)
    (unused : store.policy = .leastRecent { tick }) (spacious : 1 ≤ store.capacity)
    (existing : ∀ access ∈ accesses, ∃ page, store.readPage access.page = .ok page)
    (takes : ∀ access ∈ accesses, store.takes access.page = true)
    (tagged : ∀ access ∈ accesses, access.Tagged)
    (unopposed : store.locks.Unopposed accesses) :
    let pages := accesses.map Access.page
    ∃ after, store.accessAll accesses = some after ∧
      after.cachedCount = min store.capacity pages.dedup.length ∧
      (∀ id, after.frames.contains id = true ↔ id ∈ Line.recent store.capacity pages) ∧
      ∀ id page, store.readPage id = .ok page → after.frames.contains id = false →
        ∃ again, after.readPage id = .ok again ∧
          again.contents = (page.accessed accesses).contents := by
  intro pages
  obtain ⟨after, run, reached⟩ := (reached_start sound empty unused).steps sound spacious takes
    existing tagged unopposed
  refine ⟨after, run, ?_, ?_, ?_⟩
  · rw [cachedCount, ← reached.accounted.length_order, reached.order, Line.length_recent]
    rfl
  · intro id
    rw [← reached.accounted.mem_order_iff, reached.order]
    rfl
  · intro id page read gone
    have uncached : after.cached? id = none := by
      rw [cached?, Option.map_eq_none_iff]
      simpa [SortedMap.contains] using gone
    have look := reached.look id page read
    rw [PageState.look_of_absent (copy_of_uncached uncached)] at look
    exact readPage_of_stored look

def threeBlankPages (capacity : Nat) : Store :=
  { Store.ofNumbers capacity with disk := (∅ : Disk).insert "numbers" ⟨[], 24⟩ }

/-- A row is put on the first page, and then other pages are used more often. -/
def oneChange : List Access :=
  [⟨⟨1⟩, Table.numbers.page 0, .exclusive, [.rows (.insert (.ofNumber 5)), .mark true ⟨1⟩]⟩,
    ⟨⟨2⟩, Table.numbers.page 1, .shared, []⟩, ⟨⟨1⟩, Table.numbers.page 0, .shared, []⟩,
    ⟨⟨3⟩, Table.numbers.page 2, .shared, []⟩, ⟨⟨2⟩, Table.numbers.page 1, .exclusive, []⟩]

theorem recent_pages_after_one_change :
    (threeBlankPages 2).Sound ∧ (threeBlankPages 2).locks.Unopposed oneChange ∧
    (∀ access ∈ oneChange, access.Tagged) ∧
    ∃ after, (threeBlankPages 2).accessAll oneChange = some after ∧ after.cachedCount = 2 ∧
      (∀ id, after.frames.contains id = true ↔ id ∈ [Table.numbers.page 2, Table.numbers.page 1]) ∧
      ∃ again, after.readPage (Table.numbers.page 0) = .ok again ∧
        again.contents = [some [.int 5]] := by
  have fresh : (threeBlankPages 2).Fresh :=
    ⟨⟨(fresh_ofNumbers 2).catalog, rfl, rfl, rfl, (fresh_ofNumbers 2).policy⟩, by decide +kernel⟩
  have existing : ∀ access ∈ oneChange, ∃ page,
      (threeBlankPages 2).readPage access.page = .ok page := by
    intro access inside
    have known : ∀ access ∈ oneChange, ((threeBlankPages 2).readPage access.page).isOk = true := by
      decide +kernel
    have read := known access inside
    cases run : (threeBlankPages 2).readPage access.page with
    | ok page => exact ⟨page, rfl⟩
    | error error =>
        rw [run] at read
        cases read
  have tagged : ∀ access ∈ oneChange, access.Tagged := by
    simp only [oneChange, List.forall_mem_cons]
    refine ⟨⟨by simp, fun _ _ => ⟨⟨1⟩, by simp⟩⟩, ⟨by simp, by simp⟩, ⟨by simp, by simp⟩,
      ⟨by simp, by simp⟩, ⟨by simp, by simp⟩, by simp⟩
  have unopposed : (threeBlankPages 2).locks.Unopposed oneChange := by decide +kernel
  obtain ⟨after, run, count, cached, left⟩ := cache_holds_recent_pages (threeBlankPages 2) 0
    oneChange fresh.sound rfl rfl (by decide) existing (by decide) tagged unopposed
  have last : Line.recent 2 (oneChange.map Access.page) =
      [Table.numbers.page 2, Table.numbers.page 1] := by decide +kernel
  have gone : after.frames.contains (Table.numbers.page 0) = false := by
    rw [← Bool.not_eq_true, cached]
    exact (by decide +kernel : Table.numbers.page 0 ∉ Line.recent 2 (oneChange.map Access.page))
  have seen : ((threeBlankPages 2).readPage (Table.numbers.page 0)).map
      (fun page => (page.accessed oneChange).contents) = .ok [some [.int 5]] := by rfl
  cases read : (threeBlankPages 2).readPage (Table.numbers.page 0) with
  | error error =>
      rw [read] at seen
      cases seen
  | ok page =>
      rw [read] at seen
      obtain ⟨again, known, same⟩ := left (Table.numbers.page 0) page read gone
      refine ⟨fresh.sound, unopposed, tagged, after, run, count, ?_, again, known, ?_⟩
      · intro id
        rw [cached]
        exact last ▸ Iff.rfl
      · exact same.trans (Except.ok.inj seen)

end Store

end TableStore
