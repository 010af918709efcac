import Mathlib.Data.List.Nodup
import TableStore.Proofs.PageErrors
import TableStore.Proofs.CacheRuns

/-!
# Pins, handles and the bound of the cache

Each cached page has as many pins as there are handles to it, as it was loaded then;
handles to the same page at an earlier time do not count, since every page that is
loaded gets a serial number that no page had before.  The order of use lists exactly
the cached pages without pins.  So a page leaves a full cache only if no handle leads
to it, the cache never outgrows its capacity, and it is found full exactly if every
page in it has a handle.
-/

set_option autoImplicit false

namespace TableStore

namespace RecencyQueue

variable {queue : RecencyQueue} {page : PageId}

theorem Sound.mem_byAge (sound : queue.Sound) :
    page ∈ queue.byAge.values ↔ queue.lists page = true := by
  rw [lists, SortedMap.contains, Option.isSome_iff_exists, SortedMap.values, List.mem_map]
  constructor
  · rintro ⟨⟨tick, own⟩, inside, rfl⟩
    exact ⟨tick, (sound.stamps own tick).mpr (SortedMap.mem_entries_iff.mp inside)⟩
  · rintro ⟨tick, stamped⟩
    have aged := (sound.stamps page tick).mp stamped
    exact ⟨(tick, page), SortedMap.mem_entries_iff.mpr aged, rfl⟩

theorem Sound.nodup_byAge (sound : queue.Sound) : queue.byAge.values.Nodup := by
  have distinct : queue.byAge.entries.Nodup := List.Nodup.of_map _ queue.byAge.nodup_keys
  refine List.Nodup.map_on ?_ distinct
  rintro ⟨first, page⟩ one ⟨second, other⟩ two (rfl : page = other)
  have early := (sound.stamps page first).mpr (SortedMap.mem_entries_iff.mp one)
  have late := (sound.stamps page second).mpr (SortedMap.mem_entries_iff.mp two)
  cases early.symm.trans late
  rfl

end RecencyQueue

namespace Store

/-- The handles that lead to a page as it was loaded with a serial number. -/
def pinsOn (handles : List Handle) (id : PageId) (serial : Nat) : Nat :=
  handles.countP fun handle => decide (handle.page = id ∧ handle.serial = serial)

/-- Pins are handles, serial numbers are not used twice, and the cache and the order
of use agree. -/
structure Accounted (store : Store) (handles : List Handle) : Prop where
  bounded : store.frames.size ≤ store.capacity
  pins : ∀ id frame, store.frames.get? id = some frame →
    frame.pins = pinsOn handles id frame.serial
  cachedBefore : ∀ id frame, store.frames.get? id = some frame → frame.serial < store.nextSerial
  fetchedBefore : ∀ handle ∈ handles, handle.serial < store.nextSerial
  recent : ∃ queue, store.policy = .leastRecent queue
  lists : store.policy.Lists store.Idle

variable {store after : Store} {handles : List Handle} {handle : Handle} {id : PageId}
  {serial : Nat}

theorem pinsOn_cons : pinsOn (handle :: handles) id serial =
    pinsOn handles id serial + if handle.page = id ∧ handle.serial = serial then 1 else 0 := by
  simp only [pinsOn, List.countP_cons, decide_eq_true_eq]

theorem pinsOn_erase (live : handle ∈ handles) : pinsOn (handles.erase handle) id serial =
    pinsOn handles id serial - if handle.page = id ∧ handle.serial = serial then 1 else 0 := by
  simp [pinsOn, List.countP_erase, live]

theorem pinsOn_pos (live : handle ∈ handles) : 0 < pinsOn handles handle.page handle.serial :=
  List.countP_pos_iff.mpr ⟨handle, live, by simp⟩

theorem Accounted.unused (accounted : store.Accounted handles) :
    pinsOn handles id store.nextSerial = 0 := by
  rw [pinsOn, List.countP_eq_zero]
  intro handle live leads
  have before := accounted.fetchedBefore handle live
  have same := (of_decide_eq_true leads).2
  omega

theorem Accounted.idle_of_chosen (accounted : store.Accounted handles) {victim : PageId}
    (chosen : store.policy.evict.1 = some victim) : store.Idle victim := by
  obtain ⟨queue, recent⟩ := accounted.recent
  exact (accounted.lists.evict_some chosen fun _ => Iff.rfl).2 queue recent

theorem Accounted.stays (accounted : store.Accounted handles) (stays : Stays store after) :
    after.Accounted handles := by
  have old (id : PageId) (frame : Frame) (found : after.frames.get? id = some frame) :
      ∃ before, store.frames.get? id = some before ∧ before.pins = frame.pins ∧
        before.serial = frame.serial := by
    have same := stays.hold id
    rw [found, Option.map_some] at same
    obtain ⟨before, known, equal⟩ := Option.map_eq_some_iff.mp same.symm
    exact ⟨before, known, congrArg Prod.fst equal, congrArg Prod.snd equal⟩
  have contains (id : PageId) : after.frames.contains id = store.frames.contains id := by
    have same := congrArg Option.isSome (stays.hold id)
    rwa [Option.isSome_map, Option.isSome_map] at same
  have idle (id : PageId) : after.Idle id ↔ store.Idle id := by
    have pins (store : Store) : store.Idle id ↔
        ((store.frames.get? id).map Frame.hold).map Prod.fst = some 0 := by
      rw [Idle, Option.map_map, Option.map_eq_some_iff]
      rfl
    rw [pins, pins, stays.hold id]
  constructor
  · rw [SortedMap.size_congr contains, stays.capacity]
    exact accounted.bounded
  · intro id frame found
    obtain ⟨before, known, pins, serial⟩ := old id frame found
    rw [← pins, ← serial]
    exact accounted.pins id before known
  · intro id frame found
    obtain ⟨before, known, -, serial⟩ := old id frame found
    rw [← serial, stays.nextSerial]
    exact accounted.cachedBefore id before known
  · rw [stays.nextSerial]
    exact accounted.fetchedBefore
  · rw [stays.policy]
    exact accounted.recent
  · rw [stays.policy]
    exact accounted.lists.congr idle

theorem Accounted.hit (accounted : store.Accounted handles) {frame : Frame}
    (found : store.frames.get? handle.page = some frame) (same : frame.serial = handle.serial) :
    ({ store with
      frames := store.frames.insert handle.page { frame with pins := frame.pins + 1 }
      policy := store.policy.pin handle.page } : Store).Accounted (handle :: handles) := by
  have contains (id : PageId) : (store.frames.insert handle.page
      { frame with pins := frame.pins + 1 }).contains id = store.frames.contains id := by
    rw [SortedMap.contains, SortedMap.get?_insert]
    split
    · next here => rw [here, SortedMap.contains, found]; rfl
    · rfl
  constructor
  · rw [SortedMap.size_congr contains]
    exact accounted.bounded
  · intro id later known
    rw [SortedMap.get?_insert] at known
    rw [pinsOn_cons]
    split at known
    · next here =>
        cases known
        rw [if_pos ⟨here.symm, same.symm⟩, here, ← accounted.pins _ frame found]
    · next other =>
        rw [if_neg fun both => other both.1.symm]
        exact accounted.pins id later known
  · intro id later known
    rw [SortedMap.get?_insert] at known
    split at known
    · cases known
      exact accounted.cachedBefore _ frame found
    · exact accounted.cachedBefore id later known
  · intro other live
    rcases List.mem_cons.mp live with rfl | live
    · exact same ▸ accounted.cachedBefore _ frame found
    · exact accounted.fetchedBefore other live
  · exact EvictionPolicy.recent_pin accounted.recent handle.page
  · apply accounted.lists.pin
    intro other
    rw [Idle, SortedMap.get?_insert]
    split
    · next here => simp [here]
    · next different => simp [different, Idle]

theorem Accounted.load (accounted : store.Accounted handles) {page : Page}
    (absent : store.frames.get? handle.page = none) (own : page.id = handle.page)
    (room : store.frames.size < store.capacity) (number : handle.serial = store.nextSerial) :
    (store.install page).2.Accounted (handle :: handles) := by
  have frames (id : PageId) : (store.install page).2.frames.get? id =
      if id = handle.page then some ⟨page, 1, store.nextSerial⟩ else store.frames.get? id :=
    own ▸ frames_install store page id
  constructor
  · have size : (store.install page).2.frames.size = store.frames.size + 1 :=
      SortedMap.size_insert_of_missing (own ▸ absent)
    rw [size]
    exact room
  · intro id frame found
    rw [frames] at found
    rw [pinsOn_cons]
    split at found
    · next here =>
        cases found
        rw [if_pos ⟨here.symm, number⟩, accounted.unused]
    · next other =>
        rw [if_neg fun both => other both.1.symm]
        exact accounted.pins id frame found
  · intro id frame found
    rw [frames] at found
    split at found
    · cases found
      exact Nat.lt_succ_self _
    · exact Nat.lt_succ_of_lt (accounted.cachedBefore id frame found)
  · intro other live
    rcases List.mem_cons.mp live with rfl | live
    · rw [number]
      exact Nat.lt_succ_self _
    · exact Nat.lt_succ_of_lt (accounted.fetchedBefore other live)
  · exact accounted.recent
  · apply accounted.lists.congr
    intro other
    rw [Idle, frames]
    split
    · next here => simp [here, Idle, absent]
    · rfl

theorem Accounted.drop (accounted : store.Accounted handles)
    (frames : after.frames = (store.dropFrame id).frames)
    (capacity : after.capacity = store.capacity) (nextSerial : after.nextSerial = store.nextSerial)
    (recent : ∃ queue, after.policy = .leastRecent queue)
    (lists : ∀ idle : PageId → Prop, (∀ other, idle other ↔ other ≠ id ∧ store.Idle other) →
      after.policy.Lists idle) : after.Accounted handles := by
  have rest (other : PageId) : after.frames.get? other =
      if other = id then none else store.frames.get? other := by
    rw [frames, frames_dropFrame]
  have still (other : PageId) (frame : Frame) (found : after.frames.get? other = some frame) :
      store.frames.get? other = some frame := by
    rw [rest] at found
    split at found
    · cases found
    · exact found
  constructor
  · rw [capacity, frames, dropFrame]
    split
    · exact accounted.bounded
    · next found =>
        have fewer := SortedMap.size_erase_lt found
        exact Nat.le_of_lt (Nat.lt_of_lt_of_le fewer accounted.bounded)
  · intro other frame found
    exact accounted.pins other frame (still other frame found)
  · intro other frame found
    rw [nextSerial]
    exact accounted.cachedBefore other frame (still other frame found)
  · rw [nextSerial]
    exact accounted.fetchedBefore
  · exact recent
  · apply lists
    intro other
    rw [Idle, rest]
    split
    · next here => simp [here]
    · next different => simp [different, Idle]

theorem Accounted.vacated (accounted : store.Accounted handles) {victim : PageId}
    (chosen : store.policy.evict.1 = some victim) :
    (store.vacated victim).Accounted handles ∧
      (store.vacated victim).frames.size < (store.vacated victim).capacity := by
  obtain ⟨frame, found, -⟩ := accounted.idle_of_chosen chosen
  have same : store.vacated victim = { store with
      policy := store.policy.evict.2
      frames := store.frames.erase victim
      adrift := (store.vacated victim).adrift } := dropFrame_eq _ victim
  have frames : (store.vacated victim).frames = (store.dropFrame victim).frames := by
    rw [same, dropFrame_eq]
  constructor
  · apply accounted.drop frames
    · rw [same]
    · rw [same]
    · rw [same]
      exact EvictionPolicy.recent_evict accounted.recent
    · intro idle others
      rw [same]
      exact (accounted.lists.evict_some chosen others).1
  · rw [same]
    exact Nat.lt_of_lt_of_le (SortedMap.size_erase_lt found) accounted.bounded

theorem Accounted.spare (accounted : store.Accounted handles) {victim : PageId}
    (chosen : store.policy.evict.1 = some victim) :
    ({ store with policy := store.policy.evict.2.unpin victim } : Store).Accounted handles where
  bounded := accounted.bounded
  pins := accounted.pins
  cachedBefore := accounted.cachedBefore
  fetchedBefore := accounted.fetchedBefore
  recent := EvictionPolicy.recent_unpin (EvictionPolicy.recent_evict accounted.recent) victim
  lists := by
    apply (accounted.lists.evict_some chosen fun _ => Iff.rfl).1.unpin
    intro other
    by_cases here : other = victim
    · rw [here]
      exact ⟨fun _ => .inl rfl, fun _ => accounted.idle_of_chosen chosen⟩
    · exact ⟨fun idle => .inr ⟨here, idle⟩, fun either => (either.resolve_left here).2⟩

theorem Accounted.blocked (accounted : store.Accounted handles)
    (chosen : store.policy.evict.1 = none) :
    ({ store with policy := store.policy.evict.2 } : Store).Accounted handles where
  bounded := accounted.bounded
  pins := accounted.pins
  cachedBefore := accounted.cachedBefore
  fetchedBefore := accounted.fetchedBefore
  recent := EvictionPolicy.recent_evict accounted.recent
  lists := (accounted.lists.evict_none chosen).1

/-- The order of use after a handle was given up: the page is entered if the handle
leads to it and was its last one. -/
theorem policy_unpin (store : Store) (handle : Handle) :
    (∃ frame, store.frames.get? handle.page = some frame ∧ frame.serial = handle.serial ∧
      (store.unpin handle).policy =
        if frame.pins - 1 = 0 then store.policy.unpin handle.page else store.policy) ∨
    (∀ frame, store.frames.get? handle.page = some frame → frame.serial ≠ handle.serial) ∧
      (store.unpin handle).policy = store.policy := by
  simp only [Store.unpin]
  split
  · next frame found =>
      split
      · next led => exact .inl ⟨frame, found, led, rfl⟩
      · next unled =>
          refine .inr ⟨?_, rfl⟩
          intro own known
          cases found.symm.trans known
          exact unled
  · next missing =>
      refine .inr ⟨?_, rfl⟩
      intro own known
      cases missing.symm.trans known

theorem idle_unpin (store : Store) (handle : Handle) (id : PageId) :
    (store.unpin handle).Idle id ↔ ∃ frame, store.frames.get? id = some frame ∧
      (if id = handle.page ∧ frame.serial = handle.serial then frame.pins - 1
        else frame.pins) = 0 := by
  simp only [Idle, frames_unpin, Option.map_eq_some_iff]
  constructor
  · rintro ⟨_, ⟨frame, found, rfl⟩, none⟩
    exact ⟨frame, found, by split <;> simp_all⟩
  · rintro ⟨frame, found, none⟩
    exact ⟨_, ⟨frame, found, rfl⟩, by split <;> simp_all⟩

/-- A handle that leads to a cached page was its last one, or another one is left.  Any
other handle leaves the order of use alone. -/
theorem Accounted.give_lists (accounted : store.Accounted handles) (live : handle ∈ handles) :
    (store.unpin handle).policy.Lists (store.unpin handle).Idle := by
  rcases policy_unpin store handle with ⟨frame, found, led, -⟩ | ⟨unled, policy⟩
  · have pinned : 0 < frame.pins := by
      rw [accounted.pins _ frame found, led]
      exact pinsOn_pos live
    exact lists_unpin found led accounted.lists pinned
  · rw [policy]
    apply accounted.lists.congr
    intro other
    rw [idle_unpin, Idle]
    apply exists_congr
    intro frame
    apply and_congr_right
    intro found
    rw [if_neg]
    rintro ⟨rfl, led⟩
    exact unled frame found led

/-- Only a handle that leads to the page as it is cached takes a pin from it. -/
theorem Accounted.give (accounted : store.Accounted handles) (live : handle ∈ handles) :
    (store.unpin handle).Accounted (handles.erase handle) := by
  have frames := frames_unpin store handle
  constructor
  · have contains (id : PageId) :
        (store.unpin handle).frames.contains id = store.frames.contains id := by
      rw [SortedMap.contains, frames, Option.isSome_map]
      rfl
    rw [SortedMap.size_congr contains, (lasts_unpin store handle).capacity]
    exact accounted.bounded
  · intro id frame found
    rw [frames, Option.map_eq_some_iff] at found
    obtain ⟨old, known, rfl⟩ := found
    rw [pinsOn_erase live]
    have before := accounted.pins id old known
    split
    · next leads => rw [if_pos ⟨leads.1.symm, leads.2.symm⟩, ← before]
    · next other =>
        rw [if_neg fun both => other ⟨both.1.symm, both.2.symm⟩]
        exact before
  · intro id frame found
    rw [frames, Option.map_eq_some_iff] at found
    obtain ⟨old, known, rfl⟩ := found
    rw [nextSerial_unpin]
    split <;> exact accounted.cachedBefore id old known
  · intro other kept
    rw [nextSerial_unpin]
    exact accounted.fetchedBefore other (List.mem_of_mem_erase kept)
  · rcases policy_unpin store handle with ⟨frame, -, -, policy⟩ | ⟨-, policy⟩
    · rw [policy]
      split
      · exact EvictionPolicy.recent_unpin accounted.recent handle.page
      · exact accounted.recent
    · rw [policy]
      exact accounted.recent
  · exact accounted.give_lists live

theorem Accounted.discard (accounted : store.Accounted handles) (id : PageId) :
    (store.discard id).Accounted handles := by
  have policy : (store.discard id).policy = store.policy.pin id := by
    simp only [Store.discard, policy_dropFrame]
    rfl
  apply accounted.drop (show (store.discard id).frames = (store.dropFrame id).frames from rfl)
  · exact (lasts_dropFrame store id).capacity
  · simp only [Store.discard, nextSerial_dropFrame]
  · rw [policy]
    exact EvictionPolicy.recent_pin accounted.recent id
  · intro idle others
    rw [policy]
    exact accounted.lists.pin others

theorem Accounted.step {before later : Store × List Handle} (step : CacheStep before later)
    (accounted : before.1.Accounted before.2) : later.1.Accounted later.2 := by
  cases step with
  | edit edit => exact accounted.stays edit.stays
  | hit found serial => exact accounted.hit found serial
  | load absent reads room serial =>
      obtain ⟨table, -, fits, -⟩ := reads.fits
      exact accounted.load absent fits.id room serial
  | swap absent reads chosen cached clean serial =>
      obtain ⟨table, -, fits, -⟩ := reads.fits
      obtain ⟨rest, room⟩ := accounted.vacated chosen
      refine rest.load ?_ fits.id room ?_
      · rw [Store.vacated, frames_dropFrame]
        split
        · rfl
        · exact absent
      · rw [serial, Store.vacated, nextSerial_dropFrame]
  | stray absent reads chosen uncached serial =>
      obtain ⟨frame, found, -⟩ := accounted.idle_of_chosen chosen
      cases uncached.symm.trans found
  | blocked chosen => exact accounted.blocked chosen
  | spare chosen cached => exact accounted.spare chosen
  | give live => exact accounted.give live
  | discard id => exact accounted.discard id

/-! ## What follows -/

/-- A write never fails for want of room in the cache. -/
theorem writeBack_ne_poolFull (store : Store) (page : Page) :
    store.writeBack page ≠ .error .poolFull := by
  intro run
  cases writeBack_error run

theorem Accounted.evict_full (accounted : store.Accounted handles) :
    (∃ room, store.evict = (.error .poolFull, room)) ↔ ∀ id, ¬ store.Idle id := by
  have idle {victim : PageId} (chosen : store.policy.evict.1 = some victim) :
      ¬ ∀ id, ¬ store.Idle id := fun nobody => nobody victim (accounted.idle_of_chosen chosen)
  rcases run : store.evict with ⟨result, after⟩
  cases makes_room run with
  | nobody chosen =>
      obtain ⟨queue, recent⟩ := accounted.recent
      have nobody := (accounted.lists.evict_none chosen).2 queue recent
      exact ⟨fun _ => nobody, fun _ => ⟨_, rfl⟩⟩
  | stray chosen => exact ⟨nofun, fun nobody => absurd nobody (idle chosen)⟩
  | spares chosen cached failed =>
      refine ⟨?_, fun nobody => absurd nobody (idle chosen)⟩
      rintro ⟨room, ⟨⟩⟩
      exact absurd failed (writeBack_ne_poolFull store _)
  | leaves chosen => exact ⟨nofun, fun nobody => absurd nobody (idle chosen)⟩

theorem Accounted.evict_leaves (accounted : store.Accounted handles) (fitting : store.Fitting)
    {frame : Frame} (found : store.frames.get? id = some frame)
    (gone : store.evict.2.frames.get? id = none) : frame.pins = 0 := by
  rcases run : store.evict with ⟨result, after⟩
  rw [run] at gone
  cases makes_room run with
  | nobody => cases found.symm.trans gone
  | stray => cases found.symm.trans gone
  | spares => cases found.symm.trans gone
  | @leaves victim page clean written chosen cached wrote =>
      rw [frames_dropFrame] at gone
      split at gone
      · next here =>
          obtain ⟨own, known, none⟩ := accounted.idle_of_chosen chosen
          rw [← here] at known
          cases found.symm.trans known
          exact none
      · have still := (fitting.written cached wrote).1.stays.hold id
        rw [found, show (written.setPage clean).frames.get? id = none from gone] at still
        cases still

/-- Whether the cache is full when a page is fetched that could be loaded. -/
theorem Accounted.attempt_full (accounted : store.Accounted handles) {request : PageRequest}
    {page : Page} (absent : store.frames.get? request.page = none)
    (read : store.readPage request.page = .ok page)
    (granted : (store.askLock request.txn request.page request.mode).1 = .granted) :
    (∃ after, store.attempt request = (.finished (.error .poolFull), after)) ↔
      store.frames.size = store.capacity ∧ ∀ id, ¬ store.Idle id := by
  have locked : (store.locked request).Accounted handles := by
    exact accounted.stays (Edit.relock _).stays
  have pinning : (∃ room, (store.locked request).pin request.page = (.error .poolFull, room)) ↔
      store.frames.size = store.capacity ∧ ∀ id, ¬ store.Idle id := by
    have bounded := accounted.bounded
    have full := locked.evict_full
    rcases run : (store.locked request).pin request.page with ⟨result, after⟩
    cases pin_cases run with
    | hits found => cases absent.symm.trans found
    | unreadable _ unread => cases read.symm.trans unread
    | loads _ _ made =>
        constructor
        · rintro ⟨other, ⟨⟩⟩
        · rintro ⟨size, nobody⟩
          rcases made with ⟨space, -⟩ | ⟨-, evicted⟩
          · exact absurd size (Nat.ne_of_lt space)
          · obtain ⟨other, failed⟩ := full.mpr nobody
            cases evicted.symm.trans failed
    | blocked _ _ small evicted =>
        have size : store.frames.size = store.capacity := Nat.le_antisymm bounded small
        constructor
        · rintro ⟨other, ⟨⟩⟩
          exact ⟨size, full.mp ⟨_, evicted⟩⟩
        · rintro ⟨-, nobody⟩
          obtain ⟨other, failed⟩ := full.mpr nobody
          cases evicted.symm.trans failed
          exact ⟨_, rfl⟩
  rw [← pinning]
  constructor
  · rintro ⟨after, run⟩
    cases attempt_cases run with
    | fails granted unpinned => exact ⟨_, unpinned⟩
  · rintro ⟨room, failed⟩
    exact ⟨_, attempt_of_unpinned (askLock_of_granted (granted_of_askLock granted)) failed⟩

structure Balanced (store : Store) (handles : List Handle) : Prop where
  bounded : store.cachedCount ≤ store.capacity
  pins : ∀ id frame, store.frames.get? id = some frame →
    frame.pins = pinsOn handles id frame.serial
  /-- No pin is given up that is not there. -/
  pinned : ∀ handle ∈ handles, ∀ frame, store.frames.get? handle.page = some frame →
    frame.serial = handle.serial → 0 < frame.pins
  /-- The queue holds exactly the cached pages without pins, each of them once. -/
  queue : ∃ queue, store.policy = .leastRecent queue ∧ queue.byAge.values.Nodup ∧
    (∀ id, id ∈ queue.byAge.values ↔ store.Idle id) ∧
    ∀ id, id ∈ queue.lastUse.keys ↔ store.Idle id
  /-- Only a page to which no handle leads makes room for another one. -/
  leaves : ∀ id frame, store.frames.get? id = some frame →
    store.evict.2.frames.get? id = none → pinsOn handles id frame.serial = 0
  /-- A page that could be loaded finds the cache full exactly if it is full and every
  page in it has a handle. -/
  full : ∀ request page, store.frames.get? request.page = none →
    store.readPage request.page = .ok page →
    (store.askLock request.txn request.page request.mode).1 = .granted →
    ((∃ after, store.attempt request = (.finished (.error .poolFull), after)) ↔
      store.cachedCount = store.capacity ∧
        ∀ id frame, store.frames.get? id = some frame → 0 < pinsOn handles id frame.serial)

theorem Accounted.idle_iff (accounted : store.Accounted handles) {frame : Frame}
    (found : store.frames.get? id = some frame) :
    store.Idle id ↔ pinsOn handles id frame.serial = 0 := by
  rw [← accounted.pins id frame found]
  constructor
  · rintro ⟨own, known, none⟩
    cases found.symm.trans known
    exact none
  · intro none
    exact ⟨frame, found, none⟩

theorem Accounted.balanced (accounted : store.Accounted handles) (fitting : store.Fitting) :
    store.Balanced handles where
  bounded := accounted.bounded
  pins := accounted.pins
  pinned := by
    intro handle live frame found led
    rw [accounted.pins _ frame found, led]
    exact pinsOn_pos live
  queue := by
    obtain ⟨queue, recent⟩ := accounted.recent
    obtain ⟨sound, listed⟩ := accounted.lists queue recent
    refine ⟨queue, recent, sound.nodup_byAge, ?_, ?_⟩
    · intro id
      rw [sound.mem_byAge, listed]
    · intro id
      rw [SortedMap.mem_keys_iff_contains]
      exact listed id
  leaves := by
    intro id frame found gone
    rw [← accounted.pins id frame found]
    exact accounted.evict_leaves fitting found gone
  full := by
    intro request page absent read granted
    rw [accounted.attempt_full absent read granted]
    apply and_congr_right
    intro size
    constructor
    · intro nobody id frame found
      exact Nat.pos_of_ne_zero (mt (accounted.idle_iff found).mpr (nobody id))
    · rintro pinned id idle
      obtain ⟨frame, found, none⟩ := idle
      have some := pinned id frame found
      rw [← accounted.pins id frame found, none] at some
      cases some

theorem Accounted.around (accounted : store.Accounted handles) (disk : Disk) (catalog : Catalog)
    (unwritable : SortedMap PageId String) :
    ({ store with disk, catalog, unwritable } : Store).Accounted handles :=
  ⟨accounted.bounded, accounted.pins, accounted.cachedBefore, accounted.fetchedBefore,
    accounted.recent, accounted.lists⟩

theorem accounted_of_empty {tick : Nat} (empty : store.frames = ∅)
    (unused : store.policy = .leastRecent { tick }) : store.Accounted [] := by
  constructor
  · rw [empty]
    exact Nat.zero_le store.capacity
  · intro id frame found
    rw [empty] at found
    cases found
  · intro id frame found
    rw [empty] at found
    cases found
  · intro handle live
    cases live
  · exact ⟨_, unused⟩
  · rw [unused]
    rintro _ ⟨⟩
    refine ⟨RecencyQueue.sound_unused tick, ?_⟩
    intro page
    simp [RecencyQueue.lists, SortedMap.contains, Store.Idle, empty]

theorem accounted_new (disk : Disk) (catalog : Catalog) (capacity : Nat) :
    ({ disk, catalog, capacity } : Store).Accounted [] :=
  accounted_of_empty rfl rfl

end Store

namespace System

theorem accounted_carryAll (disk : Disk) (catalog : Catalog) (capacity : Nat)
    (deeds : List Deed) :
    let system := ({ store := { disk, catalog, capacity } } : System).carryAll deeds
    system.store.Fitting ∧ system.store.Accounted system.handles ∧
      system.store.capacity = capacity := by
  let start : System := { store := { disk, catalog, capacity } }
  have fitting : start.store.Fitting := Store.fitting_of_empty rfl
  let keeps (cache : Store × List Handle) : Prop :=
    cache.1.Accounted cache.2 ∧ cache.1.capacity = capacity
  have step (before later : Store × List Handle) (_ : before.1.Fitting)
      (step : Store.CacheStep before later) (kept : keeps before) : keeps later :=
    ⟨kept.1.step step, step.lasts.capacity.trans kept.2⟩
  have around (store : Store) (handles : List Handle) (disk : Disk) (catalog : Catalog)
      (unwritable : SortedMap PageId String) (kept : keeps (store, handles)) :
      keeps ({ store with disk, catalog, unwritable }, handles) :=
    ⟨kept.1.around disk catalog unwritable, kept.2⟩
  exact carryAll_keeps step around fitting ⟨Store.accounted_new disk catalog capacity, rfl⟩ deeds

theorem bounded_run (disk : Disk) (catalog : Catalog) (capacity : Nat) (actions : List Action) :
    (({ store := { disk, catalog, capacity } } : System).run actions).store.frames.size ≤
      capacity := by
  obtain ⟨-, accounted, same⟩ :=
    accounted_carryAll disk catalog capacity (actions.map .act)
  have bounded := accounted.bounded
  rwa [same, carryAll_act] at bounded

/-- Whatever is done to a store whose cache was empty, the cache stays within its
bounds, pins are handles, and the order of use lists the pages that may leave. -/
theorem cache_stays_balanced (disk : Disk) (catalog : Catalog) (capacity : Nat)
    (deeds : List Deed) :
    let system := ({ store := { disk, catalog, capacity } } : System).carryAll deeds
    system.store.Balanced system.handles := by
  obtain ⟨fitting, accounted, -⟩ := accounted_carryAll disk catalog capacity deeds
  exact accounted.balanced fitting

end System

end TableStore
