import TableStore.Proofs.Evictions

/-!
# Fetching pages

A request for a page is refused, fails, or ends with a pin on the cached page,
which the transaction then holds.  All that happens to the pages meanwhile are
moves of the store: locks are granted, a page leaves the cache and the page asked
for is loaded.  Only the requesting transaction gets or gives back a lock.
-/

set_option autoImplicit false

namespace TableStore.Store

variable {store middle after : Store} {id : PageId} {page : Page} {table : Table}
  {txn : TxnId} {writes : TxnId → Prop}

/-! ## Moves of stores -/

/-- The second store is reached from the first by moves that write the changes
of the given transactions only. -/
structure Moves (writes : TxnId → Prop) (store after : Store) : Prop
    extends Continues store after where
  sound : after.Sound
  shifts : Outline.Shifts store.catalog.blank writes store.outline after.outline

theorem Moves.trans (first : Moves writes store middle) (second : Moves writes middle after) :
    Moves writes store after where
  toContinues := first.toContinues.trans second.toContinues
  sound := second.sound
  shifts := first.shifts.trans (first.catalog ▸ second.shifts)

theorem Rests.moves (rests : Rests store after) (sound : store.Sound)
    (keeps : ∀ txn id, store.locks.mode? txn id = some .exclusive →
      after.locks.mode? txn id = some .exclusive) : Moves writes store after where
  toContinues := rests.continues
  sound := rests.sound sound
  shifts := by
    have same : after.outline =
        { store.outline with mode := after.outline.mode, alone := after.outline.alone } :=
      Outline.ext (funext rests.states) rfl rests.continues.lost
    rw [same]
    exact .single (.relock after.outline.mode after.outline.alone keeps)

theorem Rests.moves_of_locks (rests : Rests store after) (sound : store.Sound)
    (locks : after.locks = store.locks) : Moves writes store after :=
  rests.moves sound fun _ _ exclusive => locks ▸ exclusive

/-- The page that leaves the cache may only have changes of the transactions
whose changes may be written. -/
def Spares (writes : TxnId → Prop) (store after : Store) : Prop :=
  ∀ id page txn, store.cached? id = some page → after.cached? id = none →
    page.dirtiedBy = some txn → writes txn

instance (writes : TxnId → Prop) [DecidablePred writes] (store after : Store) :
    Decidable (Spares writes store after) :=
  decidable_of_iff
    (∀ entry ∈ store.frames.entries, after.cached? entry.1 = none →
      ∀ txn ∈ entry.2.page.dirtiedBy, writes txn)
    ⟨fun all id page txn cached gone dirty => by
      obtain ⟨frame, found, rfl⟩ := Option.map_eq_some_iff.mp cached
      exact all (id, frame) (SortedMap.mem_entries_iff.mpr found) gone txn dirty,
    fun spares entry member gone txn dirty =>
      spares entry.1 entry.2.page txn
        (cached?_of_frame (SortedMap.mem_entries_iff.mp member)) gone dirty⟩

theorem Spares.any : Spares (fun _ => True) store after := fun _ _ _ _ _ _ => trivial

/-- A page leaves the cache in the first part of some work if it is not there at
the end. -/
theorem Spares.before {some : TxnId → Prop} (spares : Spares some store after)
    (absent : ∀ id, middle.cached? id = none → after.cached? id = none) :
    Spares some store middle :=
  fun id page txn cached gone => spares id page txn cached (absent id gone)

theorem outline_of_single (mode : ∀ txn id, after.locks.mode? txn id = store.locks.mode? txn id)
    (lost : after.Lost = store.Lost)
    (others : ∀ other, other ≠ id → after.pageState other = store.pageState other)
    {state : PageState} (here : after.pageState id = state) :
    after.outline = store.outline.set id state := by
  refine Outline.ext (funext fun other => ?_)
    (funext fun txn => funext fun other => mode txn other) lost
  by_cases same : other = id
  · subst same
    simp only [Outline.set, if_true]
    exact here
  · simp only [Outline.set, if_neg same]
    exact others other same

theorem Leaves.moves (leaves : Leaves store after id) (cached : store.cached? id = some page)
    (state : after.pageState id = match page.dirtiedBy with
      | none => { store.pageState id with cached := none }
      | some _ => ⟨none, (store.pageState id).filed page.contents, false⟩)
    (may : ∀ txn, page.dirtiedBy = some txn → writes txn) : Moves writes store after where
  toContinues := leaves.toContinues
  sound := leaves.sound
  shifts := by
    have copy : (store.outline.page id).cached = some page.copy := by
      change (store.cached? id).map Page.copy = some page.copy
      rw [cached]
      rfl
    have modes (txn : TxnId) (other : PageId) :
        after.locks.mode? txn other = store.locks.mode? txn other := by
      rw [leaves.locks]
    cases dirty : page.dirtiedBy with
    | none =>
        rw [dirty] at state
        rw [outline_of_single modes leaves.toContinues.lost leaves.page state]
        exact .single (.leave id page.copy copy dirty)
    | some txn =>
        rw [dirty] at state
        have first : Outline.Shift store.outline store.catalog.blank writes
            (store.outline.set id ((store.outline.page id).written page.copy)) :=
          .write id page.copy txn copy dirty (may txn dirty)
        refine .head first ?_
        have second : after.outline =
            (store.outline.set id ((store.outline.page id).written page.copy)).set id
              { (store.outline.set id ((store.outline.page id).written page.copy)).page id with
                cached := none } := by
          rw [outline_of_single modes leaves.toContinues.lost leaves.page state]
          refine Outline.ext (funext fun other => ?_) rfl rfl
          simp only [Outline.set]
          split
          · rfl
          · rfl
        rw [second]
        refine .single (.leave id { page.copy with dirtiedBy := none } ?_ rfl)
        simp only [Outline.set, if_true]
        rfl

theorem Sound.evict_moves (sound : store.Sound) {result : Except StoreError Unit}
    (run : store.evict = (result, after)) (spares : Spares writes store after) :
    Moves writes store after := by
  cases sound.evict_cases run with
  | nobody chosen => exact (sound.repolicy _).moves_of_locks sound rfl
  | stray chosen absent => exact (sound.repolicy _).moves_of_locks sound rfl
  | stays => exact (sound.repolicy _).moves_of_locks sound rfl
  | @leaves victim frame _ chosen found free leaves policy state =>
      have cached : store.cached? victim = some frame.page := cached?_of_frame found
      have gone : after.cached? victim = none :=
        cached?_of_missing ((leaves.frames victim).trans (if_pos rfl))
      exact leaves.moves cached state fun txn => spares victim frame.page txn cached gone

/-! ## Loading pages -/

theorem Sound.install (sound : store.Sound) (absent : store.cached? id = none)
    (registered : store.catalog.tables.get? id.table = some table) (fits : page.Fits table id)
    {contents : Contents} (copy : page.copy = ⟨contents, contents, none⟩)
    (stored : store.stored id = .ok contents) :
    Moves writes store (store.install page).2 ∧
      (∀ other, (store.install page).2.frames.get? other =
        if other = id then some ⟨page, 1, store.nextSerial⟩ else store.frames.get? other) := by
  have frames (other : PageId) : (store.install page).2.frames.get? other =
      if other = id then some ⟨page, 1, store.nextSerial⟩ else store.frames.get? other := by
    rw [← fits.id]
    exact SortedMap.get?_insert store.frames page.id other _
  have cached (other : PageId) : (store.install page).2.cached? other =
      if other = id then some page else store.cached? other := by
    rw [cached?, frames]
    split <;> rfl
  have states (other : PageId) (different : other ≠ id) :
      (store.install page).2.pageState other = store.pageState other := by
    rw [pageState, pageState, cached, if_neg different]
    rfl
  have state : (store.install page).2.pageState id =
      { store.pageState id with cached := some ⟨contents, contents, none⟩ } := by
    rw [pageState, cached, if_pos rfl, Option.map_some, copy]
    rfl
  refine ⟨⟨⟨rfl, rfl, rfl, fun _ _ _ => rfl⟩,
    ⟨sound.catalog, sound.locks, fun other found => ?_⟩, ?_⟩, frames⟩
  · rw [cached]
    split
    · next here =>
        rintro ⟨⟩
        exact ⟨⟨table, here ▸ registered, here ▸ fits⟩, .inl ⟨contents, here ▸ stored⟩⟩
    · exact sound.page other found
  · have modes (txn : TxnId) (other : PageId) :
        (store.install page).2.locks.mode? txn other = store.locks.mode? txn other := rfl
    rw [outline_of_single modes rfl states state]
    refine .single (.load id contents ?_ stored)
    change (store.cached? id).map Page.copy = none
    rw [absent]
    rfl

theorem pin_of_cached {frame : Frame} (found : store.frames.get? id = some frame) :
    store.pin id = (.ok frame.serial, { store with
      frames := store.frames.insert id { frame with pins := frame.pins + 1 }
      policy := store.policy.pin id }) := by
  rw [pin, found]

theorem pin_of_unreadable {error : StoreError} (absent : store.frames.get? id = none)
    (unread : store.readPage id = .error error) : store.pin id = (.error error, store) := by
  rw [pin, absent]
  simp only [unread]

inductive Pins (store : Store) (id : PageId) : Except StoreError Nat → Store → Prop
  | hits {frame : Frame} (found : store.frames.get? id = some frame) :
      Pins store id (.ok frame.serial) { store with
        frames := store.frames.insert id { frame with pins := frame.pins + 1 }
        policy := store.policy.pin id }
  | unreadable {error : StoreError} (absent : store.frames.get? id = none)
      (unread : store.readPage id = .error error) : Pins store id (.error error) store
  | loads {page : Page} {room : Store} (absent : store.frames.get? id = none)
      (read : store.readPage id = .ok page)
      (made : store.frames.size < store.capacity ∧ room = store ∨
        store.capacity ≤ store.frames.size ∧ store.evict = (.ok (), room)) :
      Pins store id (.ok room.nextSerial) (room.install page).2
  | blocked {page : Page} {error : StoreError} {room : Store}
      (absent : store.frames.get? id = none) (read : store.readPage id = .ok page)
      (full : store.capacity ≤ store.frames.size) (evicted : store.evict = (.error error, room)) :
      Pins store id (.error error) room

theorem pin_cases {result : Except StoreError Nat} (run : store.pin id = (result, after)) :
    Pins store id result after := by
  cases found : store.frames.get? id with
  | some frame =>
      cases (pin_of_cached found).symm.trans run
      exact .hits found
  | none =>
      cases read : store.readPage id with
      | error error =>
          cases (pin_of_unreadable found read).symm.trans run
          exact .unreadable found read
      | ok page =>
          rw [pin, found] at run
          simp only [read] at run
          by_cases space : store.frames.size < store.capacity
          · rw [if_pos space] at run
            cases run
            exact .loads found read (.inl ⟨space, rfl⟩)
          · rw [if_neg space] at run
            have full := Nat.le_of_not_lt space
            rcases evicted : store.evict with ⟨_ | _, room⟩
            · simp only [evicted] at run
              cases run
              exact .blocked found read full evicted
            · simp only [evicted] at run
              cases run
              exact .loads found read (.inr ⟨full, evicted⟩)

def Holds (store : Store) (id : PageId) (serial : Nat) : Prop :=
  ∃ frame, store.frames.get? id = some frame ∧ frame.serial = serial

theorem Sound.evict_locks (sound : store.Sound) {result : Except StoreError Unit}
    (run : store.evict = (result, after)) : after.locks = store.locks := by
  cases sound.evict_cases run with
  | nobody => rfl
  | stray => rfl
  | stays => rfl
  | leaves _ _ _ leaves => exact leaves.locks

/-- A page that is not in the cache is not there after an eviction either, and
its file has the same contents. -/
theorem Sound.evict_absent (sound : store.Sound) {result : Except StoreError Unit}
    (run : store.evict = (result, after)) (absent : store.frames.get? id = none) :
    after.frames.get? id = none ∧ after.stored id = store.stored id := by
  cases sound.evict_cases run with
  | nobody => exact ⟨absent, rfl⟩
  | stray => exact ⟨absent, rfl⟩
  | stays => exact ⟨absent, rfl⟩
  | @leaves victim frame _ chosen found free leaves =>
      have other : id ≠ victim := by
        rintro rfl
        cases found.symm.trans absent
      rw [leaves.frames, if_neg other]
      exact ⟨absent, congrArg PageState.stored (leaves.page id other)⟩

theorem Sound.evict_error (sound : store.Sound) {error : StoreError}
    (run : store.evict = (.error error, after)) : Rests store after ∧ after.locks = store.locks ∧
      after.frames = store.frames := by
  cases sound.evict_cases run with
  | nobody => exact ⟨sound.repolicy _, rfl, rfl⟩
  | stays => exact ⟨sound.repolicy _, rfl, rfl⟩

theorem Sound.room (sound : store.Sound) (absent : store.frames.get? id = none) {room : Store}
    (made : store.frames.size < store.capacity ∧ room = store ∨
      store.capacity ≤ store.frames.size ∧ store.evict = (.ok (), room))
    (spares : ∀ other, other ≠ id → room.cached? other = none → ∀ page txn,
      store.cached? other = some page → page.dirtiedBy = some txn → writes txn) :
    Moves writes store room ∧ room.locks = store.locks ∧ room.frames.get? id = none ∧
      room.stored id = store.stored id := by
  rcases made with ⟨-, rfl⟩ | ⟨-, evicted⟩
  · exact ⟨⟨.refl _, sound, .refl⟩, rfl, absent, rfl⟩
  · obtain ⟨still, stored⟩ := sound.evict_absent evicted absent
    refine ⟨sound.evict_moves evicted fun other page txn cached gone => ?_,
      sound.evict_locks evicted, still, stored⟩
    refine spares other ?_ gone page txn cached
    rintro rfl
    rw [cached?, absent] at cached
    cases cached

theorem Sound.repin (sound : store.Sound) {frame : Frame}
    (found : store.frames.get? id = some frame) (policy : EvictionPolicy) :
    Rests store { store with
      frames := store.frames.insert id { frame with pins := frame.pins + 1 }
      policy } := by
  refine ⟨rfl, rfl, rfl, rfl, rfl, fun other => ?_, sound.locks⟩
  rw [cached?, cached?, SortedMap.get?_insert]
  split
  · next here =>
      rw [here, found]
      rfl
  · rfl

theorem Sound.pin (sound : store.Sound) {result : Except StoreError Nat}
    (run : store.pin id = (result, after)) (spares : Spares writes store after) :
    (∃ serial, result = .ok serial ∧ Moves writes store after ∧ after.locks = store.locks ∧
        Holds after id serial) ∨
      ∃ error, result = .error error ∧ Rests store after ∧ after.locks = store.locks := by
  cases pin_cases run with
  | @hits frame found =>
      exact .inl ⟨frame.serial, rfl, (sound.repin found _).moves_of_locks sound rfl, rfl,
        { frame with pins := frame.pins + 1 }, SortedMap.get?_insert_self _ _ _, rfl⟩
  | @unreadable error absent unread =>
      exact .inr ⟨error, rfl, ⟨rfl, rfl, rfl, rfl, rfl, fun _ => rfl, sound.locks⟩, rfl⟩
  | @loads page room absent read made =>
      obtain ⟨table, registered, -, -, fits, image, clean⟩ := sound.readPage_ok read
      have stored : store.stored id = .ok page.contents := by
        rw [Store.stored, read]
        rfl
      have cachedAfter (other : PageId) (different : other ≠ id) :
          (room.install page).2.cached? other = room.cached? other := by
        have inserted := SortedMap.get?_insert room.frames page.id other ⟨page, 1, room.nextSerial⟩
        rw [fits.id, if_neg different] at inserted
        rw [cached?, cached?, ← inserted, ← fits.id]
        rfl
      have roomSpares (other : PageId) (different : other ≠ id) (gone : room.cached? other = none)
          (page : Page) (txn : TxnId) (cached : store.cached? other = some page) :
          page.dirtiedBy = some txn → writes txn :=
        spares other page txn cached ((cachedAfter other different).trans gone)
      obtain ⟨roomMoves, locks, still, storedAfter⟩ := sound.room absent made roomSpares
      have copy : page.copy = ⟨page.contents, page.contents, none⟩ := by
        rw [Page.copy_eq image, clean]
      have uncached : room.cached? id = none := cached?_of_missing still
      obtain ⟨moves, frames⟩ : Moves writes room (room.install page).2 ∧ _ :=
        roomMoves.sound.install uncached (roomMoves.catalog ▸ registered) fits copy
          (storedAfter.trans stored)
      refine .inl ⟨room.nextSerial, rfl, roomMoves.trans moves, locks,
        ⟨page, 1, room.nextSerial⟩, ?_, rfl⟩
      rw [frames, if_pos rfl]
  | @blocked page error room absent read full evicted =>
      obtain ⟨rests, locks, -⟩ := sound.evict_error evicted
      exact .inr ⟨error, rfl, rests, locks⟩

/-! ## Requests -/

theorem relock_rests {locks : LockTable} (sound : locks.Sound) :
    Rests store { store with locks } :=
  ⟨rfl, rfl, rfl, rfl, rfl, fun _ => rfl, sound⟩

def locked (store : Store) (request : PageRequest) : Store :=
  { store with locks := (store.locks.acquire request.txn request.page request.mode).2 }

theorem askLock_of_granted {request : PageRequest}
    (granted : (store.locks.acquire request.txn request.page request.mode).1 = true) :
    store.askLock request.txn request.page request.mode = (.granted, store.locked request) := by
  have answer : store.locks.acquire request.txn request.page request.mode =
      (true, (store.locked request).locks) := Prod.ext granted rfl
  simp only [askLock, answer]
  rfl

theorem askLock_of_refused {request : PageRequest}
    (refused : (store.locks.acquire request.txn request.page request.mode).1 = false) :
    store.askLock request.txn request.page request.mode =
      if (store.locked request).locks.isDeadlock request.txn request.page = true then
        (.deadlock, { store with locks := (store.locked request).locks.cancelWait request.txn })
      else (.refused, store.locked request) := by
  have answer : store.locks.acquire request.txn request.page request.mode =
      (false, (store.locked request).locks) := Prod.ext refused rfl
  simp only [askLock, answer]
  rfl

theorem granted_of_askLock {request : PageRequest}
    (asked : (store.askLock request.txn request.page request.mode).1 = .granted) :
    (store.locks.acquire request.txn request.page request.mode).1 = true := by
  by_contra refused
  rw [askLock_of_refused (Bool.eq_false_iff.mpr refused)] at asked
  split at asked <;> cases asked

/-- No transaction loses a lock or an exclusive mode, and at most the one that
made the request gets one. -/
structure Relocks (request : PageRequest) (store after : Store) : Prop where
  others : ∀ txn id, txn ≠ request.txn →
    after.locks.mode? txn id = store.locks.mode? txn id
  keeps : ∀ txn id, (store.locks.mode? txn id).isSome = true →
    (after.locks.mode? txn id).isSome = true
  exclusive : ∀ txn id, store.locks.mode? txn id = some .exclusive →
    after.locks.mode? txn id = some .exclusive

theorem Relocks.of_modes {request : PageRequest}
    (modes : ∀ txn id, after.locks.mode? txn id = store.locks.mode? txn id) :
    Relocks request store after where
  others txn id _ := modes txn id
  keeps txn id holds := by
    rw [modes]
    exact holds
  exclusive txn id exclusive := (modes txn id).trans exclusive

theorem relocks_of_granted {request : PageRequest}
    (granted : (store.locks.acquire request.txn request.page request.mode).1 = true) :
    Relocks request store (store.locked request) := by
  have modes (txn : TxnId) (id : PageId) : (store.locked request).locks.mode? txn id = _ :=
    LockTable.mode?_of_granted granted
  refine ⟨fun txn id other => ?_, fun txn id holds => ?_, fun txn id exclusive => ?_⟩
  · rw [modes, if_neg fun here => other here.1]
  · rw [modes]
    split
    · rfl
    · exact holds
  · rw [modes]
    split
    · next here =>
        rw [← here.1, ← here.2, exclusive]
        cases request.mode <;> rfl
    · exact exclusive

theorem Relocks.back {request : PageRequest} (relocks : Relocks request store middle)
    (back : ∀ txn id, after.locks.mode? txn id = middle.locks.mode? txn id ∨
      after.locks.mode? txn id = store.locks.mode? txn id) : Relocks request store after := by
  refine ⟨fun txn id other => ?_, fun txn id holds => ?_, fun txn id exclusive => ?_⟩
  · rcases back txn id with same | same
    · exact same.trans (relocks.others txn id other)
    · exact same
  · rcases back txn id with same | same
    · rw [same]
      exact relocks.keeps txn id holds
    · rw [same]
      exact holds
  · rcases back txn id with same | same
    · exact same.trans (relocks.exclusive txn id exclusive)
    · exact same.trans exclusive

theorem giveBack_relocked (store : Store) (request : PageRequest) (error : StoreError) :
    ∃ locks, store.giveBack request error = { store with locks } := by
  rw [giveBack]
  split
  · exact ⟨store.locks, rfl⟩
  · exact ⟨_, rfl⟩

theorem Sound.giveBack (sound : store.Sound) {request : PageRequest} (error : StoreError)
    (locks : middle.locks = (store.locked request).locks)
    (held : request.heldBefore = store.locks.holds request.txn request.page) :
    Rests middle (middle.giveBack request error) ∧
      ∀ txn id, (middle.giveBack request error).locks.mode? txn id = middle.locks.mode? txn id ∨
        (middle.giveBack request error).locks.mode? txn id = store.locks.mode? txn id := by
  have middleSound : middle.locks.Sound := locks ▸ sound.locks.acquire
  rw [Store.giveBack]
  split
  · exact ⟨relock_rests middleSound, fun txn id => .inl rfl⟩
  · next given =>
      refine ⟨relock_rests middleSound.release, fun txn id => ?_⟩
      have fresh : store.locks.mode? request.txn request.page = none := by
        simp only [Bool.or_eq_true, not_or, held, LockTable.holds] at given
        simpa using given.1
      rw [LockTable.mode?_release middleSound]
      split
      · next here => exact .inr (by rw [here.1, here.2, fresh])
      · exact .inl rfl

inductive Answered (request : PageRequest) (store after : Store) :
    Progress PageRequest (Except StoreError Handle) → Prop
  | waiting (modes : ∀ txn id, after.locks.mode? txn id = store.locks.mode? txn id) :
      Answered request store after (.waiting request)
  | failed (error : StoreError) : Answered request store after (.finished (.error error))
  | granted (serial : Nat) (cached : Holds after request.page serial)
      (mode : after.locks.mode? request.txn request.page =
        some (((store.locks.mode? request.txn request.page).map (·.max request.mode)).getD
          request.mode)) :
      Answered request store after
        (.finished (.ok ⟨request.page, request.mode, request.txn, serial⟩))

structure Attempted (writes : TxnId → Prop) (request : PageRequest) (store after : Store)
    (answer : Progress PageRequest (Except StoreError Handle)) : Prop
    extends Moves writes store after where
  others : ∀ txn id, txn ≠ request.txn →
    after.locks.mode? txn id = store.locks.mode? txn id
  keeps : ∀ txn id, (store.locks.mode? txn id).isSome = true →
    (after.locks.mode? txn id).isSome = true
  answered : Answered request store after answer

section

variable {request : PageRequest}
  (asked : store.askLock request.txn request.page request.mode = (.granted, middle))

include asked

theorem attempt_of_pinned {serial : Nat} (pinned : middle.pin request.page = (.ok serial, after)) :
    store.attempt request =
      (.finished (.ok ⟨request.page, request.mode, request.txn, serial⟩), after) := by
  simp only [attempt, asked, pinned]

theorem attempt_of_unpinned {error : StoreError}
    (failed : middle.pin request.page = (.error error, after)) :
    store.attempt request = (.finished (.error error), after.giveBack request error) := by
  simp only [attempt, asked, failed]

end

/-- What a request does.  Its lock is granted, and the page is pinned or cannot be; or the
lock is refused, and the request has to be made again unless it closes a circle. -/
inductive Attempts (store : Store) (request : PageRequest) :
    Progress PageRequest (Except StoreError Handle) → Store → Prop
  | pins {serial : Nat} {after : Store}
      (granted : (store.locks.acquire request.txn request.page request.mode).1 = true)
      (pinned : (store.locked request).pin request.page = (.ok serial, after)) :
      Attempts store request
        (.finished (.ok ⟨request.page, request.mode, request.txn, serial⟩)) after
  | fails {error : StoreError} {middle : Store}
      (granted : (store.locks.acquire request.txn request.page request.mode).1 = true)
      (unpinned : (store.locked request).pin request.page = (.error error, middle)) :
      Attempts store request (.finished (.error error)) (middle.giveBack request error)
  | waits
      (refused : (store.locks.acquire request.txn request.page request.mode).1 = false)
      (free : ¬ (store.locked request).locks.isDeadlock request.txn request.page = true) :
      Attempts store request (.waiting request) (store.locked request)
  | deadlock
      (refused : (store.locks.acquire request.txn request.page request.mode).1 = false)
      (circle : (store.locked request).locks.isDeadlock request.txn request.page = true) :
      Attempts store request (.finished (.error (.deadlock request.txn)))
        { store with locks := (store.locked request).locks.cancelWait request.txn }

theorem attempt_cases {request : PageRequest}
    {answer : Progress PageRequest (Except StoreError Handle)}
    (run : store.attempt request = (answer, after)) : Attempts store request answer after := by
  by_cases granted : (store.locks.acquire request.txn request.page request.mode).1 = true
  · have asked := askLock_of_granted granted
    rcases pinning : (store.locked request).pin request.page with ⟨error | serial, middle⟩
    · cases (attempt_of_unpinned asked pinning).symm.trans run
      exact .fails granted pinning
    · cases (attempt_of_pinned asked pinning).symm.trans run
      exact .pins granted pinning
  · have refused := Bool.eq_false_iff.mpr granted
    have asked := askLock_of_refused refused
    rw [attempt, asked] at run
    by_cases circle : (store.locked request).locks.isDeadlock request.txn request.page = true
    · rw [if_pos circle] at run
      cases run
      exact .deadlock refused circle
    · rw [if_neg circle] at run
      cases run
      exact .waits refused circle

theorem cached?_giveBack (request : PageRequest) (error : StoreError) (id : PageId) :
    (store.giveBack request error).cached? id = store.cached? id := by
  obtain ⟨locks, same⟩ := giveBack_relocked store request error
  rw [same]
  rfl

theorem Relocks.attempted {request : PageRequest} (relocks : Relocks request store after)
    (moves : Moves writes store after) {answer : Progress PageRequest (Except StoreError Handle)}
    (answered : Answered request store after answer) :
    Attempted writes request store after answer :=
  ⟨moves, relocks.others, relocks.keeps, answered⟩

theorem Sound.attempted (sound : store.Sound) {request : PageRequest}
    {answer : Progress PageRequest (Except StoreError Handle)}
    (held : request.heldBefore = store.locks.holds request.txn request.page)
    (run : store.attempt request = (answer, after)) (spares : Spares writes store after) :
    Attempted writes request store after answer := by
  have rests : Rests store (store.locked request) := relock_rests sound.locks.acquire
  cases attempt_cases run with
  | pins granted pinned =>
      have relocks : Relocks request store (store.locked request) := relocks_of_granted granted
      rcases (rests.sound sound).pin pinned spares with
        ⟨number, ⟨⟩, moves, locks, cached⟩ | ⟨error, failed, -⟩
      · refine (relocks.back fun txn id => .inl (by rw [locks])).attempted
          ((rests.moves sound relocks.exclusive).trans moves) (.granted _ cached ?_)
        rw [locks, locked, LockTable.mode?_of_granted granted, if_pos ⟨rfl, rfl⟩]
      · cases failed
  | @fails error middle granted unpinned =>
      have relocks : Relocks request store (store.locked request) := relocks_of_granted granted
      have lockedSpares : Spares writes (store.locked request) middle := by
        intro id page txn cached gone
        exact spares id page txn cached ((cached?_giveBack request error id).trans gone)
      rcases (rests.sound sound).pin unpinned lockedSpares with
        ⟨number, pinned, -⟩ | ⟨failure, -, pinRests, locks⟩
      · cases pinned
      · obtain ⟨given, back⟩ := sound.giveBack error locks held
        have returned : Relocks request store (middle.giveBack request error) :=
          relocks.back fun txn id => (back txn id).imp_left fun same => same.trans (by rw [locks])
        exact returned.attempted
          ((rests.trans (pinRests.trans given)).moves sound returned.exclusive) (.failed error)
  | waits refused free =>
      have modes (txn : TxnId) (id : PageId) :
          (store.locked request).locks.mode? txn id = store.locks.mode? txn id :=
        LockTable.mode?_of_refused refused
      have relocks : Relocks request store (store.locked request) := .of_modes modes
      exact relocks.attempted (rests.moves sound relocks.exclusive) (.waiting modes)
  | deadlock refused circle =>
      have relocks : Relocks request store { store with
          locks := (store.locked request).locks.cancelWait request.txn } :=
        .of_modes fun _ _ => LockTable.mode?_of_refused refused
      exact relocks.attempted
        ((relock_rests sound.locks.acquire.cancelWait).moves sound relocks.exclusive) (.failed _)

end TableStore.Store
