import TableStore.Proofs.Pins
import TableStore.Proofs.PlainTables

/-!
# Transactions that are alone

When one transaction at a time uses a store with the order of use as its policy,
every request for a page is granted, a page can always leave the full cache, and
the transaction sees the pages of plain tables whatever is cached.  What it does
to the cache is that pages leave it and others are loaded, under new serial
numbers and without changes.
-/

set_option autoImplicit false

namespace TableStore

/-- A page that only the given transaction may have changed in the cache, and
then holds exclusively.  Without changes the copy is as the file has it, and so
are the contents that a rollback returns to. -/
structure PageState.Mirrors (state : PageState) (txn : TxnId) (mode : Option LockMode)
    (page : Except StoreError Contents) : Prop where
  flushed : state.unflushed = false
  look : state.look = page
  clean : ∀ copy, state.cached = some copy → copy.dirtiedBy = none →
    copy.image = copy.contents ∧ state.stored = .ok copy.contents
  dirty : ∀ copy owner, state.cached = some copy → copy.dirtiedBy = some owner →
    owner = txn ∧ mode = some .exclusive

namespace PageState

variable {state : PageState} {txn : TxnId} {mode stronger : Option LockMode} {copy : Copy}
  {page : Except StoreError Contents}

theorem Mirrors.stored_of_absent (mirrors : state.Mirrors txn mode page)
    (absent : state.cached = none) : state.stored = page := by
  rw [← mirrors.look, PageState.look, absent]

theorem Mirrors.contents (mirrors : state.Mirrors txn mode page)
    (cached : state.cached = some copy) : page = .ok copy.contents := by
  rw [← mirrors.look, PageState.look, cached]

theorem Mirrors.relock (mirrors : state.Mirrors txn mode page)
    (keeps : mode = some .exclusive → stronger = some .exclusive) :
    state.Mirrors txn stronger page :=
  ⟨mirrors.flushed, mirrors.look, mirrors.clean, fun copy owner cached dirty =>
    (mirrors.dirty copy owner cached dirty).imp_right keeps⟩

theorem Mirrors.leave (mirrors : state.Mirrors txn mode page) (cached : state.cached = some copy)
    {before : Contents} (stored : state.stored = .ok before) :
    (match copy.dirtiedBy with
      | none => { state with cached := none }
      | some _ => ⟨none, state.filed copy.contents, false⟩ : PageState).Mirrors txn mode page := by
  have seen := mirrors.contents cached
  cases dirty : copy.dirtiedBy with
  | none =>
      refine ⟨mirrors.flushed, ?_, nofun, by rintro _ _ ⟨⟩⟩
      exact (mirrors.clean copy cached dirty).2.trans seen.symm
  | some owner =>
      have filed := (PageState.filed_of_stored stored copy.contents).trans seen.symm
      exact ⟨rfl, filed, nofun, by rintro _ _ ⟨⟩⟩

theorem Mirrors.load (mirrors : state.Mirrors txn mode page) (absent : state.cached = none)
    {contents : Contents} (stored : state.stored = .ok contents) :
    ({ state with cached := some ⟨contents, contents, none⟩ } : PageState).Mirrors txn mode
      page := by
  refine ⟨mirrors.flushed, ?_, ?_, ?_⟩
  · exact (stored.symm.trans (mirrors.stored_of_absent absent))
  · rintro _ ⟨⟩ -
    exact ⟨rfl, stored⟩
  · rintro _ _ ⟨⟩ dirty
    cases dirty

end PageState

namespace Store

/-- A store that at most one transaction uses, with some handles.  It sees plain
tables. -/
structure Serial (store : Store) (txn : TxnId) (handles : List Handle) (tables : Tables) : Prop where
  sound : store.Sound
  addressable : store.Addressable
  pinned : store.Pinned handles
  recent : ∃ queue, store.policy = .leastRecent queue
  room : 0 < store.capacity
  writable : store.unwritable = ∅
  serials : ∀ id frame, store.frames.get? id = some frame → frame.serial < store.nextSerial
  alone : ∀ other id, other ≠ txn → store.locks.mode? other id = none
  page : ∀ id, (store.pageState id).Mirrors txn (store.locks.mode? txn id) (tables.page id)
  count : ∀ id table, store.catalog.tables.get? id = some table →
    table.wholePages store.disk = tables.count id

/-- Every page that is cached in the second store was cached in the first, and
neither it nor its file changed; or it was loaded meanwhile and has no
changes. -/
structure Ages (store after : Store) : Prop where
  catalog : after.catalog = store.catalog
  nextSerial : store.nextSerial ≤ after.nextSerial
  frame : ∀ id frame, after.frames.get? id = some frame →
    (∃ before, store.frames.get? id = some before ∧ before.serial = frame.serial ∧
      before.page = frame.page ∧ after.stored id = store.stored id) ∨
    store.nextSerial ≤ frame.serial ∧ frame.page.dirtiedBy = none

variable {store middle after : Store} {id : PageId} {txn : TxnId} {handle : Handle}
  {handles others : List Handle} {tables : Tables} {request : PageRequest}

theorem Ages.refl (store : Store) : Ages store store :=
  ⟨rfl, Nat.le_refl _, fun _ frame found => .inl ⟨frame, found, rfl, rfl, rfl⟩⟩

theorem Ages.trans (first : Ages store middle) (second : Ages middle after) : Ages store after where
  catalog := second.catalog.trans first.catalog
  nextSerial := Nat.le_trans first.nextSerial second.nextSerial
  frame id frame found := by
    rcases second.frame id frame found with ⟨between, known, serial, page, stored⟩ | ⟨new, clean⟩
    · rcases first.frame id between known with ⟨before, old, same, content, file⟩ | ⟨new, clean⟩
      · exact .inl ⟨before, old, same.trans serial, content.trans page, stored.trans file⟩
      · exact .inr ⟨serial ▸ new, page ▸ clean⟩
    · exact .inr ⟨Nat.le_trans first.nextSerial new, clean⟩

/-! ## Locks and pins -/

structure Repins (store after : Store) : Prop extends Rests store after where
  nextSerial : after.nextSerial = store.nextSerial
  serials : ∀ id, (after.frames.get? id).map Frame.serial = (store.frames.get? id).map Frame.serial

theorem Repins.frame (same : Repins store after) {frame : Frame}
    (found : after.frames.get? id = some frame) :
    ∃ before, store.frames.get? id = some before ∧ before.serial = frame.serial ∧
      before.page = frame.page := by
  have serial := same.serials id
  have page := same.cached id
  simp only [cached?, found, Option.map_some] at serial page
  obtain ⟨before, known, equal⟩ := Option.map_eq_some_iff.mp serial.symm
  rw [known] at page
  exact ⟨before, known, equal, (Option.some.inj page).symm⟩

theorem Repins.ages (same : Repins store after) : Ages store after where
  catalog := same.catalog
  nextSerial := Nat.le_of_eq same.nextSerial.symm
  frame id frame found := by
    obtain ⟨before, known, serial, page⟩ := same.frame found
    exact .inl ⟨before, known, serial, page, same.stored id⟩

theorem Serial.repins (serial : Serial store txn handles tables) (same : Repins store after)
    (pinned : Pinned after others) (recent : ∃ queue, after.policy = .leastRecent queue)
    (alone : ∀ other id, other ≠ txn → after.locks.mode? other id = none)
    (keeps : ∀ id, store.locks.mode? txn id = some .exclusive →
      after.locks.mode? txn id = some .exclusive) : Serial after txn others tables where
  sound := same.sound serial.sound
  addressable := same.continues.addressable serial.addressable
  pinned := pinned
  recent := recent
  room := same.capacity ▸ serial.room
  writable := same.unwritable.trans serial.writable
  serials id frame found := by
    obtain ⟨before, known, equal, -⟩ := same.frame found
    rw [← equal, same.nextSerial]
    exact serial.serials id before known
  alone := alone
  page id := by
    rw [same.states id]
    exact (serial.page id).relock (keeps id)
  count id table found := by
    rw [same.disk]
    exact serial.count id table (same.catalog ▸ found)

theorem idles_of_recent (recent : ∃ queue, store.policy = .leastRecent queue) :
    Idles store after := by
  intro victims id frame scripted
  obtain ⟨queue, known⟩ := recent
  cases known.symm.trans scripted

theorem Serial.unpin (serial : Serial store txn (handle :: handles) tables) :
    Serial (store.unpin handle) txn handles tables ∧ Repins store (store.unpin handle) := by
  obtain ⟨rests, locks⟩ := serial.sound.unpin handle
  obtain ⟨frame, found, own⟩ := serial.pinned.handle handle List.mem_cons_self
  have frames (id : PageId) : (store.unpin handle).frames.get? id =
      if id = handle.page then some { frame with pins := frame.pins - 1 }
      else store.frames.get? id := by
    simp only [Store.unpin, found, own, if_true]
    rw [SortedMap.get?_insert]
  have same : Repins store (store.unpin handle) := by
    refine ⟨rests, ?_, fun id => ?_⟩
    · simp only [Store.unpin, found, own, if_true]
    · rw [frames]
      split
      · next here =>
          rw [here, found]
          rfl
      · rfl
  have recent : ∃ queue, (store.unpin handle).policy = .leastRecent queue := by
    obtain ⟨queue, known⟩ := serial.recent
    simp only [Store.unpin, found, own, if_true, known]
    split
    · exact ⟨_, rfl⟩
    · exact ⟨_, rfl⟩
  have pinned := serial.pinned.unpin List.mem_cons_self
  rw [List.erase_cons_head] at pinned
  exact ⟨serial.repins same pinned recent (fun other id different => by
    rw [locks]
    exact serial.alone other id different) fun id exclusive => locks ▸ exclusive, same⟩

/-! ## Room in the cache -/

theorem Serial.chooses (serial : Serial store txn [] tables)
    (full : store.capacity ≤ store.frames.size) :
    ∃ victim frame, store.policy.evict.1 = some victim ∧
      store.frames.get? victim = some frame := by
  obtain ⟨queue, recent⟩ := serial.recent
  cases chosen : store.policy.evict.1 with
  | none =>
      have nobody := (serial.pinned.lists.evict_none chosen).2 queue recent
      have some : 0 < store.frames.entries.length := Nat.lt_of_lt_of_le serial.room full
      obtain ⟨entry, member⟩ := List.exists_mem_of_length_pos some
      have found : store.frames.get? entry.1 = Option.some entry.2 :=
        SortedMap.mem_entries_iff.mp member
      exact absurd ⟨entry.2, found, serial.pinned.pins _ _ found⟩ (nobody entry.1)
  | some victim =>
      obtain ⟨frame, found, -⟩ :=
        (serial.pinned.lists.evict_some chosen fun other => Iff.rfl).2 queue recent
      exact ⟨victim, frame, rfl, found⟩

theorem Serial.leaves {victim : PageId} (serial : Serial store txn [] tables)
    (leaves : Leaves store after victim) (pinned : Pinned after [])
    (recent : ∃ queue, after.policy = .leastRecent queue)
    (mirrors : (after.pageState victim).Mirrors txn (store.locks.mode? txn victim)
      (tables.page victim)) :
    Serial after txn [] tables ∧ Ages store after := by
  refine ⟨⟨leaves.sound, leaves.addressable serial.addressable, pinned, recent, leaves.capacity ▸ serial.room,
    leaves.unwritable.trans serial.writable, fun id frame known => ?_, leaves.locks ▸ serial.alone,
    fun id => ?_, fun id table registered => ?_⟩,
    ⟨leaves.catalog, Nat.le_of_eq leaves.nextSerial.symm, fun id frame known => ?_⟩⟩
  · rw [leaves.frames] at known
    rw [leaves.nextSerial]
    split at known
    · cases known
    · exact serial.serials id frame known
  · rw [leaves.locks]
    by_cases here : id = victim
    · rw [here]
      exact mirrors
    · rw [leaves.page id here]
      exact serial.page id
  · rw [leaves.catalog] at registered
    rw [leaves.counts id table registered]
    exact serial.count id table registered
  · rw [leaves.frames] at known
    split at known
    · cases known
    · next other =>
        exact .inl ⟨frame, known, rfl, rfl, congrArg PageState.stored (leaves.page id other)⟩

theorem Serial.evict (serial : Serial store txn [] tables)
    (full : store.capacity ≤ store.frames.size) :
    ∃ after, store.evict = (.ok (), after) ∧ Serial after txn [] tables ∧ Ages store after ∧
      after.locks = store.locks := by
  obtain ⟨victim, frame, chosen, found⟩ := serial.chooses full
  rcases run : store.evict with ⟨result, after⟩
  have idles : Idles store after := idles_of_recent serial.recent
  cases serial.sound.evict_cases run with
  | nobody none => cases none.symm.trans chosen
  | stray picked absent =>
      cases picked.symm.trans chosen
      cases found.symm.trans absent
  | stays _ _ _ refused =>
      rw [serial.writable] at refused
      cases refused
  | leaves picked again _ leaves policy state =>
      cases picked.symm.trans chosen
      cases found.symm.trans again
      have recent : ∃ queue, after.policy = .leastRecent queue :=
        policy ▸ EvictionPolicy.recent_evict serial.recent
      have cached := cached?_of_frame found
      obtain ⟨contents, stored⟩ := serial.sound.filed serial.addressable cached
      obtain ⟨rest, ages⟩ := serial.leaves leaves (serial.pinned.evict serial.sound run idles) recent
        (state ▸ (serial.page victim).leave (copy_of_cached cached) stored)
      exact ⟨after, rfl, rest, ages, leaves.locks⟩

theorem Serial.install (serial : Serial store txn [] tables) {page : Page} {table : Table}
    (absent : store.frames.get? handle.page = none)
    (registered : store.catalog.tables.get? handle.page.table = some table)
    (fits : page.Fits table handle.page)
    (copy : page.copy = ⟨page.contents, page.contents, none⟩)
    (stored : store.stored handle.page = .ok page.contents)
    (number : handle.serial = store.nextSerial) :
    Serial (store.install page).2 txn [handle] tables ∧ Ages store (store.install page).2 ∧
      (store.install page).2.frames.get? handle.page = some ⟨page, 1, handle.serial⟩ := by
  have uncached : store.cached? handle.page = none := cached?_of_missing absent
  obtain ⟨moves, frames⟩ : Moves (fun _ => True) store (store.install page).2 ∧ _ :=
    serial.sound.install uncached registered fits copy stored
  have numbered (id : PageId) : (store.install page).2.frames.get? id =
      if id = handle.page then some ⟨page, 1, handle.serial⟩ else store.frames.get? id := by
    rw [number]
    exact frames id
  have states (id : PageId) : (store.install page).2.pageState id =
      if id = handle.page then
        { store.pageState id with cached := some ⟨page.contents, page.contents, none⟩ }
      else store.pageState id := by
    rw [pageState, cached?, frames]
    split
    · rw [Option.map_some, Option.map_some, copy]
      rfl
    · rfl
  refine ⟨⟨moves.sound, serial.addressable, serial.pinned.install absent numbered rfl, serial.recent, serial.room,
    serial.writable, fun id frame found => ?_, serial.alone, fun id => ?_, serial.count⟩,
    ⟨rfl, Nat.le_succ _, fun id frame found => ?_⟩, ?_⟩
  · rw [frames] at found
    split at found
    · cases found
      exact Nat.lt_succ_self _
    · exact Nat.lt_succ_of_lt (serial.serials id frame found)
  · rw [states]
    split
    · next here =>
        subst here
        exact (serial.page handle.page).load (copy_of_uncached uncached) stored
    · exact serial.page id
  · rw [frames] at found
    split at found
    · cases found
      exact .inr ⟨Nat.le_refl _, congrArg Copy.dirtiedBy copy⟩
    · exact .inl ⟨frame, found, rfl, rfl, rfl⟩
  · rw [numbered, if_pos rfl]

/-! ## Requests -/

structure Got (store after : Store) (handle : Handle) (contents : Contents) (tables : Tables) :
    Prop where
  serial : Serial after handle.owner [handle] tables
  ages : Ages store after
  frame : ∃ frame, after.frames.get? handle.page = some frame ∧ frame.serial = handle.serial ∧
    frame.page.contents = contents

theorem Serial.hit (serial : Serial store txn [] tables) {id : PageId} {frame : Frame}
    (found : store.frames.get? id = some frame) (mode : LockMode) :
    Got store
      { store with
        frames := store.frames.insert id { frame with pins := frame.pins + 1 }
        policy := store.policy.pin id }
      ⟨id, mode, txn, frame.serial⟩ frame.page.contents tables := by
  have frames (other : PageId) := SortedMap.get?_insert store.frames id other
    { frame with pins := frame.pins + 1 }
  have same : Repins store { store with
      frames := store.frames.insert id { frame with pins := frame.pins + 1 }
      policy := store.policy.pin id } := by
    refine ⟨serial.sound.repin found _, rfl, fun other => ?_⟩
    rw [frames]
    split
    · next here =>
        rw [here, found]
        rfl
    · rfl
  refine ⟨serial.repins same ?_ (EvictionPolicy.recent_pin serial.recent id) serial.alone
    fun _ exclusive => exclusive, same.ages, _, (frames id).trans (if_pos rfl), rfl, rfl⟩
  exact serial.pinned.hit found rfl frames rfl

/-- The cache has room for a page, or gets it from an eviction, which cannot fail. -/
theorem Serial.room_of_read (serial : Serial store txn [] tables) {id : PageId} {page : Page}
    (absent : store.frames.get? id = none) (read : store.readPage id = .ok page) :
    ∃ room, store.pin id = (.ok room.nextSerial, (room.install page).2) ∧
      Serial room txn [] tables ∧ Ages store room ∧ room.locks = store.locks ∧
      room.frames.get? id = none := by
  rcases run : store.pin id with ⟨result, after⟩
  cases pin_cases run with
  | hits found => cases absent.symm.trans found
  | unreadable _ unread => cases read.symm.trans unread
  | @loads _ room _ again made =>
      cases read.symm.trans again
      rcases made with ⟨-, rfl⟩ | ⟨full, evicted⟩
      · exact ⟨room, rfl, serial, .refl room, rfl, absent⟩
      · obtain ⟨after, again, rest, ages, locks⟩ := serial.evict full
        cases evicted.symm.trans again
        exact ⟨room, rfl, rest, ages, locks, (serial.sound.evict_absent evicted absent).1⟩
  | blocked _ _ full evicted =>
      obtain ⟨after, again, -⟩ := serial.evict full
      cases evicted.symm.trans again

theorem Serial.load (serial : Serial store txn [] tables) {id : PageId} {page : Page}
    (absent : store.frames.get? id = none) (read : store.readPage id = .ok page)
    (known : tables.page id = .ok page.contents) (mode : LockMode) :
    ∃ number after, store.pin id = (.ok number, after) ∧ after.locks = store.locks ∧
      Got store after ⟨id, mode, txn, number⟩ page.contents tables := by
  obtain ⟨table, registered, -, -, fits, image, clean⟩ := serial.sound.readPage_ok read
  obtain ⟨room, run, rest, ages, locks, still⟩ := serial.room_of_read absent read
  have copy : page.copy = ⟨page.contents, page.contents, none⟩ := by
    rw [Page.copy_eq image, clean]
  have file : room.stored id = .ok page.contents :=
    ((rest.page id).stored_of_absent (copy_of_uncached (cached?_of_missing still))).trans known
  let handle : Handle := ⟨id, mode, txn, room.nextSerial⟩
  obtain ⟨installed, loaded, frame⟩ : Serial (room.install page).2 txn [handle] tables ∧ _ :=
    rest.install still (ages.catalog ▸ registered) fits copy file rfl
  exact ⟨room.nextSerial, _, run, locks, installed, ages.trans loaded, _, frame, rfl, rfl⟩

theorem Serial.pin (serial : Serial store txn [] tables) (id : PageId) (mode : LockMode) :
    (∀ error, tables.page id = .error error → store.pin id = (.error error, store)) ∧
      ∀ contents, tables.page id = .ok contents → ∃ number after,
        store.pin id = (.ok number, after) ∧ after.locks = store.locks ∧
          Got store after ⟨id, mode, txn, number⟩ contents tables := by
  have mirrors := serial.page id
  cases found : store.frames.get? id with
  | some frame =>
      have seen := mirrors.contents (copy_of_cached (cached?_of_frame found))
      refine ⟨fun error missing => ?_, fun contents known => ?_⟩
      · cases missing.symm.trans seen
      · cases known.symm.trans seen
        exact ⟨frame.serial, _, pin_of_cached found, rfl, serial.hit found mode⟩
  | none =>
      have stored : store.stored id = tables.page id :=
        mirrors.stored_of_absent (copy_of_uncached (cached?_of_missing found))
      rw [Store.stored] at stored
      cases read : store.readPage id with
      | error error =>
          rw [read] at stored
          refine ⟨fun other missing => ?_, fun contents known => ?_⟩
          · cases stored.trans missing
            exact pin_of_unreadable found read
          · cases stored.trans known
      | ok page =>
          rw [read] at stored
          refine ⟨fun other missing => ?_, fun contents known => ?_⟩
          · cases stored.trans missing
          · cases stored.trans known
            exact serial.load found read known mode

theorem Serial.relocked (serial : Serial store request.txn [] tables)
    (repins : Repins store after) (frames : after.frames = store.frames)
    (policy : after.policy = store.policy) (relocks : Relocks request store after) :
    Serial after request.txn [] tables :=
  serial.repins repins (serial.pinned.of_frames policy frames) (policy ▸ serial.recent)
    (fun other id different => (relocks.others other id different).trans
      (serial.alone other id different))
    (relocks.exclusive request.txn)

/-- The request of a transaction that is alone is granted if the page can be read;
else it fails for the same reason. -/
theorem Serial.attempt (serial : Serial store txn [] tables) (timely : request.Timely store txn) :
    (∀ error, tables.page request.page = .error error → ∃ after,
      store.attempt request = (.finished (.error error), after) ∧
        Serial after txn [] tables ∧ Ages store after) ∧
    ∀ contents, tables.page request.page = .ok contents → ∃ number after,
      store.attempt request =
          (.finished (.ok ⟨request.page, request.mode, txn, number⟩), after) ∧
        Got store after ⟨request.page, request.mode, txn, number⟩ contents tables ∧
        (request.mode = .exclusive →
          after.locks.mode? txn request.page = some .exclusive) := by
  obtain ⟨rfl, held⟩ := timely
  have granted : (store.locks.acquire request.txn request.page request.mode).1 = true :=
    LockTable.granted_of_alone fun other different => serial.alone other request.page different
  have asked := askLock_of_granted granted
  have relocks : Relocks request store (store.locked request) := relocks_of_granted granted
  have relocked : Repins store (store.locked request) :=
    ⟨relock_rests serial.sound.locks.acquire, rfl, fun _ => rfl⟩
  have locked : Serial (store.locked request) request.txn [] tables :=
    serial.relocked relocked rfl rfl relocks
  obtain ⟨fails, works⟩ := locked.pin request.page request.mode
  refine ⟨fun error missing => ?_, fun contents known => ?_⟩
  · have run := attempt_of_unpinned asked (fails error missing)
    obtain ⟨given, back⟩ : Rests (store.locked request) _ ∧ _ :=
      serial.sound.giveBack error rfl held
    obtain ⟨locks, same⟩ := giveBack_relocked (store.locked request) request error
    rw [same] at run given back
    have returned : Repins store { store.locked request with locks } :=
      ⟨relocked.toRests.trans given, rfl, fun _ => rfl⟩
    exact ⟨_, run, serial.relocked returned rfl rfl (relocks.back back), returned.ages⟩
  · obtain ⟨number, after, run, locks, got⟩ := works contents known
    refine ⟨number, after, attempt_of_pinned asked run,
      ⟨got.serial, relocked.ages.trans got.ages, got.frame⟩, fun exclusive => ?_⟩
    rw [locks, Store.locked, LockTable.mode?_of_granted granted, if_pos ⟨rfl, rfl⟩, exclusive]
    exact LockMode.stronger_exclusive _

end Store

end TableStore
