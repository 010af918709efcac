import TableStore.Proofs.Endings
import TableStore.Proofs.Serial

/-!
# Changes of a transaction that is alone

A change of a cached page is a change of the plain tables, and so is a page that
is appended.  As long as no page that the transaction changed leaves the cache,
the cache also has what a rollback returns to.  The end of the transaction is then
the end on the plain tables.
-/

set_option autoImplicit false

namespace TableStore

/-! ## Rollbacks -/

/-- A rollback of the page returns to the settled contents: the changed copy has
them besides its own, and its file has them too. -/
structure PageState.Returns (state : PageState) (page settled : Except StoreError Contents) :
    Prop where
  image : ∀ copy, state.cached = some copy → copy.dirtiedBy ≠ none →
    settled = .ok copy.image ∧ state.stored = .ok copy.image
  same : (∀ copy, state.cached = some copy → copy.dirtiedBy = none) → page = settled

namespace Tables

/-- The later tables have the pages of the first, and besides at most some that
could not be read before and that nobody changed. -/
def Extends (tables later : Tables) : Prop :=
  ∀ id, later.page id = tables.page id ∧ later.settled id = tables.settled id ∨
    (∃ error, tables.page id = .error error) ∧ later.page id = later.settled id

theorem Extends.refl (tables : Tables) : Extends tables tables := fun _ => .inl ⟨rfl, rfl⟩

end Tables

namespace Store

variable {store middle after : Store} {id : PageId} {txn : TxnId} {handle : Handle}
  {handles : List Handle} {tables later : Tables} {table : Table} {change : Change}
  {contents : Contents}

def Returns (store : Store) (tables : Tables) : Prop :=
  ∀ id, (store.pageState id).Returns (tables.page id) (tables.settled id)

/-- No page that the transaction changed has left the cache, not even to be loaded
again. -/
def Retains (txn : TxnId) (store after : Store) : Prop :=
  ∀ id frame, store.frames.get? id = some frame → frame.page.dirtiedBy = some txn →
    (after.frames.get? id).map Frame.serial = some frame.serial

instance (txn : TxnId) (store after : Store) : Decidable (Retains txn store after) :=
  decidable_of_iff
    (∀ entry ∈ store.frames.entries, entry.2.page.dirtiedBy = some txn →
      (after.frames.get? entry.1).map Frame.serial = some entry.2.serial)
    ⟨fun all id frame found => all (id, frame) (SortedMap.mem_entries_iff.mpr found),
      fun retains entry member => retains entry.1 entry.2 (SortedMap.mem_entries_iff.mp member)⟩

theorem Retains.of_serials (retains : Retains txn store after)
    (serials : ∀ id, (after.frames.get? id).map Frame.serial =
      (middle.frames.get? id).map Frame.serial) : Retains txn store middle :=
  fun id frame found dirty => (serials id).symm.trans (retains id frame found dirty)

/-- Pages that leave the cache and are loaded change nothing about rollbacks, if
those that the transaction changed stay. -/
theorem Returns.ages (returns : Returns store tables) (serial : Serial store txn handles tables)
    (ages : Ages store after) (retains : Retains txn store after)
    (grows : tables.Extends later) : Returns after later := by
  intro id
  constructor
  · intro copy cached dirty
    obtain ⟨frame, found, rfl⟩ : ∃ frame, after.frames.get? id = some frame ∧
        frame.page.copy = copy := by
      obtain ⟨page, known, rfl⟩ := cached_of_pageState cached
      obtain ⟨frame, found, rfl⟩ := Option.map_eq_some_iff.mp known
      exact ⟨frame, found, rfl⟩
    rcases ages.frame id frame found with ⟨before, known, -, same, stored⟩ | ⟨-, clean⟩
    · have old : (store.pageState id).cached = some frame.page.copy :=
        same ▸ copy_of_cached (cached?_of_frame known)
      obtain ⟨settled, file⟩ := (returns id).image _ old dirty
      refine ⟨?_, stored.trans file⟩
      rcases grows id with ⟨-, kept⟩ | ⟨⟨error, missing⟩, -⟩
      · exact kept.trans settled
      · cases missing.symm.trans ((serial.page id).contents old)
    · exact absurd clean dirty
  · intro clean
    have cleanBefore (copy : Copy) (cached : (store.pageState id).cached = some copy) :
        copy.dirtiedBy = none := by
      obtain ⟨page, known, rfl⟩ := cached_of_pageState cached
      obtain ⟨before, found, rfl⟩ := Option.map_eq_some_iff.mp known
      cases dirty : before.page.dirtiedBy with
      | none => exact dirty
      | some owner =>
          -- The frame is still there under its number, hence with its page.
          obtain ⟨rfl, -⟩ := (serial.page id).dirty _ owner cached dirty
          obtain ⟨frame, stays, same⟩ := Option.map_eq_some_iff.mp (retains id before found dirty)
          rcases ages.frame id frame stays with ⟨old, again, -, page, -⟩ | ⟨new, -⟩
          · cases found.symm.trans again
            have copied : (after.pageState id).cached = some before.page.copy :=
              page ▸ copy_of_cached (cached?_of_frame stays)
            exact absurd (clean _ copied) (by simp [Page.copy, dirty])
          · have bound := serial.serials id before found
            omega
    rcases grows id with ⟨page, settled⟩ | ⟨-, new⟩
    · rw [page, settled]
      exact (returns id).same cleanBefore
    · exact new

/-! ## Changes -/

theorem Changes.state (changes : Changes store after txn change)
    (frame : ∃ frame, store.frames.get? change.page = some frame ∧ frame.page.contents = contents) :
    ∃ copy, (store.pageState change.page).cached = some copy ∧ copy.contents = contents ∧
      ∀ id, after.pageState id =
        if id = change.page then
          { store.pageState id with cached := some ⟨change.apply contents, copy.image, some txn⟩ }
        else store.pageState id := by
  obtain ⟨copy, cached, -, states⟩ := changes.pages
  obtain ⟨frame, found, same⟩ := frame
  have copied : copy.contents = contents := by
    have here : (store.pageState change.page).cached = some frame.page.copy :=
      copy_of_cached (cached?_of_frame found)
    rw [← same, Option.some.inj (cached.symm.trans here)]
    rfl
  refine ⟨copy, cached, copied, fun id => ?_⟩
  rw [states, copied]
  split
  · next here => rw [here]
  · rfl

theorem Serial.changed (serial : Serial store txn handles tables)
    (changes : Changes store after txn change)
    (frame : ∃ frame, store.frames.get? change.page = some frame ∧ frame.page.contents = contents)
    (exclusive : store.locks.mode? txn change.page = some .exclusive) :
    Serial after txn handles (tables.edit contents change) := by
  obtain ⟨copy, cached, -, states⟩ := changes.state frame
  refine ⟨changes.sound, changes.toContinues.addressable serial.addressable,
    changes.toStill.pinned serial.pinned, ?_, ?_, ?_, ?_, ?_, ?_, ?_⟩
  · rw [changes.policy]
    exact serial.recent
  · exact changes.capacity ▸ serial.room
  · exact changes.unwritable.trans serial.writable
  · intro id frame found
    have hold := changes.hold id
    rw [found, Option.map_some] at hold
    obtain ⟨before, known, same⟩ := Option.map_eq_some_iff.mp hold.symm
    have number : before.serial = frame.serial := congrArg Prod.snd same
    rw [changes.nextSerial, ← number]
    exact serial.serials id before known
  · rw [changes.locks]
    exact serial.alone
  · intro id
    rw [states, changes.locks]
    simp only [Tables.edit]
    split
    · next here =>
        subst here
        refine ⟨(serial.page _).flushed, rfl, ?_, ?_⟩
        · rintro _ ⟨⟩ clean
          cases clean
        · rintro _ _ ⟨⟩ dirty
          cases dirty
          exact ⟨rfl, exclusive⟩
    · exact serial.page id
  · intro id table registered
    rw [changes.catalog] at registered
    rw [changes.counts id table registered]
    exact serial.count id table registered

theorem Returns.changed (returns : Returns store tables) (serial : Serial store txn handles tables)
    (changes : Changes store after txn change)
    (frame : ∃ frame, store.frames.get? change.page = some frame ∧ frame.page.contents = contents) :
    Returns after (tables.edit contents change) := by
  obtain ⟨copy, cached, copied, states⟩ := changes.state frame
  intro id
  rw [states]
  simp only [Tables.edit]
  split
  · next here =>
      subst here
      refine ⟨?_, fun clean => absurd (clean _ rfl) (by simp)⟩
      rintro _ ⟨⟩ -
      cases dirty : copy.dirtiedBy with
      | none =>
          have clean (other : Copy) (again : (store.pageState change.page).cached = some other) :
              other.dirtiedBy = none := by
            cases cached.symm.trans again
            exact dirty
          obtain ⟨image, stored⟩ := (serial.page change.page).clean copy cached dirty
          have seen := (serial.page change.page).contents cached
          have settled := (returns change.page).same clean
          exact ⟨by rw [← settled, seen, image], by rw [image]; exact stored⟩
      | some owner => exact (returns change.page).image copy cached (by simp [dirty])
  · exact returns id

/-! ## Appended pages -/

/-- Every file has room for one more page that can be numbered. -/
def Roomy (store : Store) : Prop :=
  ∀ id table, store.catalog.tables.get? id = some table →
    table.wholePages store.disk + 1 < 2 ^ 32

instance (store : Store) : Decidable store.Roomy :=
  decidable_of_iff
    (∀ entry ∈ store.catalog.tables.entries, entry.2.wholePages store.disk + 1 < 2 ^ 32)
    ⟨fun all id table found => all (id, table) (SortedMap.mem_entries_iff.mpr found),
      fun all entry member => all entry.1 entry.2 (SortedMap.mem_entries_iff.mp member)⟩

theorem Appends.ages (appends : Appends store after table) : Ages store after := by
  have frames : after.frames = store.frames := by rw [appends.disk]
  have nextSerial : after.nextSerial = store.nextSerial := by rw [appends.disk]
  refine ⟨by rw [appends.disk], Nat.le_of_eq nextSerial.symm, fun id frame found => ?_⟩
  have known : store.frames.get? id = some frame := frames ▸ found
  refine .inl ⟨frame, known, rfl, rfl, appends.stored id ?_⟩
  rintro rfl
  cases (cached?_of_frame known).symm.trans appends.uncached

theorem Serial.nextPage (serial : Serial store txn handles tables)
    (registered : store.catalog.tables.get? table.id = some table) :
    store.nextPage table = tables.next table := by
  rw [Store.nextPage, serial.count _ _ registered, Tables.next]

theorem Serial.extends (serial : Serial store txn handles tables)
    (registered : store.catalog.tables.get? table.id = some table)
    (appends : Appends store after table) : tables.Extends (tables.grow table) := by
  intro id
  by_cases here : id = tables.next table
  · subst here
    have missing := serial.nextPage registered ▸ appends.missing
    have uncached := serial.nextPage registered ▸ appends.uncached
    have file := (serial.page _).stored_of_absent (copy_of_uncached uncached)
    exact .inr ⟨⟨_, file.symm.trans missing⟩, by simp only [Tables.grow, if_true]⟩
  · refine .inl ⟨?_, ?_⟩
    · simp only [Tables.grow, if_neg here]
    · simp only [Tables.grow, if_neg here]

theorem Serial.append (serial : Serial store txn [] tables)
    (registered : store.catalog.tables.get? table.id = some table)
    (appends : Appends store after table) : Serial after txn [] (tables.grow table) := by
  have disk := appends.disk
  have catalog : after.catalog = store.catalog := by rw [disk]
  have frames : after.frames = store.frames := by rw [disk]
  have locks : after.locks = store.locks := by rw [disk]
  have nextSerial : after.nextSerial = store.nextSerial := by rw [disk]
  have policy : after.policy = store.policy := by rw [disk]
  have next : store.nextPage table = tables.next table := serial.nextPage registered
  refine ⟨appends.sound, appends.addressable registered serial.addressable,
    serial.pinned.of_frames policy frames, policy ▸ serial.recent, ?_, ?_,
    fun id frame found => ?_, locks ▸ serial.alone, fun id => ?_, fun id own found => ?_⟩
  · rw [disk]
    exact serial.room
  · rw [disk]
    exact serial.writable
  · rw [nextSerial]
    exact serial.serials id frame (frames ▸ found)
  · rw [locks]
    simp only [Tables.grow]
    split
    · next here =>
        rw [here, ← next, appends.state]
        have empty : (store.pageState (store.nextPage table)).cached = none :=
          copy_of_uncached appends.uncached
        refine ⟨(serial.page _).flushed, ?_, fun copy cached => ?_, fun copy _ cached => ?_⟩
        · rw [PageState.look, empty]
          change (after.readPage (store.nextPage table)).map Page.contents = _
          rw [appends.read]
        · cases empty.symm.trans cached
        · cases empty.symm.trans cached
    · next other =>
        rw [appends.others (next ▸ other)]
        exact serial.page id
  · rw [catalog] at found
    simp only [Tables.grow]
    split
    · next here =>
        subst here
        cases found.symm.trans registered
        rw [appends.count, serial.count _ _ registered]
    · next other =>
        rw [appends.counts id own found other]
        exact serial.count id own found

/-! ## Ends -/

structure Rested (store : Store) (tables : Tables) : Prop where
  serial : ∀ txn, Serial store txn [] tables
  settled : tables.settled = tables.page

theorem Rested.clean (rested : Rested store tables) {copy : Copy}
    (cached : (store.pageState id).cached = some copy) : copy.dirtiedBy = none := by
  cases dirty : copy.dirtiedBy with
  | none => rfl
  | some owner =>
      -- Another transaction than the owner could not have changed the page.
      have first := ((rested.serial ⟨0⟩).page id).dirty copy owner cached dirty
      have second := ((rested.serial ⟨1⟩).page id).dirty copy owner cached dirty
      cases first.1.symm.trans second.1

theorem Rested.returns (rested : Rested store tables) : Returns store tables := by
  intro id
  refine ⟨fun copy cached dirty => ?_, fun _ => by rw [rested.settled]⟩
  exact absurd (rested.clean cached) dirty

theorem Rested.stored (rested : Rested store tables) (id : PageId) :
    store.stored id = tables.page id := by
  have mirrors := (rested.serial ⟨0⟩).page id
  cases cached : (store.pageState id).cached with
  | none => exact mirrors.stored_of_absent cached
  | some copy =>
      rw [mirrors.contents cached]
      exact (mirrors.clean copy cached (rested.clean cached)).2

theorem Serial.ended {ended owner : TxnId} (serial : Serial store txn [] tables)
    (ends : Ends store after ended)
    (alone : ∀ other id, other ≠ owner → after.locks.mode? other id = none)
    (pages : ∀ id, (after.pageState id).Mirrors owner (after.locks.mode? owner id) (later.page id))
    (count : later.count = tables.count) : Serial after owner [] later := by
  have frames (id : PageId) (frame : Frame) (found : after.frames.get? id = some frame) :
      ∃ before, store.frames.get? id = some before ∧ before.serial = frame.serial := by
    have hold := ends.still.hold id
    rw [found, Option.map_some] at hold
    obtain ⟨before, known, same⟩ := Option.map_eq_some_iff.mp hold.symm
    exact ⟨before, known, congrArg Prod.snd same⟩
  have unlocked : Pinned { store with locks := after.locks } [] := serial.pinned.of_frames rfl rfl
  refine ⟨ends.sound, ends.still.toContinues.addressable serial.addressable,
    ends.still.pinned unlocked, ?_, ?_, ?_, ?_, alone, pages, fun id table registered => ?_⟩
  · rw [ends.still.policy]
    exact serial.recent
  · exact ends.still.capacity ▸ serial.room
  · exact ends.still.unwritable.trans serial.writable
  · intro id frame found
    obtain ⟨before, known, same⟩ := frames id frame found
    rw [ends.still.nextSerial, ← same]
    exact serial.serials id before known
  · rw [ends.still.catalog] at registered
    rw [count, ends.still.counts id table registered]
    exact serial.count id table registered

theorem Serial.ends (serial : Serial store txn [] tables) (ends : Ends store after txn)
    (pages : ∀ id, (after.pageState id).Mirrors txn none (later.page id))
    (clean : ∀ id copy, (after.pageState id).cached = some copy → copy.dirtiedBy = none)
    (count : later.count = tables.count) (settled : later.settled = later.page) :
    Rested after later := by
  have modes (other : TxnId) (id : PageId) : after.locks.mode? other id = none := by
    rw [ends.mode serial.sound, Outline.released]
    split
    · rfl
    · next different => exact serial.alone other id different
  refine ⟨fun other => serial.ended ends (fun txn id _ => modes txn id) (fun id => ?_) count, settled⟩
  rw [modes]
  refine ⟨(pages id).flushed, (pages id).look, (pages id).clean, fun copy owner cached dirty => ?_⟩
  cases (clean id copy cached).symm.trans dirty

end Store

namespace PageState

variable {state : PageState} {txn : TxnId} {mode : Option LockMode} {copy : Copy}
  {page settled : Except StoreError Contents}

theorem mirrors_of_absent (absent : state.cached = none) (flushed : state.unflushed = false)
    (look : state.look = page) : state.Mirrors txn mode page where
  flushed := flushed
  look := look
  clean copy cached := by cases absent.symm.trans cached
  dirty copy owner cached := by cases absent.symm.trans cached

theorem Mirrors.committed (mirrors : state.Mirrors txn mode page)
    (filed : ∀ copy, state.cached = some copy → ∃ contents, state.stored = .ok contents) :
    (state.committed txn true).Mirrors txn none page ∧
      ∀ copy, (state.committed txn true).cached = some copy →
        copy.dirtiedBy = none ∧ copy.image = copy.contents := by
  rw [PageState.committed]
  cases cached : state.cached with
  | none =>
      refine ⟨mirrors_of_absent cached mirrors.flushed mirrors.look, fun copy known => ?_⟩
      cases cached.symm.trans known
  | some copy =>
      have seen := mirrors.contents cached
      cases dirty : copy.dirtiedBy with
      | none =>
          simp only [dirty, reduceCtorEq, if_false]
          have clean := mirrors.clean copy cached dirty
          refine ⟨⟨mirrors.flushed, mirrors.look, mirrors.clean, fun other owner known => ?_⟩,
            fun other known => ?_⟩
          · cases cached.symm.trans known
            intro marked
            cases dirty.symm.trans marked
          · cases cached.symm.trans known
            exact ⟨dirty, clean.1⟩
      | some owner =>
          obtain ⟨rfl, -⟩ := mirrors.dirty copy owner cached dirty
          simp only [dirty, if_true]
          obtain ⟨before, stored⟩ := filed copy cached
          refine ⟨⟨rfl, seen.symm, ?_, ?_⟩, ?_⟩
          · rintro _ ⟨⟩ -
            exact ⟨rfl, filed_of_stored stored copy.contents⟩
          · rintro _ _ ⟨⟩ marked
            cases marked
          · intro _ known
            cases known
            exact ⟨rfl, rfl⟩

theorem Mirrors.restored (mirrors : state.Mirrors txn mode page) (returns : state.Returns page settled) :
    (state.restored txn).Mirrors txn none settled ∧
      ∀ copy, (state.restored txn).cached = some copy → copy.dirtiedBy = none := by
  cases cached : state.cached with
  | none =>
      rw [restored_of_absent cached]
      have same := returns.same fun copy known => by cases cached.symm.trans known
      refine ⟨mirrors_of_absent cached mirrors.flushed (mirrors.look.trans same),
        fun copy known => ?_⟩
      cases cached.symm.trans known
  | some copy =>
      have own : copy.restored txn state.unflushed = ⟨copy.image, copy.image, none⟩ := by
        rw [Copy.restored, mirrors.flushed, if_neg]
        · rfl
        · cases dirty : copy.dirtiedBy with
          | none => simp
          | some owner => simp [(mirrors.dirty copy owner cached dirty).1]
      have image : settled = .ok copy.image ∧ state.stored = .ok copy.image := by
        cases dirty : copy.dirtiedBy with
        | none =>
            obtain ⟨image, stored⟩ := mirrors.clean copy cached dirty
            have same := returns.same fun other known => by
              cases cached.symm.trans known
              exact dirty
            rw [image, ← same]
            exact ⟨mirrors.contents cached, stored⟩
        | some owner => exact returns.image copy cached (by simp [dirty])
      have state' : state.restored txn =
          ⟨some ⟨copy.image, copy.image, none⟩, state.stored, state.unflushed⟩ := by
        rw [PageState.restored, cached, Option.map_some, own]
      rw [state']
      refine ⟨⟨mirrors.flushed, image.1.symm, ?_, ?_⟩, ?_⟩
      · rintro _ ⟨⟩ -
        exact ⟨rfl, image.2⟩
      · rintro _ _ ⟨⟩ marked
        cases marked
      · intro _ known
        cases known
        rfl

/-- A page that the transaction does not hold exclusively needs no rollback. -/
theorem Mirrors.unrestored (mirrors : state.Mirrors txn mode page)
    (returns : state.Returns page settled) (free : mode ≠ some .exclusive) :
    state.Mirrors txn none settled ∧ ∀ copy, state.cached = some copy → copy.dirtiedBy = none := by
  have clean (copy : Copy) (cached : state.cached = some copy) : copy.dirtiedBy = none := by
    cases dirty : copy.dirtiedBy with
    | none => rfl
    | some owner => exact absurd (mirrors.dirty copy owner cached dirty).2 free
  refine ⟨⟨mirrors.flushed, mirrors.look.trans (returns.same clean), mirrors.clean, ?_⟩, clean⟩
  intro copy owner cached dirty
  cases (clean copy cached).symm.trans dirty

end PageState

namespace Store

variable {store : Store} {txn : TxnId} {tables : Tables}

theorem Serial.commit (serial : Serial store txn [] tables) :
    (store.commit txn).1 = .ok () ∧ Rested (store.commit txn).2 (tables.finish true) := by
  obtain ⟨ends, -, result⟩ := serial.sound.commit txn
  have takes := takes_of_writable serial.writable
  have filed (id : PageId) (copy : Copy) (cached : (store.pageState id).cached = some copy) :=
    serial.sound.filed_copy serial.addressable cached
  have states (id : PageId) :
      (store.commit txn).2.pageState id = (store.pageState id).committed txn true := by
    rw [serial.sound.pageState_commit, takes]
    split
    · exact PageState.captured_of_same fun copy cached =>
        (((serial.page id).committed (filed id)).2 copy cached).2
    · rfl
  refine ⟨result.mpr fun id _ _ _ => takes id, serial.ends ends (fun id => ?_)
    (fun id copy cached => ?_) rfl rfl⟩
  · rw [states]
    exact ((serial.page id).committed (filed id)).1
  · rw [states] at cached
    exact (((serial.page id).committed (filed id)).2 copy cached).1

/-- A commit of a transaction without locks leaves the other one as it was. -/
theorem Serial.commit_other {other : TxnId} (serial : Serial store txn [] tables)
    (different : other ≠ txn) : Serial (store.commit other).2 txn [] tables := by
  obtain ⟨ends, -, -⟩ := serial.sound.commit other
  have modes (owner : TxnId) (id : PageId) :
      (store.commit other).2.locks.mode? owner id = store.locks.mode? owner id := by
    rw [ends.mode serial.sound, Outline.released]
    split
    · next same => exact same ▸ (serial.alone other id different).symm
    · rfl
  have states (id : PageId) : (store.commit other).2.pageState id = store.pageState id := by
    rw [serial.sound.pageState_commit, serial.alone other id different, if_neg (by simp)]
    unfold PageState.committed
    cases cached : (store.pageState id).cached with
    | none => rfl
    | some copy =>
        have foreign : copy.dirtiedBy ≠ some other := by
          intro dirty
          exact different ((serial.page id).dirty copy other cached dirty).1
        simp only [foreign, if_false]
  apply serial.ended ends _ _ rfl
  · intro owner id foreign
    rw [modes]
    exact serial.alone owner id foreign
  · intro id
    rw [states, modes]
    exact serial.page id

theorem Serial.abort (serial : Serial store txn [] tables) (returns : Returns store tables) :
    (store.abort txn).1 = .ok () ∧ Rested (store.abort txn).2 (tables.finish false) := by
  obtain ⟨ends, -, result⟩ := serial.sound.abort txn
  have page (id : PageId) : ((store.abort txn).2.pageState id).Mirrors txn none (tables.settled id) ∧
      ∀ copy, ((store.abort txn).2.pageState id).cached = some copy → copy.dirtiedBy = none := by
    rw [serial.sound.pageState_abort]
    split
    · exact (serial.page id).restored (returns id)
    · next free => exact (serial.page id).unrestored (returns id) free
  exact ⟨result, serial.ends ends (fun id => (page id).1) (fun id => (page id).2) rfl rfl⟩

end Store

end TableStore
