import TableStore.Proofs.CacheEdits

/-!
# Steps of the cache

Beside the edits of cached pages, a cache changes in a few ways only.  A page gets
a pin or loses one; a page comes in, for another one if need be; a page is dropped.
Every request for a page, and every step of an operation, is a path of such steps,
whatever state the files, the tables and the locks are in.
-/

set_option autoImplicit false

namespace TableStore

namespace Store

variable {store middle after : Store} {id : PageId} {page : Page} {handles : List Handle}
  {handle : Handle}

/-- The page is read from a file as it was now or before it grew. -/
def Reads (store : Store) (id : PageId) (page : Page) : Prop :=
  ∃ disk : Disk, disk.GrowsTo store.disk ∧ ({ store with disk }).readPage id = .ok page

def vacated (store : Store) (victim : PageId) : Store :=
  ({ store with policy := store.policy.evict.2 }).dropFrame victim

theorem dropFrame_eq (store : Store) (victim : PageId) : store.dropFrame victim = { store with
    frames := store.frames.erase victim
    adrift := (store.dropFrame victim).adrift } := by
  rw [dropFrame]
  split
  · next missing => rw [SortedMap.erase_of_missing missing]
  · rfl

@[simp] theorem policy_dropFrame (store : Store) (victim : PageId) :
    (store.dropFrame victim).policy = store.policy := by
  rw [dropFrame_eq]

@[simp] theorem nextSerial_dropFrame (store : Store) (victim : PageId) :
    (store.dropFrame victim).nextSerial = store.nextSerial := by
  rw [dropFrame_eq]

/-- What happens to the cache, and to the handles to its pages, at one moment. -/
inductive CacheStep : Store × List Handle → Store × List Handle → Prop
  | edit {store after : Store} {handles : List Handle} (edit : Edit store after) :
      CacheStep (store, handles) (after, handles)
  /-- A page that is cached gets a pin. -/
  | hit {store : Store} {handles : List Handle} {handle : Handle} {frame : Frame}
      (found : store.frames.get? handle.page = some frame) (serial : frame.serial = handle.serial) :
      CacheStep (store, handles)
        ({ store with
          frames := store.frames.insert handle.page { frame with pins := frame.pins + 1 }
          policy := store.policy.pin handle.page }, handle :: handles)
  /-- There is room for a page. -/
  | load {store : Store} {handles : List Handle} {handle : Handle} {page : Page}
      (absent : store.frames.get? handle.page = none) (read : store.Reads handle.page page)
      (room : store.frames.size < store.capacity) (serial : handle.serial = store.nextSerial) :
      CacheStep (store, handles) ((store.install page).2, handle :: handles)
  /-- The chosen page, which is unchanged, leaves the cache for another one. -/
  | swap {store : Store} {handles : List Handle} {handle : Handle} {page old : Page}
      {victim : PageId} (absent : store.frames.get? handle.page = none)
      (read : store.Reads handle.page page) (chosen : store.policy.evict.1 = some victim)
      (cached : store.cached? victim = some old) (clean : old.dirtiedBy = none)
      (serial : handle.serial = store.nextSerial) :
      CacheStep (store, handles) (((store.vacated victim).install page).2, handle :: handles)
  /-- The chosen page is not cached, and another one comes in. -/
  | stray {store : Store} {handles : List Handle} {handle : Handle} {page : Page}
      {victim : PageId} (absent : store.frames.get? handle.page = none)
      (read : store.Reads handle.page page) (chosen : store.policy.evict.1 = some victim)
      (uncached : store.frames.get? victim = none) (serial : handle.serial = store.nextSerial) :
      CacheStep (store, handles)
        (({ store with policy := store.policy.evict.2 }).install page |>.2, handle :: handles)
  /-- No page may leave. -/
  | blocked {store : Store} {handles : List Handle} (chosen : store.policy.evict.1 = none) :
      CacheStep (store, handles) ({ store with policy := store.policy.evict.2 }, handles)
  /-- The chosen page cannot be written, and stays. -/
  | spare {store : Store} {handles : List Handle} {victim : PageId} {old : Page}
      (chosen : store.policy.evict.1 = some victim) (cached : store.cached? victim = some old) :
      CacheStep (store, handles)
        ({ store with policy := store.policy.evict.2.unpin victim }, handles)
  | give {store : Store} {handles : List Handle} {handle : Handle} (live : handle ∈ handles) :
      CacheStep (store, handles) (store.unpin handle, handles.erase handle)
  | discard {store : Store} {handles : List Handle} (id : PageId) :
      CacheStep (store, handles) (store.discard id, handles)

abbrev CacheSteps : Store × List Handle → Store × List Handle → Prop :=
  Relation.ReflTransGen CacheStep

theorem Edits.steps (edits : Edits store after) (handles : List Handle) :
    CacheSteps (store, handles) (after, handles) := by
  induction edits with
  | refl => exact .refl
  | tail rest edit ih => exact ih.tail (.edit edit)

theorem Reads.of_readPage (read : store.readPage id = .ok page) (stays : Stays store after) :
    after.Reads id page := by
  refine ⟨store.disk, stays.disk, ?_⟩
  rw [← read]
  exact readPage_congr stays.catalog rfl

theorem Reads.fits (reads : store.Reads id page) : ∃ table,
    store.catalog.tables.get? id.table = some table ∧ page.Fits table id ∧
      page.dirtiedBy = none ∧
      (id.number.toNat + 1) * table.pageSize ≤ ((store.disk.get? table.file).getD ∅).length := by
  obtain ⟨disk, grows, read⟩ := reads
  cases registered : store.catalog.tables.get? id.table with
  | none =>
      rw [readPage_of_unregistered (show ({ store with disk }).catalog.tables.get? id.table = none
        from registered)] at read
      cases read
  | some table =>
      rw [readPage_of_table (show ({ store with disk }).catalog.tables.get? id.table = some table
        from registered)] at read
      obtain ⟨fits, clean, -, inside⟩ := Table.fits_of_readPage read
      exact ⟨table, rfl, fits, clean, Nat.le_trans inside (grows table.file)⟩

/-- What making room does to any store: no page is chosen; the chosen page is not cached;
it cannot be written; or it leaves, and was written if it was changed. -/
inductive MakesRoom (store : Store) : Except StoreError Unit → Store → Prop
  | nobody (chosen : store.policy.evict.1 = none) :
      MakesRoom store (.error .poolFull) { store with policy := store.policy.evict.2 }
  | stray {victim : PageId} (chosen : store.policy.evict.1 = some victim)
      (absent : store.frames.get? victim = none) :
      MakesRoom store (.ok ()) { store with policy := store.policy.evict.2 }
  | spares {victim : PageId} {page : Page} {error : StoreError}
      (chosen : store.policy.evict.1 = some victim) (cached : store.cached? victim = some page)
      (failed : store.writeBack page = .error error) :
      MakesRoom store (.error error)
        { store with policy := store.policy.evict.2.unpin victim }
  | leaves {victim : PageId} {page clean : Page} {written : Store}
      (chosen : store.policy.evict.1 = some victim) (cached : store.cached? victim = some page)
      (wrote : store.writeBack page = .ok (clean, written)) :
      MakesRoom store (.ok ())
        (({ written.setPage clean with policy := store.policy.evict.2 }).dropFrame victim)

theorem makes_room {result : Except StoreError Unit} (run : store.evict = (result, after)) :
    MakesRoom store result after := by
  cases chosen : store.policy.evict.1 with
  | none =>
      rw [evict, ← Prod.eta store.policy.evict, chosen] at run
      cases run
      exact .nobody chosen
  | some victim =>
      rw [evict, ← Prod.eta store.policy.evict, chosen] at run
      cases found : store.frames.get? victim with
      | none =>
          simp only [found] at run
          cases run
          exact .stray chosen found
      | some frame =>
          have cached := cached?_of_frame found
          have beside := writeBack_beside store store.locks store.policy.evict.2 frame.page
          cases wrote : store.writeBack frame.page with
          | error error =>
              rw [wrote] at beside
              have failed : ({ store with policy := store.policy.evict.2 }).writeBack frame.page =
                  .error error := beside
              simp only [found, failed] at run
              cases run
              exact .spares chosen cached wrote
          | ok result =>
              obtain ⟨clean, written⟩ := result
              rw [wrote] at beside
              have same : ({ written with
                  locks := store.locks, policy := store.policy.evict.2 } : Store) =
                  { written with policy := store.policy.evict.2 } := by
                rw [← locks_of_writeBack wrote]
              have wroteBeside : ({ store with policy := store.policy.evict.2 }).writeBack
                  frame.page = .ok (clean, { written with policy := store.policy.evict.2 }) :=
                same ▸ beside
              simp only [found, wroteBeside] at run
              cases run
              exact .leaves chosen cached wrote

/-- A pin is a step of the cache, perhaps after a page was written. -/
theorem Fitting.pin_ok (fitting : store.Fitting) (handles : List Handle)
    (run : store.pin handle.page = (.ok handle.serial, after)) :
    CacheSteps (store, handles) (after, handle :: handles) := by
  generalize result : (.ok handle.serial : Except StoreError Nat) = answer at run
  cases pin_cases run with
  | hits found => exact .single (.hit found (Except.ok.inj result).symm)
  | unreadable => cases result
  | @loads page room absent read made =>
      have number : handle.serial = room.nextSerial := Except.ok.inj result
      rcases made with ⟨space, rfl⟩ | ⟨-, evicted⟩
      · exact .single (.load absent (.of_readPage read (.refl _)) space number)
      · cases makes_room evicted with
        | stray chosen uncached =>
            exact .single (.stray absent (.of_readPage read (.refl _)) chosen uncached number)
        | @leaves victim old clean written chosen cached wrote =>
            obtain ⟨edits, known, unchanged⟩ := fitting.written cached wrote
            have stays := edits.stays
            have gone : (written.setPage clean).frames.get? handle.page = none := by
              have same := stays.isCached handle.page
              rw [cached?_of_missing absent, Option.isSome_none, Option.isSome_eq_false_iff,
                Option.isNone_iff_eq_none] at same
              exact Option.map_eq_none_iff.mp same
            refine (edits.steps handles).tail ?_
            rw [← stays.policy] at chosen number ⊢
            refine .swap gone (.of_readPage read stays) chosen known unchanged (number.trans ?_)
            rw [nextSerial_dropFrame]
  | blocked => cases result

theorem Fitting.pin_error {error : StoreError} (handles : List Handle)
    (run : store.pin id = (.error error, after)) :
    CacheSteps (store, handles) (after, handles) := by
  cases pin_cases run with
  | unreadable => exact .refl
  | blocked _ _ _ evicted =>
      cases makes_room evicted with
      | nobody chosen => exact .single (.blocked chosen)
      | spares chosen cached => exact .single (.spare chosen cached)

theorem Fitting.attempt (fitting : store.Fitting) (handles : List Handle) {request : PageRequest}
    {answer : Progress PageRequest (Except StoreError Handle)}
    (run : store.attempt request = (answer, after)) :
    CacheSteps (store, handles) (after, kept answer handles) := by
  have relock : CacheStep (store, handles) (store.locked request, handles) := .edit (.relock _)
  have locked : (store.locked request).Fitting := fitting
  cases attempt_cases run with
  | pins granted pinned => exact .head relock (locked.pin_ok handles pinned)
  | @fails error middle granted unpinned =>
      obtain ⟨locks, same⟩ := giveBack_relocked middle request error
      rw [same]
      exact .head relock ((Fitting.pin_error handles unpinned).tail (.edit (.relock locks)))
  | waits refused free => exact .single relock
  | deadlock refused circle => exact .single (.edit (.relock _))

/-! ## Cached pages -/

theorem frames_install (store : Store) (page : Page) (id : PageId) :
    (store.install page).2.frames.get? id =
      if id = page.id then some ⟨page, 1, store.nextSerial⟩ else store.frames.get? id :=
  SortedMap.get?_insert store.frames page.id id _

theorem unpin_eq (store : Store) (handle : Handle) : store.unpin handle = { store with
    frames := (store.unpin handle).frames
    policy := (store.unpin handle).policy
    adrift := (store.unpin handle).adrift } := by
  simp only [unpin]
  split
  · split <;> rfl
  · rfl

@[simp] theorem nextSerial_unpin (store : Store) (handle : Handle) :
    (store.unpin handle).nextSerial = store.nextSerial := by
  rw [unpin_eq]

/-- A handle that is given up takes a pin from the page to which it leads, and does
nothing to any other cached page. -/
theorem frames_unpin (store : Store) (handle : Handle) (id : PageId) :
    (store.unpin handle).frames.get? id = (store.frames.get? id).map fun frame =>
      if id = handle.page ∧ frame.serial = handle.serial then
        { frame with pins := frame.pins - 1 } else frame := by
  have others (frames : SortedMap PageId Frame)
      (unled : ∀ frame, frames.get? id = some frame →
        ¬ (id = handle.page ∧ frame.serial = handle.serial)) :
      frames.get? id = (frames.get? id).map fun frame =>
        if id = handle.page ∧ frame.serial = handle.serial then
          { frame with pins := frame.pins - 1 } else frame := by
    cases found : frames.get? id with
    | none => rfl
    | some frame => rw [Option.map_some, if_neg (unled frame found)]
  simp only [unpin]
  split
  · next frame found =>
      split
      · next led =>
          rw [SortedMap.get?_insert]
          split
          · next here =>
              rw [here, found, Option.map_some, if_pos ⟨rfl, led⟩]
          · next other => exact others store.frames fun _ _ both => other both.1
      · next unled =>
          apply others
          rintro own known ⟨rfl, led⟩
          cases found.symm.trans known
          exact unled led
  · next missing =>
      apply others
      rintro own known ⟨rfl, -⟩
      cases missing.symm.trans known

structure Lasts (store after : Store) : Prop where
  catalog : after.catalog = store.catalog
  capacity : after.capacity = store.capacity
  nextSerial : store.nextSerial ≤ after.nextSerial
  disk : store.disk.GrowsTo after.disk

theorem Lasts.refl (store : Store) : Lasts store store := ⟨rfl, rfl, Nat.le_refl _, .refl _⟩

theorem Lasts.trans (first : Lasts store middle) (second : Lasts middle after) :
    Lasts store after where
  catalog := second.catalog.trans first.catalog
  capacity := second.capacity.trans first.capacity
  nextSerial := Nat.le_trans first.nextSerial second.nextSerial
  disk := first.disk.trans second.disk

theorem lasts_dropFrame (store : Store) (id : PageId) : Lasts store (store.dropFrame id) := by
  rw [dropFrame_eq]
  exact ⟨rfl, rfl, Nat.le_refl _, .refl _⟩

theorem lasts_vacated (store : Store) (victim : PageId) : Lasts store (store.vacated victim) :=
  have dropped := ({ store with policy := store.policy.evict.2 }).lasts_dropFrame victim
  ⟨dropped.catalog, dropped.capacity, dropped.nextSerial, dropped.disk⟩

theorem lasts_unpin (store : Store) (handle : Handle) : Lasts store (store.unpin handle) := by
  rw [unpin_eq]
  exact ⟨rfl, rfl, Nat.le_refl _, .refl _⟩

theorem lasts_install (store : Store) (page : Page) : Lasts store (store.install page).2 :=
  ⟨rfl, rfl, Nat.le_succ _, .refl _⟩

variable {before later : Store × List Handle}

theorem CacheStep.lasts (step : CacheStep before later) : Lasts before.1 later.1 := by
  cases step with
  | edit edit =>
      have stays := edit.stays
      exact ⟨stays.catalog, stays.capacity, Nat.le_of_eq stays.nextSerial.symm, stays.disk⟩
  | hit => exact ⟨rfl, rfl, Nat.le_refl _, .refl _⟩
  | load => exact lasts_install _ _
  | swap => exact (lasts_vacated _ _).trans (lasts_install _ _)
  | stray => exact ⟨rfl, rfl, Nat.le_succ _, .refl _⟩
  | blocked => exact ⟨rfl, rfl, Nat.le_refl _, .refl _⟩
  | spare => exact ⟨rfl, rfl, Nat.le_refl _, .refl _⟩
  | give => exact lasts_unpin _ _
  | @discard store handles id =>
      have dropped := store.lasts_dropFrame id
      exact ⟨dropped.catalog, dropped.capacity, dropped.nextSerial, dropped.disk⟩

theorem CacheSteps.lasts (steps : CacheSteps before later) : Lasts before.1 later.1 := by
  induction steps with
  | refl => exact .refl before.1
  | tail rest step ih => exact ih.trans step.lasts

theorem CacheStep.frame (step : CacheStep before later) (fitting : before.1.Fitting)
    {frame : Frame} (found : later.1.frames.get? id = some frame) : before.1.Had id frame ∨
      before.1.Reads id frame.page ∧ before.1.nextSerial ≤ frame.serial ∧
        frame.serial < later.1.nextSerial := by
  have installed {store room : Store} {place : PageId} {page : Page}
      (reads : store.Reads place page) (serial : room.nextSerial = store.nextSerial)
      (rest : ∀ other, other ≠ place → room.frames.get? other = some frame →
        store.frames.get? other = some frame)
      (known : (room.install page).2.frames.get? id = some frame) : store.Had id frame ∨
        store.Reads id frame.page ∧ store.nextSerial ≤ frame.serial ∧
          frame.serial < (room.install page).2.nextSerial := by
    obtain ⟨table, -, fits, -⟩ := reads.fits
    rw [frames_install, fits.id] at known
    split at known
    · next here =>
        cases known
        subst here
        exact .inr ⟨reads, Nat.le_of_eq serial.symm, Nat.lt_succ_self _⟩
    · next other => exact .inl (.here (rest id other known))
  cases step with
  | edit edit => exact .inl (edit.frame fitting found)
  | hit present serial =>
      left
      rw [SortedMap.get?_insert] at found
      split at found
      · next here =>
          cases found
          subst here
          exact ⟨_, present, rfl, fun _ fits => fits⟩
      · exact .here found
  | load absent read room serial => exact installed read rfl (fun _ _ known => known) found
  | swap absent read chosen cached clean serial =>
      apply installed read _ _ found
      · rw [vacated, nextSerial_dropFrame]
      · intro other _ known
        rw [vacated, frames_dropFrame] at known
        split at known
        · cases known
        · exact known
  | stray absent read chosen uncached serial =>
      exact installed read rfl (fun _ _ known => known) found
  | blocked chosen => exact .inl (.here found)
  | spare chosen cached => exact .inl (.here found)
  | give live =>
      left
      rw [frames_unpin, Option.map_eq_some_iff] at found
      obtain ⟨old, known, rfl⟩ := found
      apply (Had.here known).later
      · split <;> rfl
      · intro table fits
        split <;> exact fits
  | discard place =>
      left
      rw [Store.discard, frames_dropFrame] at found
      split at found
      · cases found
      · exact .here found

theorem Fitting.step (fitting : before.1.Fitting) (step : CacheStep before later) :
    later.1.Fitting := by
  intro id page cached
  obtain ⟨frame, found, rfl⟩ := Option.map_eq_some_iff.mp cached
  rcases step.frame fitting found with ⟨old, known, -, fits⟩ | ⟨reads, -⟩
  · obtain ⟨table, fitted⟩ := fitting id old.page (cached?_of_frame known)
    exact ⟨table, fits table fitted⟩
  · obtain ⟨table, -, fits, -⟩ := reads.fits
    exact ⟨table, fits⟩

theorem Fitting.steps (fitting : before.1.Fitting) (steps : CacheSteps before later) :
    later.1.Fitting := by
  induction steps with
  | refl => exact fitting
  | tail rest step ih => exact ih.step step

structure Took (store after : Store) (id : PageId) (frame : Frame) : Prop where
  table : ∃ table, store.catalog.tables.get? id.table = some table ∧ frame.page.Fits table id ∧
    (id.number.toNat + 1) * table.pageSize ≤ ((after.disk.get? table.file).getD ∅).length
  fresh : store.nextSerial ≤ frame.serial
  taken : frame.serial < after.nextSerial

theorem CacheSteps.frame (steps : CacheSteps before later) (fitting : before.1.Fitting)
    {frame : Frame} (found : later.1.frames.get? id = some frame) :
    before.1.Had id frame ∨ Took before.1 later.1 id frame := by
  induction steps generalizing frame with
  | refl => exact .inl (.here found)
  | @tail middle last rest step ih =>
      have lasts : Lasts before.1 middle.1 := CacheSteps.lasts rest
      rcases step.frame (fitting.steps rest) found with ⟨old, known, serial, fits⟩ |
        ⟨reads, fresh, taken⟩
      · rcases ih known with had | ⟨⟨table, registered, fitted, inside⟩, fresh, taken⟩
        · exact .inl (had.later serial fits)
        · refine .inr ⟨⟨table, registered, fits table fitted, ?_⟩, serial ▸ fresh, ?_⟩
          · exact Nat.le_trans inside (step.lasts.disk table.file)
          · exact serial ▸ Nat.lt_of_lt_of_le taken step.lasts.nextSerial
      · obtain ⟨table, registered, fitted, -, inside⟩ := reads.fits
        refine .inr ⟨⟨table, lasts.catalog ▸ registered, fitted, ?_⟩,
          Nat.le_trans lasts.nextSerial fresh, taken⟩
        exact Nat.le_trans inside (step.lasts.disk table.file)

/-! ## Operations -/

theorem attempt_holds {request : PageRequest}
    (run : store.attempt request = (.finished (.ok handle), after)) :
    after.Holds handle.page handle.serial := by
  cases attempt_cases run with
  | pins granted pinned =>
      cases pin_cases pinned with
      | hits found => exact ⟨_, SortedMap.get?_insert_self .., rfl⟩
      | @loads page room _ read =>
          obtain ⟨table, -, fits, -⟩ := (Reads.of_readPage read (.refl _)).fits
          refine ⟨⟨page, 1, room.nextSerial⟩, ?_, rfl⟩
          exact (frames_install room page request.page).trans (if_pos fits.id.symm)

end Store

/-- The second store comes of one step of an operation: of nothing, of a request
alone, or of a request and the use of its page, which was edited, perhaps, before
its handle was given up. -/
inductive Operation.Course (store after : Store) : Option Handle → Prop
  | stays (same : after = store) : Course store after none
  | asked (request : PageRequest) (answer : Progress PageRequest (Except StoreError Handle))
      (run : store.attempt request = (answer, after)) :
      Course store after (Store.kept answer []).head?
  | used (request : PageRequest) (handle : Handle) (got changed : Store)
      (run : store.attempt request = (.finished (.ok handle), got))
      (edits : Store.Edits got changed) (rest : Store.Edits (changed.unpin handle) after) :
      Course store after none

section

variable {store after : Store} {turn : Turn} {handles : List Handle}

theorem Insertion.course (fitting : store.Fitting) {task : Insertion}
    {next : Step Insertion (Except StoreError Inserted)} (run : task.step store = (next, after)) :
    Operation.Course store after none := by
  unfold Insertion.step at run
  split at run
  · next attempt =>
      cases run
      exact .asked _ _ attempt
  · next attempt =>
      cases run
      exact .asked _ _ attempt
  · next handle got attempt =>
      have holds := Store.attempt_holds attempt
      have fits : got.Fitting := Store.Fitting.steps fitting (fitting.attempt [] attempt)
      split at run
      · next placing =>
          cases run
          exact .used _ handle got _ attempt (Insertion.place_edits fits holds placing) .refl
      · next changed placing =>
          have edits := Insertion.place_edits fits holds placing
          split at run
          · next going =>
              cases run
              exact .used _ handle got changed attempt edits (Insertion.goOn_edits going)
          · next going =>
              cases run
              exact .used _ handle got changed attempt edits (Insertion.goOn_edits going)

theorem Deletion.course (fitting : store.Fitting) {task : Deletion}
    {next : Progress Deletion (Except StoreError PageId)}
    (run : task.resume store = (next, after)) : Operation.Course store after none := by
  unfold Deletion.resume at run
  split at run
  · next attempt =>
      cases run
      exact .asked _ _ attempt
  · next attempt =>
      cases run
      exact .asked _ _ attempt
  · next handle got attempt =>
      have holds := Store.attempt_holds attempt
      have fits : got.Fitting := Store.Fitting.steps fitting (fitting.attempt [] attempt)
      rcases removing : Deletion.remove task.row handle got with ⟨result, changed⟩
      rw [removing] at run
      cases run
      exact .used _ handle got changed attempt (Deletion.remove_edits fits holds removing) .refl

theorem Seek.course {seek : Seek} {next : Step Seek Sought}
    (run : seek.step store = (next, after)) : Operation.Course store after none := by
  unfold Seek.step at run
  split at run
  · cases run
    exact .stays rfl
  · split at run
    · next attempt =>
        cases run
        exact .asked _ _ attempt
    · next attempt =>
        cases run
        exact .asked _ _ attempt
    · next handle got attempt =>
        cases run
        exact .used _ handle got got attempt .refl .refl

theorem Scan.course {scan : Scan} {next : Step Scan Scanned}
    (run : scan.step store = (next, after)) : Operation.Course store after none := by
  unfold Scan.step at run
  split at run <;> next seeking => cases run; exact Seek.course seeking

/-- Every step of an operation makes one request at most. -/
theorem Operation.course (fitting : store.Fitting) {operation : Operation}
    (run : operation.step store = (turn, after)) : Operation.Course store after turn.handle := by
  unfold Operation.step at run
  cases operation with
  | fetch request =>
      dsimp only at run
      split at run <;> next attempt => cases run; exact .asked _ _ attempt
  | insertion task =>
      dsimp only at run
      split at run <;> next step => cases run; exact Insertion.course fitting step
  | deletion task =>
      dsimp only at run
      split at run <;> next step => cases run; exact Deletion.course fitting step
  | scan task =>
      dsimp only at run
      split at run <;> next step => cases run; exact Scan.course step

theorem Operation.Course.steps {fetched : Option Handle} (course : Course store after fetched)
    (fitting : store.Fitting) (handles : List Handle) :
    Store.CacheSteps (store, handles) (after, fetched.toList ++ handles) := by
  cases course with
  | stays same =>
      subst same
      exact .refl
  | asked request answer run =>
      have steps := fitting.attempt handles run
      rcases answer with _ | _ | _ <;> exact steps
  | used request handle got changed run edits rest =>
      have steps : Store.CacheSteps (store, handles) (got, handle :: handles) :=
        fitting.attempt handles run
      have given : Store.CacheStep (changed, handle :: handles)
          (changed.unpin handle, (handle :: handles).erase handle) := .give List.mem_cons_self
      rw [List.erase_cons_head] at given
      exact ((steps.trans (edits.steps _)).tail given).trans (rest.steps handles)

end

end TableStore
