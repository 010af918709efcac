import TableStore.Proofs.Steps

/-!
# What steps of operations do

One step of an operation leads the outline of the store along a path, with the
events of the step: locks are granted, a page leaves the cache and another one is
loaded, and then the transaction reads or changes the page that it asked for.
Only the locks of this transaction change.
-/

set_option autoImplicit false

namespace TableStore

/-! ## The rows of a page -/

theorem Contents.rows_of_slots {id : PageId} (slots : List (Option Row)) (offset : Nat)
    (placed : ∀ (slot : Nat) (row : Row), slots[slot]? = some (some row) →
      row.location = some ⟨id, UInt16.ofNat (offset + slot)⟩) :
    (slots.filterMap fun row => row).map Row.entry =
      ((slots.map (Option.map Row.values)).zipIdx offset).filterMap fun (slot, number) =>
        slot.map fun values => (some ⟨id, UInt16.ofNat number⟩, values) := by
  induction slots generalizing offset with
  | nil => rfl
  | cons slot slots ih =>
      have rest := ih (offset + 1) fun other row found => by
        rw [Nat.add_assoc, Nat.add_comm 1]
        exact placed (other + 1) row found
      cases slot with
      | none => exact rest
      | some row =>
          have here := placed 0 row rfl
          simp only [List.filterMap_cons, List.map_cons, List.zipIdx_cons, Option.map_some, rest]
          rw [Row.entry, here]
          rfl

theorem Page.Sound.entries {page : Page} (sound : page.Sound) :
    page.rows.map Row.entry = page.contents.rows page.id := by
  rw [sound.rows_eq, sound.contents_eq]
  apply Contents.rows_of_slots page.slots 0
  intro slot row found
  rw [Nat.zero_add]
  exact (sound.row slot row found).2

/-! ## Paths of stores -/

namespace Outline

variable {outline middle after : Outline} {blank : PageId → Contents} {history : List Event}

variable {writes : List Event → TxnId → Prop}

theorem Shifts.path (shifts : Shifts blank (writes history) outline after) :
    Path blank writes (outline, history) (after, history) := by
  induction shifts with
  | refl => exact .refl
  | tail before last ih =>
      exact ih.tail ⟨[], .shift last, (List.append_nil _).symm⟩

theorem Step.path {events : List Event} (step : Step outline blank (writes history) events after) :
    Path blank writes (outline, history) (after, history ++ events) :=
  .single ⟨events, step, rfl⟩

end Outline

namespace Store

/-- The second store is reached from the first on a path with the given events
after those of the history. -/
structure Advances (writes : List Event → TxnId → Prop) (history : List Event)
    (store : Store) (events : List Event) (after : Store) : Prop where
  catalog : after.catalog = store.catalog
  sound : after.Sound
  path : Outline.Path store.catalog.blank writes (store.outline, history)
    (after.outline, history ++ events)

variable {store middle after : Store} {id : PageId} {page : Page} {table : Table}
  {frame : Frame} {handle : Handle} {txn : TxnId} {writes : List Event → TxnId → Prop}
  {history first second : List Event}

theorem Sound.stays (sound : store.Sound) : Advances writes history store [] store :=
  ⟨rfl, sound, by rw [List.append_nil]; exact .refl⟩

theorem Advances.trans (before : Advances writes history store first middle)
    (later : Advances writes (history ++ first) middle second after) :
    Advances writes history store (first ++ second) after where
  catalog := later.catalog.trans before.catalog
  sound := later.sound
  path := by
    rw [← List.append_assoc]
    exact before.path.trans (before.catalog ▸ later.path)

theorem Reaches.advances (reaches : Reaches (writes history) store after) :
    Advances writes history store [] after :=
  ⟨reaches.catalog, reaches.sound, by
    rw [List.append_nil]
    exact Outline.Shifts.path reaches.shifts⟩

theorem Moves.advances (moves : Moves (writes history) store after) :
    Advances writes history store [] after := moves.reaches.advances

theorem Moves.before (moves : Moves (writes history) store middle)
    (later : Advances writes history middle second after) :
    Advances writes history store second after := by
  have both := moves.advances.trans ((List.append_nil history).symm ▸ later)
  exact both

theorem Advances.rest (before : Advances writes history store first middle)
    (rest : ∀ history, Advances writes history middle [] after) :
    Advances writes history store first after := by
  have both := before.trans (rest (history ++ first))
  rwa [List.append_nil] at both

theorem Changes.advances {change : Change} (changes : Changes store after txn change)
    (exclusive : store.locks.mode? txn change.page = some .exclusive) :
    Advances writes history store [.changed txn change (after.view change.page)] after := by
  obtain ⟨copy, cached, inside, outline⟩ := changes.copy
  refine ⟨changes.catalog, changes.sound, ?_⟩
  have view : after.view change.page = change.apply copy.contents := by
    have state : (after.pageState change.page).cached =
        some ⟨change.apply copy.contents, copy.image, some txn⟩ := by
      change (after.outline.page change.page).cached = _
      rw [outline, Outline.change, Outline.set_same]
    obtain ⟨page, found, same⟩ := cached_of_pageState state
    rw [Store.view, found]
    exact congrArg Copy.contents same
  rw [view, outline]
  exact Outline.Step.path (.change txn copy change exclusive cached)

/-! ## Reading pages -/

theorem Sound.read (sound : store.Sound) (found : store.frames.get? handle.page = some frame)
    (serial : frame.serial = handle.serial)
    (holds : (store.locks.mode? handle.owner handle.page).isSome = true) :
    Advances writes history store [store.readEvent handle] store := by
  refine ⟨rfl, sound, ?_⟩
  have cached : store.cached? handle.page = some frame.page := cached?_of_frame found
  obtain ⟨⟨table, -, fits⟩, -⟩ := sound.page _ _ cached
  have copy : (store.outline.page handle.page).cached = some frame.page.copy :=
    copy_of_cached cached
  have event : store.readEvent handle =
      .read handle.owner handle.page (frame.page.copy.contents.rows handle.page) := by
    rw [readEvent, pageOf?_of_frame found serial]
    have entries := fits.sound.entries
    rw [fits.id] at entries
    exact congrArg (Event.read handle.owner handle.page) entries
  rw [event]
  exact Outline.Step.path (.read handle.owner handle.page frame.page.copy holds copy)

/-! ## One step of an operation -/

structure Turned (writes : List Event → TxnId → Prop) (history : List Event) (store : Store)
    (txn : TxnId) (turn : Turn) (after : Store) : Prop where
  advances : Advances writes history store turn.events after
  others : ∀ other id, other ≠ txn → after.locks.mode? other id = store.locks.mode? other id
  ready : ∀ next, turn.next = some next → next.Ready after txn

/-- A step that makes a request and then works without locks. -/
theorem Attempted.turned {request : PageRequest} {turn : Turn}
    {answer : Progress PageRequest (Except StoreError Handle)}
    (attempted : Attempted (writes history) request store middle answer)
    (advances : Advances writes history middle turn.events after)
    (locks : after.locks = middle.locks)
    (ready : ∀ next, turn.next = some next → next.Ready after request.txn) :
    Turned writes history store request.txn turn after where
  advances := attempted.toMoves.before advances
  others other id different := by
    rw [locks]
    exact attempted.others other id different
  ready := ready

variable {turn : Turn}

theorem Still.absent (still : Still store after) (id : PageId) (absent : store.cached? id = none) :
    after.cached? id = none := by
  have hold := still.hold id
  rw [cached?, Option.map_eq_none_iff] at absent ⊢
  rwa [absent, Option.map_none, Option.map_eq_none_iff] at hold

theorem Changes.unpin {change : Change} (changes : Changes store after txn change)
    (exclusive : store.locks.mode? txn change.page = some .exclusive) (handle : Handle) :
    Advances writes history store
        [.changed txn change ((after.unpin handle).view change.page)] (after.unpin handle) ∧
      (after.unpin handle).locks = store.locks ∧
      ∀ id, store.cached? id = none → (after.unpin handle).cached? id = none := by
  obtain ⟨rests, locks⟩ := changes.sound.unpin handle
  refine ⟨?_, locks.trans changes.locks, fun id absent => ?_⟩
  · have view : (after.unpin handle).view change.page = after.view change.page := by
      rw [Store.view, Store.view, rests.cached]
    rw [view]
    exact (changes.advances exclusive).rest fun _ =>
      (rests.moves_of_locks changes.sound locks).advances
  · rw [rests.cached]
    exact changes.toStill.absent id absent

theorem Granted.read {request : PageRequest} (granted : Granted txn request store handle after) :
    Advances writes history after [after.readEvent handle] after := by
  obtain ⟨frame, found, same⟩ := granted.cached
  have holds : (after.locks.mode? handle.owner handle.page).isSome = true := by
    rw [granted.owner]
    exact granted.holds
  exact granted.sound.read found same holds

/-- A step whose request is granted, and which then works without locks and pages
that leave the cache. -/
theorem Granted.turned {request : PageRequest} (granted : Granted txn request store handle middle)
    (sound : store.Sound) (advances : Advances writes history middle turn.events after)
    (locks : after.locks = middle.locks)
    (absent : ∀ id, middle.cached? id = none → after.cached? id = none)
    (spares : Spares (writes history) store after)
    (ready : ∀ next, turn.next = some next → next.Ready after txn) :
    Turned writes history store txn turn after := by
  obtain ⟨rfl, held⟩ := granted.timely
  have attempted := sound.attempted held granted.attempt (spares.before absent)
  exact attempted.turned advances locks ready

theorem Sound.turned (sound : store.Sound) {operation : Operation}
    (ready : operation.Ready store txn) (run : operation.step store = (turn, after))
    (spares : Spares (writes history) store after) :
    Turned writes history store txn turn after := by
  cases sound.steps ready run with
  | seeks next =>
      refine ⟨sound.stays, fun _ _ _ => rfl, ?_⟩
      intro _ known
      cases known
      exact next
  | stops => exact ⟨sound.stays, fun _ _ _ => rfl, by simp⟩
  | waits timely attempt modes =>
      have attempted := sound.attempted (timely.1 ▸ timely.2) attempt spares
      obtain ⟨rfl, -⟩ := timely
      apply attempted.turned attempted.sound.stays rfl
      intro _ known
      cases known
      exact ready.of_modes attempted.catalog modes
  | fails timely attempt =>
      have attempted := sound.attempted (timely.1 ▸ timely.2) attempt spares
      obtain ⟨rfl, -⟩ := timely
      exact attempted.turned attempted.sound.stays rfl (by simp)
  | fetches granted =>
      exact granted.turned sound granted.read rfl (fun _ gone => gone) spares (by simp)
  | reads granted next =>
      obtain ⟨rests, locks⟩ := granted.sound.unpin _
      apply granted.turned sound _ locks (fun id => ((rests.cached id).trans · )) spares
      · intro _ known
        cases known
        exact next
      · exact granted.read.rest fun _ => (rests.moves_of_locks granted.sound locks).advances
  | leaves granted =>
      obtain ⟨rests, locks⟩ := granted.sound.unpin _
      exact granted.turned sound (rests.moves_of_locks granted.sound locks).advances locks
        (fun id => ((rests.cached id).trans · )) spares (by simp)
  | changes granted changing exclusive changes =>
      obtain ⟨advances, locks, absent⟩ : Advances writes history _ _ _ ∧ _ :=
        changes.unpin exclusive _
      exact granted.turned sound advances locks absent spares (by simp)
  | turns granted own exclusive finds =>
      subst own
      obtain ⟨rests, locks⟩ := granted.sound.unpin _
      obtain ⟨unpinned, catalog⟩ := granted.unpinned
      have registered := catalog ▸ ready.1
      have grows := finds.grows unpinned registered
      apply granted.turned sound _ (grows.locks.trans locks) _ spares
      · intro _ known
        obtain ⟨next, rfl, rfl⟩ := next_of_turns known
        exact (finds.ready registered rfl).2
      · exact (rests.moves_of_locks granted.sound locks).before (grows.reaches _).advances
      · intro id gone
        rw [cached?, grows.frames]
        exact (rests.cached id).trans gone

/-! ## Beginnings of operations -/

theorem Sound.registered (sound : store.Sound) {id : TableId}
    (found : store.catalog.table id = .ok table) :
    store.catalog.tables.get? table.id = some table ∧ table.id = id := by
  rw [Catalog.table] at found
  split at found
  · next own same =>
      cases found
      have identity := sound.catalog.identity id table same
      exact ⟨identity.symm ▸ same, identity⟩
  · cases found

theorem deletion_start {row : Row} {task : Deletion}
    (run : Deletion.start table txn row store = .ok task) :
    (Operation.deletion task).Ready store txn := by
  rw [Deletion.start] at run
  split at run
  · cases run
  · next location placed =>
      split at run
      · cases counted : table.pageCount store.disk with
        | error error =>
            rw [counted] at run
            cases run
        | ok count =>
            simp only [counted, bind, Except.bind] at run
            split at run
            · cases run
              exact ⟨rfl, rfl, rfl⟩
            · cases run
      · cases run

theorem Sound.start (sound : store.Sound) {call : Call} {begun : Option Operation}
    (run : call.start txn store = (begun, after)) :
    Grows store after ∧ ∀ operation, begun = some operation → operation.Ready after txn := by
  have stays : Grows store store := sound.grows
  cases Call.begins run with
  | refused => exact ⟨stays, by simp⟩
  | fetch page mode =>
      refine ⟨stays, ?_⟩
      intro _ known
      cases known
      exact ⟨rfl, rfl⟩
  | failed found started =>
      have registered := (sound.registered found).1
      obtain ⟨finds, -⟩ := sound.start_finds registered started
      exact ⟨finds.grows sound registered, by simp⟩
  | insertion found started =>
      have registered := (sound.registered found).1
      obtain ⟨finds, -⟩ := sound.start_finds registered started
      refine ⟨finds.grows sound registered, ?_⟩
      intro _ known
      cases known
      exact (finds.ready registered rfl).2
  | deletion started =>
      refine ⟨stays, ?_⟩
      intro _ known
      cases known
      exact deletion_start started
  | scan found =>
      refine ⟨stays, ?_⟩
      intro _ known
      cases known
      exact ⟨rfl, by simp⟩

end Store

end TableStore
