import TableStore.Proofs.ScanPlaces

/-!
# What a scan answers

Whoever uses a scan is answered from its place in the rows alone: the row behind those
that were returned comes next, once, and in the order of pages and slots.  Looking ahead
changes nothing, a call that fails can be made again, and once the end was seen no call
fails any more.  A call may stop before it has an answer and go on later, and the store
may change meanwhile, as long as the table shows the same rows.
-/

set_option autoImplicit false

namespace TableStore

/-! ## Uses of a cursor -/

namespace Cursor

/-- What a cursor may need a page for: to see whether there is a row, to return it, or
to yield it as a sequence does. -/
inductive Use where
  | look
  | next
  | item

inductive Answer where
  | has (found : Except StoreError Bool)
  | row (row : Except StoreError Row)
  | item (item : Except StoreError (Option Row))

def Use.answer (use : Use) (sought : Sought) : Answer × Cursor :=
  match use with
  | .look => (.has sought.found, sought.cursor)
  | .next => sought.next.map .row id
  | .item => sought.item.map .item id

end Cursor

/-- A cursor in its store, and the call on it that has no answer yet. -/
structure Reader where
  store : Store
  cursor : Cursor
  task : Option (Cursor.Use × Seek) := none

namespace Reader

/-- What happens to a cursor: a call, which goes as many steps as a limit allows, a call
that goes on, and whatever others do to the store meanwhile. -/
inductive Event where
  | call (use : Cursor.Use) (limit : Nat)
  | resume (limit : Nat)
  | rewind
  | close
  | reopen
  | meanwhile (store : Store)

def go (reader : Reader) (use : Cursor.Use) (limit : Nat) (seek : Seek) :
    Option Cursor.Answer × Reader :=
  match Step.repeat Seek.step limit seek reader.store with
  | (.waiting seek, store) => (none, ⟨store, reader.cursor, some (use, seek)⟩)
  | (.finished sought, store) =>
      let (answer, cursor) := use.answer sought
      (some answer, ⟨store, cursor, none⟩)

/-- The answer to an event, and the reader after it.  Nothing else can be done with a
cursor while a call on it has no answer. -/
def handle (reader : Reader) (event : Event) : Option Cursor.Answer × Reader :=
  match event, reader.task with
  | .meanwhile store, _ => (none, { reader with store })
  | .call use limit, none =>
      if reader.cursor.isOpen then reader.go use limit ⟨reader.cursor, none⟩
      else
        let (answer, cursor) := use.answer ⟨.ok false, reader.cursor⟩
        (some answer, { reader with cursor })
  | .resume limit, some (use, seek) => reader.go use limit seek
  | .rewind, none => (none, { reader with cursor := reader.cursor.rewind })
  | .close, none => (none, { reader with cursor := reader.cursor.close })
  | .reopen, none => (none, { reader with cursor := reader.cursor.reopen })
  | _, _ => (none, reader)

def answers (reader : Reader) : List Event → List Cursor.Answer
  | [] => []
  | event :: events => (reader.handle event).1.toList ++ (reader.handle event).2.answers events

end Reader

/-! ## Places -/

namespace Cursor

inductive Stage where
  | reading
  | exhausted
  | shut
deriving DecidableEq

def Stage.rewound : Stage → Stage
  | .shut => .shut
  | _ => .reading

/-- Where a scan stands: the rows that were returned since it began anew, and its
stage. -/
structure Place where
  read : List Entry
  stage : Stage

/-- The answer to a use of a scan at a place in the rows, and its place then.  While it
has not seen the end, an open scan may also fail, for the reasons given. -/
inductive Answers (rows : List Entry) (fails : StoreError → Prop) :
    Use → Place → Answer → Place → Prop where
  | more {read : List Entry} (left : read ≠ rows) :
      Answers rows fails .look ⟨read, .reading⟩ (.has (.ok true)) ⟨read, .reading⟩
  | noMore {stage : Stage} (unshut : stage ≠ .shut) :
      Answers rows fails .look ⟨rows, stage⟩ (.has (.ok false)) ⟨rows, .exhausted⟩
  | row {read : List Entry} {row : Row} (follows : read ++ [row.entry] <+: rows) :
      Answers rows fails .next ⟨read, .reading⟩ (.row (.ok row))
        ⟨read ++ [row.entry], .reading⟩
  | exhausted {stage : Stage} (unshut : stage ≠ .shut) :
      Answers rows fails .next ⟨rows, stage⟩ (.row (.error .scanExhausted)) ⟨rows, .exhausted⟩
  | item {read : List Entry} {row : Row} (follows : read ++ [row.entry] <+: rows) :
      Answers rows fails .item ⟨read, .reading⟩ (.item (.ok (some row)))
        ⟨read ++ [row.entry], .reading⟩
  | ended {stage : Stage} (unshut : stage ≠ .shut) :
      Answers rows fails .item ⟨rows, stage⟩ (.item (.ok none)) ⟨rows, .exhausted⟩
  | unseen {read : List Entry} {error : StoreError} (failed : fails error) :
      Answers rows fails .look ⟨read, .reading⟩ (.has (.error error)) ⟨read, .reading⟩
  | unread {read : List Entry} {error : StoreError} (failed : fails error) :
      Answers rows fails .next ⟨read, .reading⟩ (.row (.error error)) ⟨read, .reading⟩
  | broken {read : List Entry} {error : StoreError} (failed : fails error) :
      Answers rows fails .item ⟨read, .reading⟩ (.item (.error error)) ⟨read, .shut⟩
  | shutLook {read : List Entry} :
      Answers rows fails .look ⟨read, .shut⟩ (.has (.ok false)) ⟨read, .shut⟩
  | shutNext {read : List Entry} :
      Answers rows fails .next ⟨read, .shut⟩ (.row (.error .scanExhausted)) ⟨read, .shut⟩
  | shutItem {read : List Entry} :
      Answers rows fails .item ⟨read, .shut⟩ (.item (.ok none)) ⟨read, .shut⟩

end Cursor

namespace Reader

inductive Asks (reader : Reader) : Cursor.Use → Nat → Event → Prop where
  | call {use : Cursor.Use} {limit : Nat} (idle : reader.task = none) :
      Asks reader use limit (.call use limit)
  | resume {use : Cursor.Use} {seek : Seek} {limit : Nat} (busy : reader.task = some (use, seek)) :
      Asks reader use limit (.resume limit)

def Event.fits (idle : Bool) : Event → Bool
  | .meanwhile _ => true
  | .resume _ => !idle
  | _ => idle

/-- What a scan of the rows does at an event, by its place alone.  A call that is given
enough steps stops without an answer only if a lock is refused. -/
inductive Serves (table : Table) (rows : List Entry) (reader : Reader) :
    Cursor.Place → Event → Option Cursor.Answer → Cursor.Place → Prop where
  | answered {use : Cursor.Use} {limit : Nat} {event : Event} {place next : Cursor.Place}
      {answer : Cursor.Answer} (asked : reader.Asks use limit event)
      (answers : Cursor.Answers rows (reader.store.Fails table) use place answer next) :
      Serves table rows reader place event (some answer) next
  | parked {use : Cursor.Use} {limit : Nat} {event : Event} {place : Cursor.Place}
      (asked : reader.Asks use limit event)
      (refused : reader.store.stepLimit ≤ limit → reader.store.Refuses table) :
      Serves table rows reader place event none place
  | rewound {place : Cursor.Place} (idle : reader.task = none) :
      Serves table rows reader place .rewind none ⟨[], place.stage.rewound⟩
  | closed {place : Cursor.Place} (idle : reader.task = none) :
      Serves table rows reader place .close none ⟨place.read, .shut⟩
  | reopened {place : Cursor.Place} (idle : reader.task = none) :
      Serves table rows reader place .reopen none ⟨[], .reading⟩
  | meanwhile {place : Cursor.Place} {store : Store} :
      Serves table rows reader place (.meanwhile store) none place
  | missed {place : Cursor.Place} {event : Event}
      (unfit : event.fits reader.task.isNone = false) :
      Serves table rows reader place event none place

inductive ServesAll (table : Table) (rows : List Entry) :
    Reader → Cursor.Place → List Event → Cursor.Place → Prop where
  | done (reader : Reader) (place : Cursor.Place) : ServesAll table rows reader place [] place
  | event {reader : Reader} {place between last : Cursor.Place} {event : Event}
      {events : List Event}
      (serves : reader.Serves table rows place event (reader.handle event).1 between)
      (rest : ServesAll table rows (reader.handle event).2 between events last) :
      ServesAll table rows reader place (event :: events) last

def Spares (table : Table) (pages : List Contents) (reader : Reader) : Event → Prop
  | .meanwhile store => store.Presents table pages
  | event => (reader.handle event).2.store.Sees table pages

def Steady (table : Table) (pages : List Contents) : Reader → List Event → Prop
  | _, [] => True
  | reader, event :: events =>
      reader.Spares table pages event ∧ Steady table pages (reader.handle event).2 events

def Event.iterates : Event → Bool
  | .call .item _ => true
  | .resume _ => true
  | .meanwhile _ => true
  | _ => false

/-- How a sequence ends: with nothing after the last row, or with one error and then
nothing. -/
inductive Tail (rows read : List Entry) : List Cursor.Answer → Prop where
  | exhausted {count : Nat} (all : 0 < count → read = rows) :
      Tail rows read (List.replicate count (.item (.ok none)))
  | broken {error : StoreError} {count : Nat} :
      Tail rows read (.item (.error error) :: List.replicate count (.item (.ok none)))

/-! ## One event, and any number of them -/

def seek (reader : Reader) : Seek :=
  match reader.task with
  | some (_, seek) => seek
  | none => ⟨reader.cursor, none⟩

inductive Stands (table : Table) (pages : List Contents) (reader : Reader) :
    Cursor.Place → Prop where
  | reading {read : List Entry} (stands : reader.seek.At table pages read) :
      Stands table pages reader ⟨read, .reading⟩
  | exhausted (stands : reader.seek.At table pages (table.rowsOn pages))
      (ended : reader.seek.cursor.AtEnd pages) :
      Stands table pages reader ⟨table.rowsOn pages, .exhausted⟩
  | shut {read : List Entry} (idle : reader.task = none) (own : reader.cursor.table = table)
      (shut : reader.cursor.isOpen = false) (before : read <+: table.rowsOn pages) :
      Stands table pages reader ⟨read, .shut⟩

variable {table : Table} {pages : List Contents} {read : List Entry} {store : Store}
  {cursor : Cursor} {seek : Seek} {sought : Sought} {reader : Reader} {place : Cursor.Place}
  {use : Cursor.Use} {limit : Nat} {event : Event} {fails : StoreError → Prop}

theorem stands_of_cursor (stands : cursor.At table pages read) (store : Store) :
    Stands table pages ⟨store, cursor, none⟩ ⟨read, .reading⟩ :=
  .reading ⟨stands, nofun⟩

theorem stands_of_end (stands : cursor.At table pages read) (ended : cursor.AtEnd pages)
    (store : Store) :
    Stands table pages ⟨store, cursor, none⟩ ⟨table.rowsOn pages, .exhausted⟩ := by
  have all := stands.all ended
  subst all
  exact .exhausted ⟨stands, nofun⟩ ended

theorem answers_of_end (stands : cursor.At table pages read) (ended : cursor.AtEnd pages)
    {stage : Cursor.Stage} (unshut : stage ≠ .shut) (use : Cursor.Use) (store : Store) :
    Cursor.Answers (table.rowsOn pages) fails use ⟨read, stage⟩
        (use.answer ⟨.ok false, cursor⟩).1 ⟨table.rowsOn pages, .exhausted⟩ ∧
      Stands table pages ⟨store, (use.answer ⟨.ok false, cursor⟩).2, none⟩
        ⟨table.rowsOn pages, .exhausted⟩ := by
  have all := stands.all ended
  subst all
  cases use with
  | look => exact ⟨.noMore unshut, stands_of_end stands ended store⟩
  | next => exact ⟨.exhausted unshut, stands_of_end stands ended store⟩
  | item => exact ⟨.ended unshut, stands_of_end stands ended store⟩

/-- What a seek has come to is answered as the place of its cursor demands. -/
theorem answers_of_tells (tells : sought.Tells table pages read store) (use : Cursor.Use)
    (after : Store) :
    ∃ next, Cursor.Answers (table.rowsOn pages) (store.Fails table) use ⟨read, .reading⟩
        (use.answer sought).1 next ∧
      Stands table pages ⟨after, (use.answer sought).2, none⟩ next := by
  cases tells with
  | @more cursor stands full =>
      obtain ⟨row, rows, buffered⟩ := List.exists_cons_of_ne_nil full
      have popped := stands.pop buffered
      have pop : cursor.pop = (some row, { cursor with buffered := rows }) := by
        rw [Cursor.pop, buffered]
      cases use with
      | look =>
          refine ⟨_, .more ?_, stands_of_cursor stands after⟩
          rintro rfl
          have short := popped.isPrefix.length_le
          rw [List.length_append] at short
          exact absurd short (Nat.not_succ_le_self _)
      | next =>
          simp only [Cursor.Use.answer, Sought.next, pop]
          exact ⟨_, .row popped.isPrefix, stands_of_cursor popped after⟩
      | item =>
          simp only [Cursor.Use.answer, Sought.item, pop]
          exact ⟨_, .item popped.isPrefix, stands_of_cursor popped after⟩
  | exhausted stands ended =>
      have unshut : Cursor.Stage.reading ≠ .shut := nofun
      exact ⟨_, answers_of_end stands ended unshut use after⟩
  | failed stands fails unfatal =>
      cases use with
      | look => exact ⟨_, .unseen fails, stands_of_cursor stands after⟩
      | next => exact ⟨_, .unread fails, stands_of_cursor stands after⟩
      | item =>
          simp only [Cursor.Use.answer, Sought.item, unfatal]
          exact ⟨_, .broken fails, .shut rfl stands.own rfl stands.isPrefix⟩

theorem stepsLeft_le_stepLimit (presents : store.Presents table pages) (seek : Seek) :
    seek.stepsLeft pages ≤ store.stepLimit := by
  have enough := Store.wholePages_le_stepLimit store table
  have counted := table.countedPages_le store.disk
  rw [presents.count] at counted
  rw [Seek.stepsLeft]
  split <;> omega

theorem answers_of_shut (use : Cursor.Use) (fails : StoreError → Prop) (rows read : List Entry)
    (cursor : Cursor) :
    Cursor.Answers rows fails use ⟨read, .shut⟩ (use.answer ⟨.ok false, cursor⟩).1
        ⟨read, .shut⟩ ∧
      (use.answer ⟨.ok false, cursor⟩).2 = cursor := by
  cases use with
  | look => exact ⟨.shutLook, rfl⟩
  | next => exact ⟨.shutNext, rfl⟩
  | item => exact ⟨.shutItem, rfl⟩

theorem Stands.isPrefix (stands : reader.Stands table pages place) :
    place.read <+: table.rowsOn pages := by
  cases stands with
  | reading stands => exact stands.cursor.isPrefix
  | exhausted stands ended => exact List.prefix_refl _
  | shut idle own shut before => exact before

/-- A call that goes on is answered from its place, or parked there. -/
theorem Stands.goes (stands : reader.Stands table pages place) (unshut : place.stage ≠ .shut)
    (asked : reader.Asks use limit event)
    (goes : reader.handle event = reader.go use limit reader.seek)
    (presents : reader.store.Presents table pages)
    (sees : (reader.handle event).2.store.Sees table pages) :
    ∃ next, reader.Serves table (table.rowsOn pages) place event (reader.handle event).1 next ∧
      (reader.handle event).2.Stands table pages next := by
  rw [goes] at sees ⊢
  rcases run : Step.repeat Seek.step limit reader.seek reader.store with ⟨progress, after⟩
  rw [Reader.go, run] at sees ⊢
  cases stands with
  | reading stands =>
      cases progress with
      | waiting last =>
          obtain ⟨parked, refused⟩ := stands.repeat limit presents run sees
          refine ⟨_, .parked asked ?_, .reading parked⟩
          intro enough
          exact refused (Nat.le_trans (stepsLeft_le_stepLimit presents reader.seek) enough)
      | finished sought =>
          have tells : sought.Tells table pages _ reader.store :=
            stands.repeat limit presents run sees
          obtain ⟨next, answers, reached⟩ := answers_of_tells tells use after
          exact ⟨next, .answered asked answers, reached⟩
  | exhausted stands ended =>
      -- no page comes next, so no request is open
      have quiet : reader.seek = ⟨reader.seek.cursor, none⟩ := by
        cases request : reader.seek.request with
        | none => rw [← request]
        | some request' =>
            have below := (stands.asks request' request).2.2
            exact absurd below (Nat.not_lt_of_le ended.last)
      rw [quiet] at run
      cases limit with
      | zero =>
          cases run
          refine ⟨_, .parked asked ?_, .exhausted (quiet ▸ stands) ended⟩
          intro enough
          exact absurd enough (by simp [Store.stepLimit])
      | succ limit =>
          cases (stands.cursor.repeat_at_end ended presents limit).symm.trans run
          obtain ⟨answers, reached⟩ := answers_of_end stands.cursor ended unshut use reader.store
          exact ⟨_, .answered asked answers, reached⟩
  | shut idle own shut before => exact absurd rfl unshut

theorem seek_of_idle (idle : reader.task = none) : reader.seek = ⟨reader.cursor, none⟩ := by
  rw [Reader.seek, idle]

theorem seek_of_busy (busy : reader.task = some (use, seek)) : reader.seek = seek := by
  rw [Reader.seek, busy]

theorem cursor_of_idle (stands : reader.seek.At table pages read) (idle : reader.task = none) :
    reader.cursor.At table pages read := by
  have cursor := stands.cursor
  rwa [seek_of_idle idle] at cursor

/-- While no call is open, the cursor is that of the place. -/
theorem Stands.standing (stands : reader.Stands table pages place) (idle : reader.task = none) :
    reader.cursor.table = table ∧ (reader.cursor.isOpen = false ↔ place.stage = .shut) := by
  cases stands with
  | reading stands =>
      have cursor := cursor_of_idle stands idle
      rw [cursor.isOpen]
      exact ⟨cursor.own, nofun, nofun⟩
  | exhausted stands ended =>
      have cursor := cursor_of_idle stands idle
      rw [cursor.isOpen]
      exact ⟨cursor.own, nofun, nofun⟩
  | shut _ own shut _ => exact ⟨own, by simp [shut]⟩

theorem Stands.call (stands : reader.Stands table pages place) (idle : reader.task = none)
    (presents : reader.store.Presents table pages) (use : Cursor.Use) (limit : Nat)
    (sees : (reader.handle (.call use limit)).2.store.Sees table pages) :
    ∃ next, reader.Serves table (table.rowsOn pages) place (.call use limit)
        (reader.handle (.call use limit)).1 next ∧
      (reader.handle (.call use limit)).2.Stands table pages next := by
  obtain ⟨-, shuts⟩ := stands.standing idle
  cases isOpen : reader.cursor.isOpen with
  | true =>
      have goes : reader.handle (.call use limit) = reader.go use limit reader.seek := by
        simp only [Reader.handle, idle, isOpen, if_true, seek_of_idle idle]
      refine stands.goes ?_ (.call idle) goes presents sees
      intro shut
      exact Bool.false_ne_true ((shuts.mpr shut).symm.trans isOpen)
  | false =>
      cases stands with
      | reading stands => cases shuts.mp isOpen
      | exhausted stands ended => cases shuts.mp isOpen
      | @shut read _ own shut before =>
          obtain ⟨answers, same⟩ := answers_of_shut use (reader.store.Fails table)
            (table.rowsOn pages) read reader.cursor
          refine ⟨⟨read, .shut⟩, ?_, ?_⟩
          · simp only [Reader.handle, idle, shut]
            exact .answered (.call idle) answers
          · simp only [Reader.handle, idle, shut, same]
            exact .shut rfl own shut before

theorem Stands.resume (stands : reader.Stands table pages place)
    (busy : reader.task = some (use, seek)) (presents : reader.store.Presents table pages)
    (limit : Nat) (sees : (reader.handle (.resume limit)).2.store.Sees table pages) :
    ∃ next, reader.Serves table (table.rowsOn pages) place (.resume limit)
        (reader.handle (.resume limit)).1 next ∧
      (reader.handle (.resume limit)).2.Stands table pages next := by
  have goes : reader.handle (.resume limit) = reader.go use limit reader.seek := by
    simp only [Reader.handle, busy, seek_of_busy busy]
  refine stands.goes ?_ (.resume busy) goes presents sees
  cases stands with
  | reading stands => exact nofun
  | exhausted stands ended => exact nofun
  | shut idle _ _ _ => cases idle.symm.trans busy

/-- An event that does not fit leaves everything as it is. -/
theorem handle_of_unfit (unfit : event.fits reader.task.isNone = false) :
    reader.handle event = (none, reader) := by
  cases task : reader.task with
  | none =>
      rw [task] at unfit
      cases event with
      | resume limit => simp only [Reader.handle, task]
      | _ => cases unfit
  | some current =>
      rw [task] at unfit
      cases event with
      | resume limit => cases unfit
      | meanwhile store => cases unfit
      | _ => simp only [Reader.handle, task]

theorem at_start (own : cursor.table = table) (isOpen : cursor.isOpen = true)
    (first : cursor.nextPage = 0) (empty : cursor.buffered = []) :
    cursor.At table pages [] := by
  refine ⟨own, isOpen, ?_, ?_⟩
  · rw [first]
    exact Nat.zero_le _
  · rw [first, empty]
    rfl

theorem Stands.rewind (stands : reader.Stands table pages place) (idle : reader.task = none) :
    Stands table pages ⟨reader.store, reader.cursor.rewind, none⟩ ⟨[], place.stage.rewound⟩ := by
  have start (own : reader.cursor.table = table) (isOpen : reader.cursor.isOpen = true) :
      reader.cursor.rewind.At table pages [] := at_start own isOpen rfl rfl
  cases stands with
  | reading stands =>
      have cursor := cursor_of_idle stands idle
      exact stands_of_cursor (start cursor.own cursor.isOpen) _
  | exhausted stands ended =>
      have cursor := cursor_of_idle stands idle
      exact stands_of_cursor (start cursor.own cursor.isOpen) _
  | shut _ own shut _ => exact .shut rfl own shut List.nil_prefix

/-- Every event is served from the place of the scan, and leaves the scan at its new
place. -/
theorem Stands.handle (stands : reader.Stands table pages place)
    (presents : reader.store.Presents table pages) (event : Event)
    (sees : (reader.handle event).2.store.Sees table pages) :
    ∃ next, reader.Serves table (table.rowsOn pages) place event (reader.handle event).1 next ∧
      (reader.handle event).2.Stands table pages next := by
  cases fits : event.fits reader.task.isNone with
  | false =>
      rw [handle_of_unfit fits]
      exact ⟨place, .missed fits, stands⟩
  | true =>
      cases event with
      | call use limit =>
          exact stands.call (Option.isNone_iff_eq_none.mp fits) presents use limit sees
      | resume limit =>
          obtain ⟨⟨use, seek⟩, busy⟩ : ∃ current, reader.task = some current := by
            apply Option.ne_none_iff_exists'.mp
            intro idle
            rw [idle] at fits
            cases fits
          exact stands.resume busy presents limit sees
      | rewind =>
          have idle := Option.isNone_iff_eq_none.mp fits
          simp only [Reader.handle, idle]
          exact ⟨_, .rewound idle, stands.rewind idle⟩
      | close =>
          have idle := Option.isNone_iff_eq_none.mp fits
          simp only [Reader.handle, idle]
          exact ⟨_, .closed idle, .shut rfl (stands.standing idle).1 rfl stands.isPrefix⟩
      | reopen =>
          have idle := Option.isNone_iff_eq_none.mp fits
          simp only [Reader.handle, idle]
          have start : reader.cursor.reopen.At table pages [] :=
            at_start (stands.standing idle).1 rfl rfl rfl
          exact ⟨_, .reopened idle, stands_of_cursor start _⟩
      | meanwhile store =>
          refine ⟨place, .meanwhile, ?_⟩
          cases stands with
          | reading stands => exact .reading stands
          | exhausted stands ended => exact .exhausted stands ended
          | shut idle own shut before => exact .shut idle own shut before

theorem handle_flows (sound : reader.store.Sound)
    (own : ∀ store, event ≠ .meanwhile store) :
    Store.Flows reader.store (reader.handle event).2.store := by
  have goes (use : Cursor.Use) (limit : Nat) (seek : Seek) :
      Store.Flows reader.store (reader.go use limit seek).2.store := by
    have flows := Seek.repeat_flows sound limit seek
    rcases run : Step.repeat Seek.step limit seek reader.store with ⟨progress, after⟩
    rw [run] at flows
    rw [Reader.go, run]
    cases progress <;> exact flows
  cases task : reader.task with
  | none =>
      cases event with
      | meanwhile store => exact absurd rfl (own store)
      | call use limit =>
          simp only [Reader.handle, task]
          split
          · exact goes use limit _
          · exact sound.flows
      | _ =>
          simp only [Reader.handle, task]
          exact sound.flows
  | some current =>
      cases event with
      | meanwhile store => exact absurd rfl (own store)
      | resume limit =>
          simp only [Reader.handle, task]
          exact goes current.1 limit current.2
      | _ =>
          simp only [Reader.handle, task]
          exact sound.flows

theorem Spares.presents (spares : reader.Spares table pages event)
    (presents : reader.store.Presents table pages) :
    (reader.handle event).2.store.Presents table pages := by
  cases event with
  | meanwhile store => exact spares
  | _ => exact presents.flowed (handle_flows presents.sound nofun) spares

theorem Stands.handleAll {events : List Event} (stands : reader.Stands table pages place)
    (presents : reader.store.Presents table pages) (steady : reader.Steady table pages events) :
    ∃ last, ServesAll table (table.rowsOn pages) reader place events last ∧
      last.read <+: table.rowsOn pages := by
  induction events generalizing reader place with
  | nil => exact ⟨place, .done reader place, stands.isPrefix⟩
  | cons event events ih =>
      obtain ⟨spares, rest⟩ := steady
      have shown := spares.presents presents
      obtain ⟨between, serves, reached⟩ := stands.handle presents event shown.sees
      obtain ⟨last, later, before⟩ := ih reached shown rest
      exact ⟨last, .event serves later, before⟩

/-! ## Scans as sequences -/

def Iterates (reader : Reader) : Prop :=
  ∀ use seek, reader.task = some (use, seek) → use = .item

theorem Iterates.handle (iterates : reader.Iterates) (event : Event)
    (fits : event.iterates = true) : (reader.handle event).2.Iterates := by
  have goes (limit : Nat) (seek : Seek) : (reader.go .item limit seek).2.Iterates := by
    rcases run : Step.repeat Seek.step limit seek reader.store with ⟨progress, after⟩
    rw [Reader.go, run]
    cases progress with
    | waiting last =>
        intro use seek known
        cases known
        rfl
    | finished sought => exact nofun
  cases task : reader.task with
  | none =>
      cases event with
      | call use limit =>
          cases use with
          | item =>
              simp only [Reader.handle, task]
              split
              · exact goes limit _
              · exact nofun
          | _ => cases fits
      | resume limit =>
          simp only [Reader.handle, task]
          exact iterates
      | meanwhile store => exact iterates
      | _ => cases fits
  | some current =>
      obtain ⟨use, seek⟩ := current
      cases iterates use seek task
      cases event with
      | call use limit =>
          simp only [Reader.handle, task]
          exact iterates
      | resume limit =>
          simp only [Reader.handle, task]
          exact goes limit seek
      | meanwhile store => exact iterates
      | _ => cases fits

section

variable {rows : List Entry} {next last : Cursor.Place} {answer : Option Cursor.Answer}
  {events : List Event}

/-- An event of a sequence has no answer and leaves the place, or answers the next
item. -/
theorem Serves.item (serves : reader.Serves table rows place event answer next)
    (iterates : reader.Iterates) (fits : event.iterates = true) :
    answer = none ∧ next = place ∨ ∃ given, answer = some given ∧
      Cursor.Answers rows (reader.store.Fails table) .item place given next := by
  cases serves with
  | @answered use limit _ _ _ given asked answers =>
      have item : use = .item := by
        cases asked with
        | call idle =>
            cases use with
            | item => rfl
            | _ => cases fits
        | resume busy => exact iterates _ _ busy
      subst item
      exact .inr ⟨given, rfl, answers⟩
  | parked asked refused => exact .inl ⟨rfl, rfl⟩
  | meanwhile => exact .inl ⟨rfl, rfl⟩
  | missed unfit => exact .inl ⟨rfl, rfl⟩
  | rewound idle => cases fits
  | closed idle => cases fits
  | reopened idle => cases fits

theorem ServesAll.quiet (serves : ServesAll table rows reader place events last)
    (iterates : reader.Iterates) (fits : ∀ event ∈ events, event.iterates = true)
    (ended : place.stage ≠ .reading) :
    ∃ count, reader.answers events = List.replicate count (.item (.ok none)) ∧
      last.read = place.read := by
  induction serves with
  | done reader place => exact ⟨0, rfl, rfl⟩
  | @event reader place between last event events serves rest ih =>
      obtain ⟨here, later⟩ := List.forall_mem_cons.mp fits
      have goesOn := iterates.handle event here
      rw [Reader.answers]
      rcases serves.item iterates here with ⟨silent, rfl⟩ | ⟨given, answered, answers⟩
      · obtain ⟨count, rest, same⟩ := ih goesOn later ended
        exact ⟨count, by rw [silent, rest]; rfl, same⟩
      · rw [answered]
        cases answers with
        | ended unshut =>
            obtain ⟨count, rest, same⟩ := ih goesOn later nofun
            exact ⟨count + 1, by rw [rest]; rfl, same⟩
        | shutItem =>
            obtain ⟨count, rest, same⟩ := ih goesOn later ended
            exact ⟨count + 1, by rw [rest]; rfl, same⟩
        | item follows => exact absurd rfl ended
        | broken failed => exact absurd rfl ended

/-- A sequence yields the rows that follow, one after the other, up to its end. -/
theorem ServesAll.items (serves : ServesAll table rows reader place events last)
    (iterates : reader.Iterates) (fits : ∀ event ∈ events, event.iterates = true)
    (reading : place.stage = .reading) :
    ∃ (taken : List Row) (tail : List Cursor.Answer),
      reader.answers events = taken.map (fun row => .item (.ok (some row))) ++ tail ∧
      last.read = place.read ++ taken.map Row.entry ∧ Tail rows last.read tail := by
  induction serves with
  | done reader place =>
      have none : Tail rows place.read (List.replicate 0 _) := .exhausted nofun
      exact ⟨[], [], rfl, (List.append_nil _).symm, none⟩
  | @event reader place between last event events serves rest ih =>
      obtain ⟨here, later⟩ := List.forall_mem_cons.mp fits
      have goesOn := iterates.handle event here
      rw [Reader.answers]
      rcases serves.item iterates here with ⟨silent, rfl⟩ | ⟨given, answered, answers⟩
      · obtain ⟨taken, tail, rest, same, ends⟩ := ih goesOn later reading
        exact ⟨taken, tail, by rw [silent, rest]; rfl, same, ends⟩
      · rw [answered]
        cases answers with
        | @item read row follows =>
            obtain ⟨taken, tail, rest, same, ends⟩ := ih goesOn later rfl
            refine ⟨row :: taken, tail, by rw [rest]; rfl, ?_, ends⟩
            rw [same, List.append_assoc]
            rfl
        | ended unshut =>
            obtain ⟨count, none, same⟩ := rest.quiet goesOn later nofun
            have exhausted : Tail rows last.read (List.replicate (count + 1) _) :=
              .exhausted fun _ => same
            exact ⟨[], _, by rw [none]; rfl, same.trans (List.append_nil _).symm, exhausted⟩
        | broken failed =>
            obtain ⟨count, none, same⟩ := rest.quiet goesOn later nofun
            refine ⟨[], _, by rw [none]; rfl, same.trans (List.append_nil _).symm, ?_⟩
            exact .broken
        | shutItem => cases reading

end

/-- Scans return the rows of their table in order, whatever is done with them, as long
as the table shows the same rows: each event is served from the place of the scan, the
rows that were returned since it began anew are the first ones, and a scan that is used
as a sequence yields the rows in order and then nothing, or one error after some of them
and then nothing. -/
theorem scans_answer_from_their_place {txn : TxnId} {events : List Event}
    (presents : store.Presents table pages)
    (steady : Steady table pages { store, cursor := { table, txn } } events) :
    ∃ last, ServesAll table (table.rowsOn pages) { store, cursor := { table, txn } }
        ⟨[], .reading⟩ events last ∧
      last.read <+: table.rowsOn pages ∧
      ((∀ event ∈ events, event.iterates = true) →
        ∃ (taken : List Row) (tail : List Cursor.Answer),
          answers { store, cursor := { table, txn } } events =
            taken.map (fun row => .item (.ok (some row))) ++ tail ∧
          last.read = taken.map Row.entry ∧ Tail (table.rowsOn pages) last.read tail) := by
  have start : Cursor.At table pages [] { table, txn } := at_start rfl rfl rfl rfl
  have stands : Stands table pages { store, cursor := { table, txn } } ⟨[], .reading⟩ :=
    stands_of_cursor start store
  obtain ⟨last, serves, before⟩ := stands.handleAll presents steady
  exact ⟨last, serves, before, fun fits => serves.items nofun fits rfl⟩

end Reader

/-! ## A scan of three pages -/

namespace Store

instance (store : Store) (table : Table) (pages : List Contents) :
    Decidable (store.Sees table pages) :=
  decidable_of_iff (∀ number < pages.length,
      ((store.pageState (table.page (UInt32.ofNat number))).look.toOption.all
        fun contents => decide (pages[number]? = some contents)) = true)
    (by
      constructor
      · intro all number contents inside look
        have seen := all number inside
        rw [look] at seen
        exact of_decide_eq_true seen
      · intro sees number inside
        cases look : (store.pageState (table.page (UInt32.ofNat number))).look with
        | error reason => rfl
        | ok contents => exact decide_eq_true (sees number contents inside look))

def threePages : List Contents := [[some [.int 5]], [none], [some [.int 6]]]

def onThreePages (capacity : Nat) : Store :=
  { Store.ofNumbers capacity with
    disk := (∅ : Disk).insert "numbers" (.ofBytes
      [1, 0, 0, 0, 5, 0, 0, 0, 0, 0, 0, 0, 0, 0, 0, 0, 1, 0, 0, 0, 6, 0, 0, 0]) }

theorem presents_onThreePages (capacity : Nat) :
    (onThreePages capacity).Presents .numbers threePages where
  sound := by
    have unused : (onThreePages capacity).Unused :=
      ⟨(fresh_ofNumbers capacity).catalog, rfl, rfl, rfl, (fresh_ofNumbers capacity).policy⟩
    exact unused.sound
  registered := rfl
  sized := by decide
  count := (by decide +kernel : Table.numbers.countedPages (onThreePages 0).disk = 3)
  sees := (by decide +kernel : (onThreePages 0).Sees .numbers threePages)

end Store

namespace Reader

def onThreePages : Reader :=
  { store := .onThreePages 1, cursor := { table := .numbers, txn := ⟨2⟩ } }

/-- The scan is in want of a free frame once, stops once while it looks ahead over the
page without a row, reads to the end, is closed, and begins anew. -/
def callsOnThreePages : List Event :=
  [.call .next 9, .meanwhile (.onThreePages 0), .call .next 9, .meanwhile (.onThreePages 1),
    .call .look 3, .resume 9, .call .next 9, .call .next 9, .close, .call .look 9, .reopen,
    .call .item 9]

theorem scan_of_three_pages_answers :
    let row (number : Int32) (page : UInt32) : Row :=
      { Row.ofNumber number with location := some ⟨Table.numbers.page page, 0⟩ }
    onThreePages.store.Presents .numbers Store.threePages ∧
      Steady .numbers Store.threePages onThreePages callsOnThreePages ∧
      (∃ last, ServesAll .numbers (Table.numbers.rowsOn Store.threePages) onThreePages
        ⟨[], .reading⟩ callsOnThreePages last) ∧
      onThreePages.answers callsOnThreePages =
        [.row (.ok (row 5 0)), .row (.error .poolFull), .has (.ok true), .row (.ok (row 6 2)),
          .row (.error .scanExhausted), .has (.ok false), .item (.ok (some (row 5 0)))] := by
  have presents := Store.presents_onThreePages 1
  have steady : Steady .numbers Store.threePages onThreePages callsOnThreePages := by
    refine ⟨?_, Store.presents_onThreePages 0, ?_, presents, ?_, ?_, ?_, ?_, ?_, ?_, ?_, ?_,
      trivial⟩
    all_goals
      change Store.Sees _ _ _
      decide +kernel
  obtain ⟨last, serves, -⟩ := scans_answer_from_their_place presents steady
  exact ⟨presents, steady, ⟨last, serves⟩, rfl⟩

end Reader

end TableStore
