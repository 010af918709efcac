import TableStore.Proofs.Reloads
import TableStore.Proofs.SerialRequests

/-!
# Where a cursor stands

A cursor has returned some rows of its table and buffers those that follow, up to the
page that it reads next.  As long as the table shows the same rows, a seek finds the row
behind those that were returned, or that there is none, however often it stops on its
way and whichever pages are empty, leave the cache and come back.  A seek that fails or
stops leaves the cursor where it stands.
-/

set_option autoImplicit false

namespace TableStore

/-! ## The rows of a table -/

def Table.rowsOn (table : Table) (pages : List Contents) : List Entry :=
  (pages.zipIdx.map fun (contents, number) =>
    contents.rows (table.page (UInt32.ofNat number))).flatten

namespace Store

def Sees (store : Store) (table : Table) (pages : List Contents) : Prop :=
  ∀ number contents, number < pages.length →
    (store.pageState (table.page (UInt32.ofNat number))).look = .ok contents →
    pages[number]? = some contents

/-- The store is sound and shows the table with the given contents of the pages that are
counted. -/
structure Presents (store : Store) (table : Table) (pages : List Contents) : Prop where
  sound : store.Sound
  registered : store.catalog.tables.get? table.id = some table
  sized : 0 < table.pageSize
  count : table.countedPages store.disk = pages.length
  sees : store.Sees table pages

/-- While pages come and go, the request for a page of the table fails with an error of
its own. -/
def Fails (store : Store) (table : Table) (error : StoreError) : Prop :=
  error ≠ .scanExhausted ∧ ∃ before request after, Flows store before ∧
    request.page.table = table.id ∧ before.attempt request = (.finished (.error error), after)

def Refuses (store : Store) (table : Table) : Prop :=
  ∃ before request after, Flows store before ∧ request.page.table = table.id ∧
    before.attempt request = (.waiting request, after)

end Store

/-! ## Pages on the way -/

section

variable {table : Table} {pages : List Contents} {read : List Entry} {store middle after : Store}
  {request : PageRequest} {handle : Handle} {number : Nat} {contents : Contents}

theorem Table.rowsOn_take_succ (found : pages[number]? = some contents) :
    table.rowsOn (pages.take (number + 1)) =
      table.rowsOn (pages.take number) ++ contents.rows (table.page (UInt32.ofNat number)) := by
  have length : (pages.take number).length = number := by
    rw [List.length_take]
    exact Nat.min_eq_left (Nat.le_of_lt (List.getElem?_eq_some_iff.mp found).1)
  rw [Table.rowsOn, Table.rowsOn, List.take_add_one, found, Option.toList_some,
    List.zipIdx_append, List.map_append, List.flatten_append, length, Nat.zero_add]
  simp

theorem Table.rowsOn_take_prefix (table : Table) (pages : List Contents) (number : Nat) :
    table.rowsOn (pages.take number) <+: table.rowsOn pages := by
  have split := List.take_append_drop number pages
  rw [Table.rowsOn, Table.rowsOn]
  nth_rewrite 2 [← split]
  rw [List.zipIdx_append, List.map_append, List.flatten_append]
  exact List.prefix_append _ _

namespace Store

theorem page_of_attempt (run : store.attempt request = (.finished (.ok handle), after)) :
    handle.page = request.page := by
  unfold attempt at run
  split at run
  · cases run
  · cases run
  · split at run
    · cases run
      rfl
    · cases run

theorem request_of_attempt {again : PageRequest}
    (run : store.attempt request = (.waiting again, after)) : again = request := by
  unfold attempt at run
  split at run
  · cases run
    rfl
  · cases run
  · split at run <;> cases run

theorem Presents.between (presents : store.Presents table pages) (first : Flows store middle)
    (second : Flows middle after) (sees : after.Sees table pages) :
    middle.Presents table pages where
  sound := first.sound
  registered := first.registered presents.registered
  sized := presents.sized
  count := by
    rw [Table.countedPages, first.counts _ _ presents.registered]
    exact presents.count
  sees := by
    intro number contents inside look
    have kept : ¬ store.Lost table.id := kept_of_counted presents.registered (by
      rw [presents.count]
      exact Nat.zero_lt_of_lt inside)
    have before := first.page (table.page (UInt32.ofNat number)) kept
    rw [← first.toContinues.lost] at kept
    rcases before.look_between (second.page (table.page (UInt32.ofNat number)) kept) with
      before | later
    · exact presents.sees number contents inside (before.symm.trans look)
    · exact sees number contents inside (later.symm.trans look)

theorem Presents.flowed (presents : store.Presents table pages) (flows : Flows store after)
    (sees : after.Sees table pages) : after.Presents table pages :=
  presents.between flows flows.sound.flows sees

theorem Presents.pageCount (presents : store.Presents table pages) :
    ∃ count, table.pageCount store.disk = .ok count ∧ count.toNat = pages.length := by
  exact ⟨_, Table.pageCount_eq presents.sized, presents.count⟩

theorem Fails.of_flows {error : StoreError} (fails : middle.Fails table error)
    (first : Flows store middle) : store.Fails table error := by
  obtain ⟨real, before, request, after, flows, own, run⟩ := fails
  exact ⟨real, before, request, after, first.trans flows, own, run⟩

theorem Refuses.of_flows (refuses : middle.Refuses table) (first : Flows store middle) :
    store.Refuses table := by
  obtain ⟨before, request, after, flows, own, run⟩ := refuses
  exact ⟨before, request, after, first.trans flows, own, run⟩

theorem Presents.fails (presents : store.Presents table pages) (own : request.page.table = table.id)
    {error : StoreError} (run : store.attempt request = (.finished (.error error), after)) :
    store.Fails table error ∧ error.isFatal = false := by
  have registered := presents.registered
  rw [← own] at registered
  refine ⟨⟨?_, store, request, after, presents.sound.flows, own, run⟩,
    presents.sound.attempt_unfatal registered presents.sized run⟩
  rintro rfl
  rcases error_of_attempt run with wrong | wrong | wrong <;> cases wrong

end Store

end

/-! ## Steps of a seek -/

/-- An open cursor that has returned some rows and buffered those that follow, up to its
next page. -/
structure Cursor.At (table : Table) (pages : List Contents) (read : List Entry)
    (cursor : Cursor) : Prop where
  own : cursor.table = table
  isOpen : cursor.isOpen = true
  inside : cursor.nextPage.toNat ≤ pages.length
  rows : read ++ cursor.buffered.map Row.entry = table.rowsOn (pages.take cursor.nextPage.toNat)

structure Cursor.AtEnd (pages : List Contents) (cursor : Cursor) : Prop where
  empty : cursor.buffered = []
  last : pages.length ≤ cursor.nextPage.toNat

structure Seek.At (table : Table) (pages : List Contents) (read : List Entry)
    (seek : Seek) : Prop where
  cursor : seek.cursor.At table pages read
  asks : ∀ request, seek.request = some request →
    request.page = table.page seek.cursor.nextPage ∧ seek.cursor.buffered = [] ∧
      seek.cursor.nextPage.toNat < pages.length

/-- More steps than are left to the seek: two for each page, and one to end. -/
def Seek.stepsLeft (pages : List Contents) (seek : Seek) : Nat :=
  2 * (pages.length - seek.cursor.nextPage.toNat) + if seek.request.isSome then 0 else 1

inductive Sought.Tells (table : Table) (pages : List Contents) (read : List Entry)
    (store : Store) : Sought → Prop where
  | more {cursor : Cursor} (stands : cursor.At table pages read) (full : cursor.buffered ≠ []) :
      Tells table pages read store ⟨.ok true, cursor⟩
  | exhausted {cursor : Cursor} (stands : cursor.At table pages read) (ended : cursor.AtEnd pages) :
      Tells table pages read store ⟨.ok false, cursor⟩
  | failed {cursor : Cursor} {error : StoreError} (stands : cursor.At table pages read)
      (fails : store.Fails table error) (unfatal : error.isFatal = false) :
      Tells table pages read store ⟨.error error, cursor⟩

inductive Seek.Leads (table : Table) (pages : List Contents) (read : List Entry)
    (store : Store) (seek : Seek) : Step Seek Sought → Prop where
  | again {next : Seek} (stands : next.At table pages read)
      (fewer : next.stepsLeft pages + 1 = seek.stepsLeft pages) :
      Leads table pages read store seek (.again next)
  | waiting {next : Seek} (stands : next.At table pages read) (refused : store.Refuses table) :
      Leads table pages read store seek (.waiting next)
  | finished {sought : Sought} (tells : sought.Tells table pages read store) :
      Leads table pages read store seek (.finished sought)

section

variable {table : Table} {pages : List Contents} {read : List Entry} {store middle after : Store}
  {cursor : Cursor} {seek : Seek} {request : PageRequest} {handle : Handle}

theorem Seek.step_flows (sound : store.Sound) (seek : Seek) :
    Store.Flows store (seek.step store).2 := by
  cases asks : seek.request with
  | none =>
      simp only [Seek.step, asks]
      exact sound.flows
  | some request =>
      have asked := sound.attempt_flows request
      rcases run : store.attempt request with ⟨answer, got⟩
      rw [run] at asked
      simp only [Seek.step, asks, run]
      cases answer with
      | waiting again => exact asked
      | finished result =>
          cases result with
          | error error => exact asked
          | ok handle => exact asked.trans (asked.sound.unpin_flows handle)

theorem Seek.repeat_flows (sound : store.Sound) (limit : Nat) (seek : Seek) :
    Store.Flows store (Step.repeat Seek.step limit seek store).2 := by
  induction limit generalizing seek store with
  | zero => exact sound.flows
  | succ limit ih =>
      have first := seek.step_flows sound
      rw [Step.repeat]
      rcases run : seek.step store with ⟨answer, got⟩
      rw [run] at first
      cases answer with
      | again next => exact first.trans (ih first.sound next)
      | waiting next => exact first
      | finished sought => exact first

theorem Cursor.At.all (stands : cursor.At table pages read) (ended : cursor.AtEnd pages) :
    read = table.rowsOn pages := by
  have rows := stands.rows
  rw [ended.empty, List.map_nil, List.append_nil, List.take_of_length_le ended.last] at rows
  exact rows

theorem Cursor.At.isPrefix (stands : cursor.At table pages read) :
    read <+: table.rowsOn pages := by
  refine List.IsPrefix.trans ?_ (table.rowsOn_take_prefix pages cursor.nextPage.toNat)
  rw [← stands.rows]
  exact List.prefix_append _ _

theorem Cursor.At.pop {row : Row} {rows : List Row} (stands : cursor.At table pages read)
    (full : cursor.buffered = row :: rows) :
    Cursor.At table pages (read ++ [row.entry]) { cursor with buffered := rows } := by
  refine ⟨stands.own, stands.isOpen, stands.inside, ?_⟩
  have same := stands.rows
  rw [full, List.map_cons] at same
  rw [← same, List.append_assoc]
  rfl

theorem Cursor.At.choose (stands : cursor.At table pages read)
    (presents : store.Presents table pages) :
    Seek.Leads table pages read store ⟨cursor, none⟩ (Seek.choose cursor store) := by
  obtain ⟨total, counted, number⟩ := presents.pageCount
  rw [← stands.own] at counted
  rcases Store.choose_cases cursor store with ⟨full, chosen⟩ | ⟨empty, ⟨error, failed, -⟩ |
    ⟨count, known, ⟨more, chosen⟩ | ⟨ended, chosen⟩⟩⟩
  · rw [chosen]
    exact .finished (.more stands full)
  · cases counted.symm.trans failed
  · cases counted.symm.trans known
    rw [UInt32.lt_iff_toNat_lt, number] at more
    rw [chosen]
    refine .again ⟨stands, ?_⟩ rfl
    rintro _ ⟨⟩
    exact ⟨by rw [← stands.own]; rfl, empty, more⟩
  · cases counted.symm.trans known
    rw [UInt32.lt_iff_toNat_lt, number] at ended
    rw [chosen]
    exact .finished (.exhausted stands ⟨empty, Nat.le_of_not_lt ended⟩)

/-- At the end a seek ends at once, and cannot fail. -/
theorem Cursor.At.repeat_at_end (stands : cursor.At table pages read)
    (ended : cursor.AtEnd pages) (presents : store.Presents table pages) (limit : Nat) :
    Step.repeat Seek.step (limit + 1) ⟨cursor, none⟩ store =
      (.finished ⟨.ok false, cursor⟩, store) := by
  obtain ⟨total, counted, number⟩ := presents.pageCount
  rw [← stands.own] at counted
  rcases Store.choose_cases cursor store with ⟨full, -⟩ | ⟨-, ⟨error, failed, -⟩ |
    ⟨count, known, ⟨more, -⟩ | ⟨-, chosen⟩⟩⟩
  · exact absurd ended.empty full
  · cases counted.symm.trans failed
  · cases counted.symm.trans known
    rw [UInt32.lt_iff_toNat_lt, number] at more
    exact absurd more (Nat.not_lt_of_le ended.last)
  · simp only [Step.repeat, Seek.step, chosen]

theorem Cursor.At.take (stands : cursor.At table pages read) (empty : cursor.buffered = [])
    (below : cursor.nextPage.toNat < pages.length) (own : handle.page = table.page cursor.nextPage)
    (presents : store.Presents table pages) (holds : store.Holds handle.page handle.serial) :
    (Seek.take cursor handle store).At table pages read ∧
      (Seek.take cursor handle store).nextPage.toNat = cursor.nextPage.toNat + 1 := by
  obtain ⟨frame, found, serial⟩ := holds
  have small : pages.length < 2 ^ 32 := presents.count ▸ UInt32.toNat_lt _
  have next : (cursor.nextPage + 1).toNat = cursor.nextPage.toNat + 1 := by
    rw [UInt32.toNat_add, Nat.mod_eq_of_lt]
    · rfl
    · change cursor.nextPage.toNat + 1 < _
      omega
  have cached := Store.cached?_of_frame found
  obtain ⟨⟨_, -, fits⟩, -⟩ := presents.sound.page _ _ cached
  have look : (store.pageState handle.page).look = .ok frame.page.contents :=
    PageState.look_of_cached (Store.copy_of_cached cached)
  have numbered : table.page (UInt32.ofNat cursor.nextPage.toNat) = handle.page := by
    rw [UInt32.ofNat_toNat, own]
  have shown := presents.sees cursor.nextPage.toNat frame.page.contents below
    (by rw [numbered]; exact look)
  have entries := fits.sound.entries
  rw [fits.id, ← numbered] at entries
  have rows := stands.rows
  rw [empty, List.map_nil, List.append_nil] at rows
  refine ⟨⟨stands.own, stands.isOpen, ?_, ?_⟩, next⟩
  · change (cursor.nextPage + 1).toNat ≤ _
    omega
  · change read ++ _ = table.rowsOn (pages.take (cursor.nextPage + 1).toNat)
    rw [next, Table.rowsOn_take_succ shown, ← entries, ← rows, Seek.take,
      Store.pageOf?_of_frame found serial, empty]
    rfl

theorem Seek.At.step (stands : seek.At table pages read) (presents : store.Presents table pages)
    {answer : Step Seek Sought} (run : seek.step store = (answer, after))
    (sees : after.Sees table pages) : Seek.Leads table pages read store seek answer := by
  obtain ⟨cursor, asked⟩ := seek
  cases asked with
  | none =>
      cases run
      exact stands.cursor.choose presents
  | some request =>
      obtain ⟨own, empty, below⟩ := stands.asks request rfl
      have mine : request.page.table = table.id := by
        rw [own]
        rfl
      have asked := presents.sound.attempt_flows request
      rcases attempt : store.attempt request with ⟨answered, got⟩
      rw [attempt] at asked
      simp only [Seek.step, attempt] at run
      cases answered with
      | waiting again =>
          cases run
          cases Store.request_of_attempt attempt
          exact .waiting stands ⟨store, request, _, presents.sound.flows, mine, attempt⟩
      | finished result =>
          cases result with
          | error error =>
              cases run
              obtain ⟨fails, unfatal⟩ := presents.fails mine attempt
              exact .finished (.failed stands.cursor fails unfatal)
          | ok handle =>
              cases run
              have shown := presents.between asked (asked.sound.unpin_flows handle) sees
              have page := (Store.page_of_attempt attempt).trans own
              obtain ⟨taken, next⟩ := stands.cursor.take empty below page shown
                (Store.attempt_holds attempt)
              refine .again ⟨taken, by rintro _ ⟨⟩⟩ ?_
              rw [Seek.stepsLeft, Seek.stepsLeft, next]
              change _ + 1 + 1 = _ + 0
              omega

/-- What a seek that goes some steps comes to.  It stops early only for want of steps or
because a lock is refused. -/
theorem Seek.At.repeat (limit : Nat) (stands : seek.At table pages read)
    (presents : store.Presents table pages) {progress : Progress Seek Sought}
    (run : Step.repeat Seek.step limit seek store = (progress, after))
    (sees : after.Sees table pages) :
    match progress with
    | .waiting next => next.At table pages read ∧
        (seek.stepsLeft pages ≤ limit → store.Refuses table)
    | .finished sought => sought.Tells table pages read store := by
  induction limit generalizing seek store with
  | zero =>
      cases run
      refine ⟨stands, ?_⟩
      intro enough
      -- an open request has a page ahead, so steps are left in any case
      cases asked : seek.request with
      | none => simp [Seek.stepsLeft, asked] at enough
      | some request =>
          have below := (stands.asks request asked).2.2
          simp only [Seek.stepsLeft, asked, Option.isSome_some, if_true] at enough
          omega
  | succ limit ih =>
      have first := seek.step_flows presents.sound
      rcases step : seek.step store with ⟨answer, got⟩
      rw [step] at first
      simp only [Step.repeat, step] at run
      cases answer with
      | again next =>
          have rest := Seek.repeat_flows first.sound limit next
          simp only at run
          rw [run] at rest
          have shown := presents.between first rest sees
          cases stands.step presents step shown.sees with
          | again stands fewer =>
              have told := ih stands shown run
              cases progress with
              | waiting last =>
                  refine ⟨told.1, ?_⟩
                  intro enough
                  exact (told.2 (by omega)).of_flows first
              | finished sought =>
                  cases told with
                  | more stands full => exact .more stands full
                  | exhausted stands ended => exact .exhausted stands ended
                  | failed stands fails unfatal =>
                      exact .failed stands (fails.of_flows first) unfatal
      | waiting next =>
          cases run
          cases stands.step presents step sees with
          | waiting stands refused => exact ⟨stands, fun _ => refused⟩
      | finished sought =>
          cases run
          cases stands.step presents step sees with
          | finished tells => exact tells

end

end TableStore
