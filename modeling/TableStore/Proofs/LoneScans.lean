import TableStore.Proofs.LoneVisits
import TableStore.Proofs.SerialRequests
import TableStore.Proofs.TableEntries

/-!
# Scans of a transaction that is alone

A scan of a transaction that is alone visits the pages of its table in order, up to the
first one that cannot be read.  It answers the rows that the pages look to have, or those
of the pages before the first that cannot be visited because a stuck page is in the way;
nothing else can keep it from its end.
-/

set_option autoImplicit false

namespace TableStore

namespace Tables

variable (tables : Tables) (table : Table)

def pagesRead : (left number : Nat) → List PageId
  | 0, _ => []
  | left + 1, number =>
      let id := table.page (UInt32.ofNat number)
      match tables.page id with
      | .error _ => []
      | .ok _ => id :: pagesRead left (number + 1)

def pagesScanned : List PageId :=
  if table.pageSize = 0 then [] else tables.pagesRead table (tables.count table.id) 0

end Tables

namespace Store

def seen (store : Store) : Tables where
  page id := (store.pageState id).look
  settled id := (store.pageState id).look
  count id := ((store.catalog.tables.get? id).map fun table => table.wholePages store.disk).getD 0

variable {store middle : Store} {txn : TxnId} {table : Table} {line : Line}
  {pages : List PageId} {id : PageId} {last : Option StoreError} {before : List Entry}
  {scanned : Scanned}

theorem count_seen (registered : store.catalog.tables.get? table.id = some table) :
    store.seen.count table.id = table.wholePages store.disk := by
  simp only [seen, registered, Option.map_some, Option.getD_some]

theorem rowsOf_of_page {contents : Contents} (seen : store.seen.page id = .ok contents) :
    store.seen.rowsOf id = contents.rows id := by
  rw [Tables.rowsOf, seen]

/-- The scan has answered the rows of the pages that can be visited, after some others.
It ends as a scan of all pages does if all of them can be visited, and else fails for a
page that its file does not take. -/
structure Scans (store : Store) (line : Line) (pages : List PageId) (last : Option StoreError)
    (before : List Entry) (scanned : Scanned) : Prop where
  rows : scanned.rows.map Row.entry =
    before ++ (Line.visited store.stuck pages line).flatMap store.seen.rowsOf
  error : if Line.visited store.stuck pages line = pages then scanned.error = last
    else ∃ place fault, store.unwritable.get? place = some fault ∧
      scanned.error = some (.io (.other fault))

theorem scans_done {rows : List Row} (same : rows.map Row.entry = before) :
    Scans store line [] last before ⟨rows, last⟩ :=
  ⟨same.trans (List.append_nil before).symm, rfl⟩

theorem scans_blocked {rows : List Row} {place : PageId} {fault : String}
    (same : rows.map Row.entry = before) (visit : line.visit store.stuck id = none)
    (refused : store.unwritable.get? place = some fault) :
    Scans store line (id :: pages) last before ⟨rows, some (.io (.other fault))⟩ := by
  have none : Line.visited store.stuck (id :: pages) line = [] := by rw [Line.visited, visit]
  constructor
  · rw [none]
    exact same.trans (List.append_nil before).symm
  · rw [none, if_neg (List.cons_ne_nil id pages).symm]
    exact ⟨place, fault, refused, rfl⟩

theorem Scans.visited {next : Line} (visit : line.visit store.stuck id = some next)
    (scans : Scans store next pages last (before ++ store.seen.rowsOf id) scanned) :
    Scans store line (id :: pages) last before scanned := by
  have more : Line.visited store.stuck (id :: pages) line =
      id :: Line.visited store.stuck pages next := by rw [Line.visited, visit]
  constructor
  · rw [more, List.flatMap_cons, scans.rows, List.append_assoc]
  · rw [more]
    simp only [List.cons.injEq, true_and]
    exact scans.error

/-- A cursor takes the rows of a page that can be read and visited. -/
theorem Browses.take (browses : Browses store txn middle) (table : Table) (number : Nat)
    {contents : Contents}
    (seen : store.seen.page (table.page (UInt32.ofNat number)) = .ok contents) :
    (∃ rows after, Seek.step ⟨⟨table, txn, UInt32.ofNat number, [], true⟩,
          some (middle.request txn (table.page (UInt32.ofNat number)) .shared)⟩ middle =
        (.again ⟨⟨table, txn, UInt32.ofNat (number + 1), rows, true⟩, none⟩, after) ∧
      rows.map Row.entry = contents.rows (table.page (UInt32.ofNat number)) ∧
      Browses store txn after ∧
      middle.line.visit store.stuck (table.page (UInt32.ofNat number)) = some after.line) ∨
    middle.line.visit store.stuck (table.page (UInt32.ofNat number)) = none ∧
      ∃ place fault after cursor, store.unwritable.get? place = some fault ∧
        Seek.step ⟨⟨table, txn, UInt32.ofNat number, [], true⟩,
          some (middle.request txn (table.page (UInt32.ofNat number)) .shared)⟩ middle =
        (.finished ⟨.error (.io (.other fault)), cursor⟩, after) := by
  let request := middle.request txn (table.page (UInt32.ofNat number)) .shared
  have timely : request.Timely middle txn := ⟨rfl, rfl⟩
  have look : (middle.pageState request.page).look = .ok contents :=
    (browses.look request.page).trans seen
  rw [← browses.stuck, ← browses.unwritable]
  rcases (browses.lone.attempt timely).2 contents look with
    ⟨handle, got, frame, run, found, serial, content, own, visits⟩ |
    ⟨full, place, fault, after, refused, run⟩
  · have reached := browses.lone.backed.attempted browses.lone.sound
      browses.lone.addressable timely run
    obtain ⟨rows, step, entries⟩ :=
      step_take table txn number run reached.sound (own ▸ found) serial
    refine .inl ⟨rows, _, step, ?_, browses.trans visits.toBrowses, visits.line⟩
    rw [entries, content, own]
    rfl
  · refine .inr ⟨full, place, fault, after, ⟨table, txn, UInt32.ofNat number, [], true⟩,
      refused, ?_⟩
    simp only [Seek.step]
    rw [show middle.attempt _ = _ from run]

theorem Browses.rowsFrom (registered : store.catalog.tables.get? table.id = some table)
    (sized : 0 < table.pageSize) (left : Nat) {number : Nat} {middle : Store} (rows : List Row)
    (browses : Browses store txn middle)
    (counted : number + left = store.seen.count table.id) {limit : Nat}
    (enough : 3 * left + 1 ≤ limit) :
    ∃ scanned after, Step.repeat Scan.step limit
          ⟨rows, ⟨⟨table, txn, UInt32.ofNat number, [], true⟩, none⟩⟩ middle =
        (.finished scanned, after) ∧
      Scans store middle.line (store.seen.pagesRead table left number)
        (store.seen.rowsFrom table left number).2 (rows.map Row.entry) scanned := by
  have known : middle.catalog.tables.get? table.id = some table := browses.catalog ▸ registered
  have total : table.wholePages middle.disk = store.seen.count table.id :=
    (browses.counts _ _ registered).trans (count_seen registered).symm
  have small : store.seen.count table.id < 2 ^ 32 :=
    total ▸ browses.lone.addressable _ _ known
  have chosen : Seek.step ⟨⟨table, txn, UInt32.ofNat number, [], true⟩, none⟩ middle = _ :=
    step_choose sized total small (Nat.le.intro counted)
  obtain ⟨limit, rfl⟩ : ∃ rest, limit = rest + 1 := ⟨limit - 1, by omega⟩
  cases left with
  | zero =>
      rw [if_neg (by omega)] at chosen
      refine ⟨⟨rows, none⟩, middle, ?_, scans_done rfl⟩
      simp only [Step.repeat, Scan.step, chosen]
  -- A page is chosen, then taken, and then its rows are given out.
  | succ left =>
      rw [if_pos (by omega)] at chosen
      obtain ⟨limit, rfl⟩ : ∃ rest, limit = rest + 1 := ⟨limit - 1, by omega⟩
      simp only [Step.repeat, Scan.step, chosen]
      rw [Tables.rowsFrom, Tables.pagesRead]
      cases seen : store.seen.page (table.page (UInt32.ofNat number)) with
      | error error =>
          have timely : (middle.request txn (table.page (UInt32.ofNat number)) .shared).Timely
              middle txn := ⟨rfl, rfl⟩
          obtain ⟨after, run⟩ :=
            (browses.lone.attempt timely).1 error ((browses.look _).trans seen)
          refine ⟨⟨rows, some error⟩, after, ?_, scans_done rfl⟩
          simp only [Seek.step]
          rw [show middle.attempt _ = _ from run]
      | ok contents =>
          rcases browses.take table number seen with
            ⟨taken, got, step, entries, reached, visit⟩ |
            ⟨full, place, fault, after, cursor, refused, step⟩
          · obtain ⟨limit, rfl⟩ : ∃ rest, limit = rest + 1 := ⟨limit - 1, by omega⟩
            obtain ⟨more, enough, flushed⟩ := scan_flush rows
              ⟨table, txn, UInt32.ofNat (number + 1), taken, true⟩ got limit
            obtain ⟨scanned, after, done, scans⟩ := rowsFrom registered sized left
              (rows ++ taken) reached (show number + 1 + left = _ by omega)
              (show 3 * left + 1 ≤ more by omega)
            refine ⟨scanned, after, ?_, ?_⟩
            · simp only [step]
              exact flushed.trans done
            · rw [List.map_append, entries, ← rowsOf_of_page seen] at scans
              exact scans.visited visit
          · refine ⟨⟨rows, some (.io (.other fault))⟩, after, ?_, scans_blocked rfl full refused⟩
            simp only [step]

theorem Lone.scan (lone : store.Lone txn)
    (registered : store.catalog.tables.get? table.id = some table) :
    ∃ scanned after, Scan.run table txn store = (.finished scanned, after) ∧
      Scans store store.line (store.seen.pagesScanned table) (store.seen.scan table).2 []
        scanned := by
  rw [Tables.scan, Tables.pagesScanned]
  rcases Nat.eq_zero_or_pos table.pageSize with unsized | sized
  · rw [if_pos unsized, if_pos unsized]
    exact ⟨_, store, scan_of_unsized store txn unsized, scans_done rfl⟩
  · have limit := wholePages_le_stepLimit store table
    rw [← count_seen registered] at limit
    rw [Scan.run, Scan.resume, if_neg (Nat.ne_of_gt sized), if_neg (Nat.ne_of_gt sized)]
    exact lone.browses.rowsFrom registered sized (store.seen.count table.id) []
      (show 0 + store.seen.count table.id = _ by omega)
      (show 3 * store.seen.count table.id + 1 ≤ 2 * store.stepLimit by omega)

end Store

end TableStore
