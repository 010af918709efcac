import TableStore.Proofs.InsertionRuns
import TableStore.Proofs.PageErrors

/-!
# First places

A row that is inserted gets the first free place of its table, in the order of pages and
then of slots; if there is none, the table gets one more page, and the row its first slot.
Whatever other transactions have done before and whatever leaves the cache meanwhile, all
other places hold what they held.
-/

set_option autoImplicit false

namespace TableStore

namespace Store

variable {store grown after : Store} {table : Table} {txn : TxnId} {row : Row} {place other : Location}
  {contents : Contents} {values : List Value} {number slot : Nat}

/-! ## Places -/

def rowAt? (store : Store) (place : Location) : Option (List Value) :=
  match (store.pageState place.page).look with
  | .ok contents => contents[place.slot.toNat]?.join
  | .error _ => none

theorem rowAt?_of_look (seen : (store.pageState place.page).look = .ok contents) :
    store.rowAt? place = contents[place.slot.toNat]?.join := by
  rw [rowAt?, seen]

theorem rowAt?_congr (same : (after.pageState place.page).look = (store.pageState place.page).look) :
    after.rowAt? place = store.rowAt? place := by
  rw [rowAt?, rowAt?, same]

/-- An empty page has no rows, as a page that is missing. -/
theorem Extended.rowAt? (extended : Extended store after table) (place : Location) :
    after.rowAt? place = store.rowAt? place := by
  by_cases new : place.page = store.nextPage table
  · have look := extended.look place.page
    have missing := extended.missing
    rw [if_pos new] at look
    rw [← new] at missing
    rw [Store.rowAt?, Store.rowAt?, look, missing]
    cases read : (Page.empty (store.nextPage table) table.schema table.pageSize).map
      Page.contents with
    | error error => rfl
    | ok contents =>
        obtain ⟨count, rfl⟩ := Page.contents_empty read
        simp only [List.getElem?_replicate]
        split <;> rfl
  · have look := extended.look place.page
    rw [if_neg new] at look
    exact rowAt?_congr look

theorem Alters.rowAt? {id : PageId}
    (alters : Alters store after txn ⟨id, slot, some values⟩ contents)
    (numbered : (UInt16.ofNat slot).toNat = slot) (place : Location) :
    after.rowAt? place =
      if place = ⟨id, UInt16.ofNat slot⟩ then some values else store.rowAt? place := by
  by_cases here : place.page = id
  · have look := alters.look place.page
    rw [if_pos here] at look
    rw [rowAt?_of_look look, rowAt?_of_look (here ▸ alters.before), Change.apply]
    by_cases same : place.slot.toNat = slot
    · have placed : place = ⟨id, UInt16.ofNat slot⟩ := by
        rw [← here, ← same, UInt16.ofNat_toNat]
      rw [if_pos placed, same, List.getElem?_set_self alters.inside, Option.join_some]
    · rw [List.getElem?_set_ne (Ne.symm same), if_neg]
      rintro rfl
      exact same numbered
  · have look := alters.look place.page
    rw [if_neg here] at look
    rw [rowAt?_congr look, if_neg]
    rintro rfl
    exact here rfl

structure Free (store : Store) (table : Table) (place : Location) : Prop where
  own : place.page.table = table.id
  inside : place.page.number.toNat < table.wholePages store.disk
  empty : ∃ contents, (store.pageState place.page).look = .ok contents ∧
    contents[place.slot.toNat]? = some none

/-- The place that a row gets, and how many pages are appended for it. -/
inductive FirstPlace (store : Store) (table : Table) : Location → Nat → Prop
  | free {place : Location} (free : store.Free table place)
      (least : ∀ other, store.Free table other → other = place ∨ compare place other = .lt) :
      FirstPlace store table place 0
  | behind (full : ∀ number < table.wholePages store.disk,
      store.Full (table.page (UInt32.ofNat number))) :
      FirstPlace store table ⟨store.nextPage table, 0⟩ 1

/-- Every free place is the first free slot of the first page that has one, or comes
behind it. -/
theorem Free.behind (free : store.Free table other)
    (full : ∀ earlier < number, store.Full (table.page (UInt32.ofNat earlier)))
    (inside : number < 2 ^ 32)
    (seen : (store.pageState (table.page (UInt32.ofNat number))).look = .ok contents)
    (first : contents.findIdx? Option.isNone = some slot)
    (numbered : (UInt16.ofNat slot).toNat = slot) :
    other = ⟨table.page (UInt32.ofNat number), UInt16.ofNat slot⟩ ∨
      compare (⟨table.page (UInt32.ofNat number), UInt16.ofNat slot⟩ : Location) other = .lt := by
  obtain ⟨id, place⟩ := other
  obtain ⟨own, -, found, looks, empty⟩ := free
  have page : table.page (UInt32.ofNat id.number.toNat) = id := Table.page_of_own own
  rcases Nat.lt_trichotomy id.number.toNat number with before | same | after
  · obtain ⟨taken, known, none⟩ := full _ before
    rw [page] at known
    cases known.symm.trans looks
    have used := List.findIdx?_eq_none_iff.mp none _ (List.mem_of_getElem? empty)
    cases used
  · rw [← same, page] at seen ⊢
    cases seen.symm.trans looks
    obtain ⟨within, -, earlier⟩ := List.findIdx?_eq_some_iff_getElem.mp first
    rcases Nat.lt_trichotomy place.toNat slot with less | equal | more
    · obtain ⟨_, known⟩ := List.getElem?_eq_some_iff.mp empty
      have used := earlier _ less
      rw [known] at used
      cases used rfl
    · left
      rw [← equal, UInt16.ofNat_toNat]
    · exact .inr (Location.compare_of_slot (numbered.symm ▸ more))
  · right
    rw [← page]
    apply Location.compare_of_page
    rw [UInt32.ofNat_toNat, UInt32.toNat_ofNat', Nat.mod_eq_of_lt inside]
    exact after

/-! ## Insertions -/

/-- The row is put into the place for the transaction, and nothing else looks different:
all other places hold what they held, no other page has new changes, and no other table has
new pages. -/
structure Puts (store after : Store) (txn : TxnId) (table : Table) (row : Row) (place : Location) :
    Prop where
  catalog : after.catalog = store.catalog
  rows : ∀ other, after.rowAt? other = if other = place then some row.values else store.rowAt? other
  others : ∀ id, id ≠ place.page → (after.pageState id).look = (store.pageState id).look
  marked : ∃ page, after.cached? place.page = some page ∧ page.dirtiedBy = some txn
  remembers : ∀ id, id ≠ place.page → (store.pageState id).Remembers (after.pageState id)
  counts : ∀ id other, store.catalog.tables.get? id = some other → id ≠ table.id →
    other.wholePages after.disk = other.wholePages store.disk

theorem Alters.puts (alters : Alters store after txn ⟨place.page, place.slot.toNat, some row.values⟩
    contents) (table : Table) : Puts store after txn table row place where
  catalog := alters.catalog
  rows other := by
    have numbered : (UInt16.ofNat place.slot.toNat).toNat = place.slot.toNat := by
      rw [UInt16.ofNat_toNat]
    rw [alters.rowAt? numbered, UInt16.ofNat_toNat]
  others id different := by rw [alters.look, if_neg different]
  marked := alters.marked
  remembers := alters.remembers
  counts id other found _ := alters.counts id other found

theorem Extended.puts (extended : Extended store grown table)
    (puts : Puts grown after txn table row place) (new : place.page = store.nextPage table) :
    Puts store after txn table row place where
  catalog := puts.catalog.trans extended.catalog
  rows other := by rw [puts.rows, extended.rowAt?]
  others id different := by
    rw [puts.others id different, extended.look, if_neg (new ▸ different)]
  marked := puts.marked
  remembers id different copy owner cached marked := extended.remembers id copy owner
    (puts.remembers id different copy owner cached marked) marked
  counts id other found different := by
    rw [puts.counts id other (extended.catalog ▸ found) different,
      extended.counts id other found different]

theorem InsertionEnds.places {inserted : Inserted}
    (ends : InsertionEnds store table txn row (.finished (.ok inserted)) after)
    (registered : store.catalog.tables.get? table.id = some table)
    (small : table.wholePages store.disk < 2 ^ 32) :
    ∃ place new, store.FirstPlace table place new ∧ inserted.row = row.placeAt (some place) ∧
      inserted.page = place.page ∧
      table.wholePages after.disk = table.wholePages store.disk + new ∧
      Puts store after txn table row place := by
  cases ends with
  | @found number slot contents _ inside full free numbered alters =>
      refine ⟨⟨table.page (UInt32.ofNat number), UInt16.ofNat slot⟩, 0, ?_, rfl, rfl,
        alters.counts _ _ registered, ?_⟩
      · apply FirstPlace.free
        · refine ⟨rfl, ?_, contents, alters.before, ?_⟩
          · rw [Table.toNat_page (by omega)]
            exact inside
          · change contents[(UInt16.ofNat slot).toNat]? = some none
            rw [numbered]
            exact Contents.free_of_findIdx? free
        · intro other empty
          exact empty.behind full (by omega) alters.before free numbered
      · rw [← numbered] at alters
        exact alters.puts table
  | @behind grown _ contents full extended alters =>
      have grew : grown.catalog.tables.get? table.id = some table := extended.catalog ▸ registered
      have puts : Puts grown after txn table row ⟨store.nextPage table, 0⟩ := alters.puts table
      refine ⟨⟨store.nextPage table, 0⟩, 1, .behind full, rfl, rfl, ?_,
        extended.puts puts rfl⟩
      rw [alters.counts _ _ grew, extended.count]
  | beyond unnumbered unplaced => exact absurd rfl (unplaced inserted)

theorem Backed.insert (backed : store.Backed) (sound : store.Sound)
    (addressable : store.Addressable) {id : TableId}
    {result : Progress Insertion (Except StoreError Inserted)}
    (run : store.insert txn id row = (result, after)) :
    (store.catalog.table id = .error (.noSuchTable id) ∧
      result = .finished (.error (.noSuchTable id)) ∧ after = store) ∨
    ∃ table, store.catalog.table id = .ok table ∧
      store.catalog.tables.get? table.id = some table ∧
      InsertionEnds store table txn row result after := by
  rw [Store.insert] at run
  cases found : store.catalog.table id with
  | error error =>
      rw [found] at run
      cases run
      cases Catalog.table_error found
      exact .inl ⟨rfl, rfl, rfl⟩
  | ok table =>
      rw [found] at run
      obtain ⟨registered, -⟩ := sound.registered found
      exact .inr ⟨table, rfl, registered, backed.insertion sound addressable registered run⟩

end Store

namespace System

/-- An insertion that does not have to wait and succeeds puts its row into the least free
place of its table, or, if all pages are full, into the first slot of a page that is
appended.  This holds after any fetches, insertions, deletions, scans, commits and
rollbacks of any number of transactions, even if writes failed among them. -/
theorem insertions_take_first_places {system : System} (fresh : system.Fresh)
    {actions : List Action} (unflushed : ∀ action ∈ actions, action.flushes = false)
    (numbered : Along Numbered system actions) {txn : TxnId} {id : TableId} {row : Row}
    {inserted : Inserted} {after : Store}
    (run : (system.run actions).store.insert txn id row = (.finished (.ok inserted), after)) :
    let store := (system.run actions).store
    ∃ table place new, store.catalog.table id = .ok table ∧ store.FirstPlace table place new ∧
      inserted.row = row.placeAt (some place) ∧ inserted.page = place.page ∧
      table.wholePages after.disk = table.wholePages store.disk + new ∧
      Store.Puts store after txn table row place := by
  obtain ⟨sound, backed, addressable⟩ :=
    fresh.sound.backed_run fresh.backed fresh.store.addressable unflushed numbered
  rcases backed.insert sound.store addressable run with
    ⟨-, failed, -⟩ | ⟨table, found, registered, ends⟩
  · cases failed
  · obtain ⟨place, new, first, puts⟩ :=
      ends.places registered (addressable _ _ registered)
    exact ⟨table, place, new, found, first, puts⟩

/-- Two rows fill two pages, and then the first of them is deleted.  The cache has room for
one page. -/
def firstDeleted : List Action :=
  [.call ⟨1⟩ (.insert ⟨1⟩ (.ofNumber 5)), .advance ⟨1⟩, .call ⟨1⟩ (.insert ⟨1⟩ (.ofNumber 6)),
    .advance ⟨1⟩, .advance ⟨1⟩, .commit ⟨1⟩,
    .call ⟨2⟩ (.delete ((Row.ofNumber 5).placeAt (some ⟨Table.numbers.page 0, 0⟩))),
    .advance ⟨2⟩, .commit ⟨2⟩]

theorem insertion_takes_deleted_place :
    let store := ((System.ofNumbers 1).run firstDeleted).store
    ∃ inserted after, store.insert ⟨3⟩ ⟨1⟩ (.ofNumber 7) = (.finished (.ok inserted), after) ∧
      store.FirstPlace .numbers ⟨Table.numbers.page 0, 0⟩ 0 ∧
      Store.Puts store after ⟨3⟩ .numbers (.ofNumber 7) ⟨Table.numbers.page 0, 0⟩ ∧
      store.rowAt? ⟨Table.numbers.page 1, 0⟩ = some [.int 6] := by
  have unflushed : ∀ action ∈ firstDeleted, action.flushes = false := by decide
  have numbered : Along Numbered (System.ofNumbers 1) firstDeleted := by decide +kernel
  obtain ⟨inserted, after, run, location, kept⟩ : ∃ inserted after,
      ((System.ofNumbers 1).run firstDeleted).store.insert ⟨3⟩ ⟨1⟩ (.ofNumber 7) =
        (.finished (.ok inserted), after) ∧
      inserted.row.location = some ⟨Table.numbers.page 0, 0⟩ ∧
      Table.numbers.wholePages after.disk = 2 :=
    ⟨_, _, rfl, rfl, rfl⟩
  have two : Table.numbers.wholePages ((System.ofNumbers 1).run firstDeleted).store.disk = 2 := rfl
  obtain ⟨table, place, new, found, first, placed, -, count, puts⟩ :=
    insertions_take_first_places (fresh_ofNumbers 1) unflushed numbered run
  have known : ((System.ofNumbers 1).run firstDeleted).store.catalog.table ⟨1⟩ = .ok .numbers := rfl
  cases known.symm.trans found
  cases location.symm.trans (congrArg Row.location placed)
  obtain rfl : new = 0 := by omega
  exact ⟨inserted, after, run, first, puts, rfl⟩

end System

end TableStore
