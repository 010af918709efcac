import TableStore.Proofs.BackedPages
import TableStore.Proofs.SerialRequests
import TableStore.Proofs.TableEntries

/-!
# Ends of insertions

An insertion beside other transactions looks at the pages of its table in order, until one
has a free slot, it is refused a page, or a page cannot be fetched.  If all pages are full
it appends one, which has free slots only.  Up to the page that takes the row no page
looks different from before, whatever leaves the cache on the way.
-/

set_option autoImplicit false

namespace TableStore.Store

variable {store middle got grown changed after : Store} {table : Table} {txn : TxnId}
  {request : PageRequest} {handle : Handle} {row : Row} {change : Change} {contents : Contents}

/-! ## Stages of an insertion -/

def Full (store : Store) (id : PageId) : Prop :=
  ∃ contents, (store.pageState id).look = .ok contents ∧ contents.findIdx? Option.isNone = none

structure Alters (store after : Store) (txn : TxnId) (change : Change) (contents : Contents) :
    Prop extends Continues store after where
  sound : after.Sound
  backed : after.Backed
  before : (store.pageState change.page).look = .ok contents
  inside : change.slot < contents.length
  look : ∀ id, (after.pageState id).look =
    if id = change.page then .ok (change.apply contents) else (store.pageState id).look
  marked : ∃ page, after.cached? change.page = some page ∧ page.dirtiedBy = some txn
  remembers : ∀ id, id ≠ change.page → (store.pageState id).Remembers (after.pageState id)

structure Extended (store after : Store) (table : Table) : Prop where
  catalog : after.catalog = store.catalog
  sound : after.Sound
  addressable : after.Addressable
  backed : after.Backed
  missing : (store.pageState (store.nextPage table)).look =
    .error (.pageNotFound (store.nextPage table))
  look : ∀ id, (after.pageState id).look =
    if id = store.nextPage table then
      (Page.empty (store.nextPage table) table.schema table.pageSize).map Page.contents
    else (store.pageState id).look
  count : table.wholePages after.disk = table.wholePages store.disk + 1
  counts : ∀ id other, store.catalog.tables.get? id = some other → id ≠ table.id →
    other.wholePages after.disk = other.wholePages store.disk
  remembers : ∀ id, (store.pageState id).Remembers (after.pageState id)

theorem Alike.full (alike : Alike store after) {id : PageId} (full : after.Full id) :
    store.Full id := by
  obtain ⟨contents, seen, taken⟩ := full
  exact ⟨contents, (alike.look id).symm.trans seen, taken⟩

theorem Alike.nextPage (alike : Alike store after)
    (registered : store.catalog.tables.get? table.id = some table) :
    after.nextPage table = store.nextPage table := by
  rw [Store.nextPage, alike.counts _ _ registered, Store.nextPage]

theorem Alike.alters (alike : Alike store got) {page : Page}
    (changes : Changes got changed txn change)
    (exclusive : got.locks.mode? txn change.page = some .exclusive)
    (cached : got.cached? change.page = some page) (handle : Handle) :
    Alters store (changed.unpin handle) txn change page.contents := by
  obtain ⟨copy, known, inside, states⟩ := changes.pages
  cases known.symm.trans (copy_of_cached cached)
  obtain ⟨rests, -⟩ := changes.sound.unpin handle
  have unpinned := (alike.backed.changed changes exclusive).unpinned changes.sound
    (changes.toContinues.addressable alike.addressable) handle
  have state (id : PageId) : (changed.unpin handle).pageState id =
      if id = change.page then
        { got.pageState change.page with
          cached := some ⟨change.apply page.contents, page.copy.image, some txn⟩ }
      else got.pageState id :=
    (rests.states id).trans (states id)
  refine ⟨alike.toContinues.trans (changes.toContinues.trans unpinned.toContinues),
    unpinned.sound, unpinned.backed, ?_, inside, ?_, ?_, ?_⟩
  · exact (alike.look _).symm.trans (PageState.look_of_cached known)
  · intro id
    rw [state]
    split
    · rfl
    · exact alike.look id
  · have here : ((changed.unpin handle).pageState change.page).cached =
        some ⟨change.apply page.contents, page.copy.image, some txn⟩ := by
      rw [state, if_pos rfl]
    obtain ⟨after, found, copied⟩ := cached_of_pageState here
    exact ⟨after, found, congrArg Copy.dirtiedBy copied⟩
  · intro id different
    rw [state, if_neg different]
    exact alike.remembers id

theorem Alike.extended (alike : Alike store middle)
    (registered : store.catalog.tables.get? table.id = some table)
    (appends : Appends middle after table) : Extended store after table := by
  have next : middle.nextPage table = store.nextPage table := alike.nextPage registered
  have absent : (middle.pageState (store.nextPage table)).cached = none :=
    next ▸ copy_of_uncached appends.uncached
  have here : (after.pageState (store.nextPage table)).cached = none := by
    rw [appends.state]
    exact absent
  have numbered := appends.addressable (alike.catalog ▸ registered) alike.addressable
  refine ⟨?_, appends.sound, numbered, alike.backed.appended appends, ?_, ?_, ?_, ?_, ?_⟩
  · rw [appends.disk]
    exact alike.catalog
  · rw [← alike.look, PageState.look_of_absent absent, ← next]
    exact appends.missing
  · intro id
    split
    · next same =>
        subst same
        rw [PageState.look_of_absent here]
        change after.stored _ = _
        rw [Store.stored, ← next, appends.read]
    · next different => rw [appends.others (next ▸ different), alike.look]
  · rw [appends.count, alike.counts _ _ registered]
  · intro id other found different
    rw [appends.counts id other (alike.catalog ▸ found) different, alike.counts id other found]
  · intro id copy owner cached marked
    by_cases same : id = store.nextPage table
    · subst same
      cases here.symm.trans cached
    · rw [appends.others (next ▸ same)] at cached
      exact alike.remembers id copy owner cached marked

theorem Extended.alike (extended : Extended store middle table) (alike : Alike middle after)
    (registered : store.catalog.tables.get? table.id = some table) :
    Extended store after table where
  catalog := alike.catalog.trans extended.catalog
  sound := alike.sound
  addressable := alike.addressable
  backed := alike.backed
  missing := extended.missing
  look id := (alike.look id).trans (extended.look id)
  count := (alike.counts _ _ (extended.catalog ▸ registered)).trans extended.count
  counts id other found different := (alike.counts _ _ (extended.catalog ▸ found)).trans
    (extended.counts id other found different)
  remembers id copy owner cached marked := extended.remembers id copy owner
    (alike.remembers id copy owner cached marked) marked

inductive Nears (store : Store) (table : Table) (after : Store) : Prop
  | alike (alike : Alike store after)
  | extended (extended : Extended store after table)

theorem Nears.attempted (nears : Nears store table middle)
    (registered : store.catalog.tables.get? table.id = some table)
    (timely : request.Timely middle txn)
    {answer : Progress PageRequest (Except StoreError Handle)}
    (run : middle.attempt request = (answer, after)) : Nears store table after := by
  cases nears with
  | alike alike =>
      exact .alike
        (alike.trans (alike.backed.attempted alike.sound alike.addressable timely run))
  | extended extended =>
      exact .extended
        (extended.alike (extended.backed.attempted extended.sound extended.addressable timely run)
          registered)

/-! ## One page -/

/-- An insertion tries a page: it is refused the page, the page cannot be fetched, its row
goes into the first free slot, or the page is full. -/
theorem Alike.tries (alike : Alike store middle) {task : Insertion}
    (timely : task.request.Timely middle txn) (exclusive : task.request.mode = .exclusive)
    (registered : store.catalog.tables.get? task.request.page.table = some table)
    (fits : task.row.schema.alike table.schema = true) :
    (∃ after, middle.attempt task.request = (.waiting task.request, after) ∧
      task.step middle = (.waiting task, after)) ∨
    (∃ error after, middle.attempt task.request = (.finished (.error error), after) ∧
      task.step middle = (.finished (.error error), after)) ∨
    (∃ contents slot after, contents.findIdx? Option.isNone = some slot ∧
      (UInt16.ofNat slot).toNat = slot ∧
      Alters store after txn ⟨task.request.page, slot, some task.row.values⟩ contents ∧
      task.step middle = (.finished (.ok ⟨task.row.placeAt
        (some ⟨task.request.page, UInt16.ofNat slot⟩), task.request.page⟩), after)) ∨
    ∃ after, store.Full task.request.page ∧ Alike store after ∧
      task.step middle = match task.goOn after with
        | (.ok next, store) => (.again next, store)
        | (.error error, store) => (.finished (.error error), store) := by
  rcases attempt : middle.attempt task.request with ⟨next | error | handle, got⟩
  · obtain ⟨rfl, -⟩ := alike.sound.waits timely attempt
    exact .inl ⟨got, rfl, by simp only [Insertion.step, attempt]⟩
  · exact .inr (.inl ⟨error, got, rfl, by simp only [Insertion.step, attempt]⟩)
  · have granted := alike.sound.grants timely attempt
    obtain ⟨reached, freed⟩ := alike.backed.granted alike.sound alike.addressable granted
    obtain ⟨frame, found, same⟩ := granted.cached
    have cached : got.cached? handle.page = some frame.page := cached?_of_frame found
    have looks : (got.pageState handle.page).look = .ok frame.page.contents :=
      PageState.look_of_cached (copy_of_cached cached)
    rcases granted.sound.place task.row handle found same with
      ⟨full, placed⟩ | ⟨strange, -⟩ | ⟨slot, free, numbered, placed, changes⟩
    · refine .inr (.inr (.inr ⟨got.unpin handle, ?_, alike.trans freed,
        step_of_full attempt placed⟩))
      rw [← granted.page]
      exact (alike.trans reached).full ⟨_, looks, full⟩
    · -- A page of the table has the layout of its rows.
      obtain ⟨⟨own, known, fitting⟩, -⟩ := granted.sound.page _ _ cached
      rw [granted.page, granted.catalog, alike.catalog] at known
      cases known.symm.trans registered
      rw [fitting.schema, fits] at strange
      cases strange
    · have holds := granted.exclusive exclusive
      rw [granted.owner] at changes
      have alters := (alike.trans reached).alters changes holds cached handle
      rw [granted.page] at placed alters
      exact .inr (.inr (.inl ⟨_, slot, _, free, numbered, alters,
        step_of_placed attempt (Prod.ext placed rfl)⟩))

/-! ## New pages -/

theorem attempt_of_unreadable (absent : store.frames.get? request.page = none)
    {error : StoreError} (unread : store.readPage request.page = .error error)
    {answer : Progress PageRequest (Except StoreError Handle)}
    (run : store.attempt request = (answer, after)) :
    (∀ handle, answer ≠ .finished (.ok handle)) ∧
      after = { store with locks := after.locks } := by
  have failed : (store.locked request).pin request.page = (.error error, store.locked request) := by
    have again : (store.locked request).readPage request.page = .error error :=
      (readPage_congr rfl rfl).trans unread
    exact pin_of_unreadable absent again
  cases attempt_cases run with
  | pins granted pinned => cases failed.symm.trans pinned
  | fails granted unpinned =>
      cases failed.symm.trans unpinned
      obtain ⟨locks, given⟩ := giveBack_relocked (store.locked request) request error
      rw [given]
      exact ⟨nofun, rfl⟩
  | waits refused free => exact ⟨nofun, rfl⟩
  | deadlock refused circle => exact ⟨nofun, rfl⟩

/-- With the last number the table gets as many pages as there are numbers, and then none
of them can be read. -/
theorem Sound.append_last (sound : store.Sound)
    (registered : store.catalog.tables.get? table.id = some table)
    (last : table.wholePages store.disk + 1 = 2 ^ 32) (row : Row) :
    ∃ grown, Insertion.append table txn row store =
        (.ok (Insertion.askFor table txn row 0 (store.nextPage table) grown), grown) ∧
      grown = { store with disk := grown.disk } ∧ grown.Sound ∧ grown.Lost table.id ∧
      grown.frames.get? (store.nextPage table) = none ∧
      grown.readPage (store.nextPage table) = .error (.pageNotFound (store.nextPage table)) := by
  have sized : 0 < table.pageSize := Table.sized_of_wholePages (show 0 < table.wholePages store.disk by omega)
  have buffered : ¬ table.Unbuffered store.disk := by
    rintro ⟨-, none⟩
    omega
  obtain ⟨content, allocated, count, -⟩ :=
    Table.allocatePage_of_sized sized buffered (by omega : table.wholePages store.disk < 2 ^ 32)
  let grown : Store := { store with disk := store.disk.insert table.file content }
  have run : Insertion.append table txn row store =
      (.ok (Insertion.askFor table txn row 0 (store.nextPage table) grown), grown) := by
    simp only [Insertion.append, allocated]
    rfl
  have lost : grown.Lost table.id := ⟨table, registered, count.trans last⟩
  have kept : ¬ store.Lost (store.nextPage table).table := kept_of_few registered (by omega)
  have overflows : Overflows store grown table := sound.append_loses registered (count.trans last)
  have grownSound : grown.Sound := (overflows.reaches fun _ => True).sound
  refine ⟨grown, run, rfl, grownSound, lost, ?_, ?_⟩
  · exact Option.map_eq_none_iff.mp
      (sound.uncached_of_missing kept (nextPage_missing registered sized))
  · exact readPage_of_unstored (grownSound.stored_of_lost lost)

/-- If no number is left for a new page, the row does not get onto it. -/
theorem Sound.append_beyond (sound : store.Sound) (addressable : store.Addressable)
    (registered : store.catalog.tables.get? table.id = some table)
    (last : ¬ table.wholePages store.disk + 1 < 2 ^ 32) (row : Row) :
    ∃ task grown, Insertion.append table txn row store = (.ok task, grown) ∧
      ∀ limit result after, Step.repeat Insertion.step (limit + 1) task grown = (result, after) →
        ¬ after.Addressable ∧ (∀ inserted, result ≠ .finished (.ok inserted)) ∧
          ∀ error, result = .finished (.error error) → ∃ (middle : Store) (request : PageRequest),
            middle.attempt request = (.finished (.error error), after) := by
  have small := addressable _ _ registered
  obtain ⟨grown, run, -, -, lost, absent, unread⟩ :=
    sound.append_last registered (by omega) row
  refine ⟨_, grown, run, ?_⟩
  intro limit result after stepped
  rcases attempt : grown.attempt (grown.request txn (store.nextPage table) .exclusive) with
    ⟨answer, got⟩
  obtain ⟨refused, same⟩ := attempt_of_unreadable absent unread attempt
  have beyond : ¬ got.Addressable := by
    rw [same]
    exact fun addressable => addressable.kept table.id lost
  cases answer with
  | waiting next =>
      simp only [Step.repeat, Insertion.step, Insertion.askFor, attempt] at stepped
      cases stepped
      refine ⟨beyond, ?_, ?_⟩ <;> rintro _ ⟨⟩
  | finished result =>
      cases result with
      | error error =>
          simp only [Step.repeat, Insertion.step, Insertion.askFor, attempt] at stepped
          cases stepped
          refine ⟨beyond, ?_, ?_⟩ <;> rintro _ ⟨⟩
          exact ⟨grown, _, attempt⟩
      | ok handle => exact absurd rfl (refused handle)

/-! ## Whole insertions -/

/-- How an insertion ends: its row does not fit the table, no page can be made for it, it is
refused a page, a page cannot be fetched, the row is in the first free slot of the first page that has one, or in
the first slot of a new page behind full ones, or there are more pages than numbers. -/
inductive InsertionEnds (store : Store) (table : Table) (txn : TxnId) (row : Row) :
    Progress Insertion (Except StoreError Inserted) → Store → Prop
  | mismatched (unlike : row.schema.alike table.schema = false) :
      InsertionEnds store table txn row
        (.finished (.error (.schemaMismatch (.tableSchema row.schema table.schema)))) store
  | fatal {fault : IoFault} (fatal : fault.isFatal = true)
      (unfit : table.pageSize = 0 ∨ table.Unbuffered store.disk) :
      InsertionEnds store table txn row (.finished (.error (.io fault))) store
  | waits {task : Insertion} {middle after : Store} (nears : store.Nears table after)
      (refused : middle.attempt task.request = (.waiting task.request, after)) :
      InsertionEnds store table txn row (.waiting task) after
  | fails {request : PageRequest} {error : StoreError} {middle after : Store}
      (nears : store.Nears table after)
      (failed : middle.attempt request = (.finished (.error error), after)) :
      InsertionEnds store table txn row (.finished (.error error)) after
  | found {number slot : Nat} {contents : Contents} {after : Store}
      (inside : number < table.wholePages store.disk)
      (full : ∀ earlier < number, store.Full (table.page (UInt32.ofNat earlier)))
      (free : contents.findIdx? Option.isNone = some slot)
      (numbered : (UInt16.ofNat slot).toNat = slot)
      (alters : store.Alters after txn
        ⟨table.page (UInt32.ofNat number), slot, some row.values⟩ contents) :
      InsertionEnds store table txn row (.finished (.ok ⟨row.placeAt
        (some ⟨table.page (UInt32.ofNat number), UInt16.ofNat slot⟩),
        table.page (UInt32.ofNat number)⟩)) after
  | behind {grown after : Store} {contents : Contents}
      (full : ∀ number < table.wholePages store.disk,
        store.Full (table.page (UInt32.ofNat number)))
      (extended : store.Extended grown table)
      (alters : grown.Alters after txn ⟨store.nextPage table, 0, some row.values⟩ contents) :
      InsertionEnds store table txn row (.finished (.ok ⟨row.placeAt
        (some ⟨store.nextPage table, 0⟩), store.nextPage table⟩)) after
  | beyond {result : Progress Insertion (Except StoreError Inserted)} {after : Store}
      (unnumbered : ¬ after.Addressable)
      (unplaced : ∀ inserted, result ≠ .finished (.ok inserted))
      (failed : ∀ error, result = .finished (.error error) → ∃ (middle : Store)
        (request : PageRequest), middle.attempt request = (.finished (.error error), after)) :
      InsertionEnds store table txn row result after

section

variable {result : Progress Insertion (Except StoreError Inserted)} {limit : Nat}
  (registered : store.catalog.tables.get? table.id = some table) (sized : 0 < table.pageSize)
  (fits : row.schema.alike table.schema = true)

include registered sized fits

theorem Alike.putBehind (alike : Alike store middle) (buffered : ¬ table.Unbuffered store.disk)
    (full : ∀ number < table.wholePages store.disk,
      store.Full (table.page (UInt32.ofNat number))) :
    ∃ task grown, Insertion.append table txn row middle = (.ok task, grown) ∧
      ∀ limit result after, Step.repeat Insertion.step (limit + 1) task grown = (result, after) →
        InsertionEnds store table txn row result after := by
  have known : middle.catalog.tables.get? table.id = some table := alike.catalog ▸ registered
  have unrefused : ¬ table.Unbuffered middle.disk := by
    rw [Table.Unbuffered, alike.counts _ _ registered]
    exact buffered
  by_cases room : table.wholePages middle.disk + 1 < 2 ^ 32
  · obtain ⟨grown, appended, appends⟩ := alike.sound.append_few known sized unrefused room row
    have extended := alike.extended registered appends
    rw [alike.nextPage registered] at appended
    refine ⟨_, grown, appended, ?_⟩
    intro limit result after run
    have here : (grown.pageState (store.nextPage table)).look = _ := extended.look _
    rw [if_pos rfl] at here
    rw [Step.repeat] at run
    have timely : (Insertion.askFor table txn row 0 (store.nextPage table) grown).request.Timely
        grown txn := ⟨rfl, rfl⟩
    have own : grown.catalog.tables.get? table.id = some table := extended.catalog ▸ registered
    have begun := extended.backed.alike extended.sound extended.addressable
    rcases begun.tries timely rfl own fits with
      ⟨got, refused, step⟩ | ⟨error, got, failed, step⟩ |
      ⟨contents, slot, got, free, -, alters, step⟩ | ⟨got, ⟨contents, seen, taken⟩, -⟩
    · rw [step] at run
      cases run
      exact .waits ((Nears.extended extended).attempted registered timely refused) refused
    · rw [step] at run
      cases run
      exact .fails ((Nears.extended extended).attempted registered timely failed) failed
    · have empty := Page.firstFree_empty (here.symm.trans alters.before)
      obtain rfl : slot = 0 := Option.some.inj (free.symm.trans empty)
      rw [step] at run
      cases run
      exact .behind full extended alters
    · cases taken.symm.trans (Page.firstFree_empty (here.symm.trans seen))
  · obtain ⟨task, grown, appended, beyond⟩ :=
      alike.sound.append_beyond alike.addressable known room row
    refine ⟨task, grown, appended, ?_⟩
    intro limit result after run
    obtain ⟨unnumbered, unplaced, failed⟩ := beyond limit result after run
    exact .beyond unnumbered unplaced failed

theorem Alike.putFrom (small : table.wholePages store.disk < 2 ^ 32) (left : Nat) {number : Nat}
    {middle : Store} (alike : Alike store middle)
    (full : ∀ earlier < number, store.Full (table.page (UInt32.ofNat earlier)))
    (counted : number + left + 1 = table.wholePages store.disk) {limit : Nat}
    (enough : left + 2 ≤ limit)
    (run : Step.repeat Insertion.step limit (Insertion.askFor table txn row
      (table.wholePages store.disk) (table.page (UInt32.ofNat number)) middle) middle =
        (result, after)) :
    InsertionEnds store table txn row result after := by
  obtain ⟨rest, rfl⟩ : ∃ rest, limit = rest + 1 := ⟨limit - 1, by omega⟩
  rw [Step.repeat] at run
  have timely : (Insertion.askFor table txn row (table.wholePages store.disk)
      (table.page (UInt32.ofNat number)) middle).request.Timely middle txn := ⟨rfl, rfl⟩
  rcases alike.tries timely rfl registered fits with
    ⟨got, refused, step⟩ | ⟨error, got, failed, step⟩ |
    ⟨contents, slot, got, free, numbered, alters, step⟩ | ⟨freed, taken, same, step⟩
  · rw [step] at run
    cases run
    exact .waits ((Nears.alike alike).attempted registered timely refused) refused
  · rw [step] at run
    cases run
    exact .fails ((Nears.alike alike).attempted registered timely failed) failed
  · rw [step] at run
    cases run
    exact .found (by omega) full free numbered alters
  · have taller : ∀ earlier < number + 1, store.Full (table.page (UInt32.ofNat earlier)) := by
      intro earlier before
      rcases Nat.lt_succ_iff_lt_or_eq.mp before with less | rfl
      · exact full earlier less
      · exact taken
    rw [step, goOn_askFor (by omega)] at run
    cases left with
    | zero =>
        have buffered : ¬ table.Unbuffered store.disk := fun unbuffered => by
          have none := unbuffered.2
          omega
        obtain ⟨task, grown, appended, done⟩ := same.putBehind registered sized fits buffered
          fun number inside => taller number (by omega)
        obtain ⟨more, rfl⟩ : ∃ more, rest = more + 1 := ⟨rest - 1, by omega⟩
        rw [if_neg (by omega), appended] at run
        exact done more result after run
    | succ left =>
        rw [if_pos (by omega)] at run
        exact putFrom small left same taller (by omega) (by omega) run

end

/-- Whatever other transactions do meanwhile to their pages, every insertion ends in one
of these ways. -/
theorem Backed.insertion (backed : store.Backed) (sound : store.Sound)
    (addressable : store.Addressable)
    (registered : store.catalog.tables.get? table.id = some table)
    {result : Progress Insertion (Except StoreError Inserted)}
    (run : Insertion.run table txn row store = (result, after)) :
    InsertionEnds store table txn row result after := by
  have alike := backed.alike sound addressable
  have small := addressable _ _ registered
  have enough := wholePages_le_stepLimit store table
  rw [Insertion.run, Insertion.start] at run
  cases fits : row.schema.alike table.schema with
  | false =>
      rw [fits] at run
      cases run
      exact .mismatched fits
  | true =>
      rw [if_pos fits] at run
      rcases Nat.eq_zero_or_pos table.pageSize with unsized | sized
      · rw [Table.pageCount_of_unsized unsized] at run
        cases run
        exact .fatal rfl (.inl unsized)
      · have counted : (UInt32.ofNat (table.wholePages store.disk)).toNat =
            table.wholePages store.disk := by
          rw [UInt32.toNat_ofNat', Nat.mod_eq_of_lt small]
        rw [Table.pageCount_eq sized] at run
        simp only [UInt32.lt_iff_toNat_lt, counted] at run
        cases pages : table.wholePages store.disk with
        | zero =>
            rw [if_neg (by rw [pages]; exact Nat.lt_irrefl 0)] at run
            by_cases unbuffered : table.Unbuffered store.disk
            · simp only [Insertion.append, Table.allocatePage_of_unbuffered sized unbuffered] at run
              cases run
              exact .fatal rfl (.inr unbuffered)
            obtain ⟨task, grown, appended, done⟩ : ∃ task grown,
                Insertion.append table txn row store = (.ok task, grown) ∧ _ :=
              alike.putBehind registered sized fits unbuffered
                fun number inside => absurd inside (by omega)
            obtain ⟨limit, same⟩ : ∃ limit, grown.stepLimit = limit + 1 :=
              ⟨grown.stepLimit - 1, by have := wholePages_le_stepLimit grown table; omega⟩
            rw [appended] at run
            simp only [Insertion.resume, same] at run
            exact done limit result after run
        | succ left =>
            rw [if_pos (by rw [pages]; exact Nat.succ_pos left)] at run
            exact alike.putFrom registered sized fits small left
              (fun earlier before => absurd before (Nat.not_lt_zero earlier)) (by omega)
              (by omega) run

end TableStore.Store
