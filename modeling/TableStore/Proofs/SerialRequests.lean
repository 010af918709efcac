import Mathlib.Algebra.Order.BigOperators.Group.List
import Mathlib.Algebra.Order.Group.Nat
import TableStore.Proofs.SerialChanges

/-!
# Requests of a transaction that is alone

Every request of a transaction that is alone is answered, and answered as on
plain tables.  It looks at one page after the other, during which pages leave the
cache and others are loaded, and changes at most the page that it looked at last.
-/

set_option autoImplicit false

namespace TableStore.Store

variable {store middle fetched after : Store} {id : PageId} {txn : TxnId} {handle : Handle}
  {handles : List Handle} {tables later : Tables} {table : Table} {contents : Contents}

/-! ## Stages of a request -/

/-- A request has come from the first store to the second without a change of a
page; a new page may have been appended. -/
structure Passed (txn : TxnId) (store : Store) (tables : Tables) (after : Store)
    (handles : List Handle) (later : Tables) : Prop where
  serial : Serial after txn handles later
  ages : Ages store after
  grows : tables.Extends later

/-- A request leads from the first store to the second as from the first tables to
the later ones. -/
structure Served (txn : TxnId) (store : Store) (tables : Tables) (after : Store)
    (later : Tables) : Prop where
  serial : Serial after txn [] later
  catalog : after.catalog = store.catalog
  returns : Returns store tables → Retains txn store after → Returns after later

theorem Serial.passed (serial : Serial store txn [] tables) : Passed txn store tables store [] tables :=
  ⟨serial, .refl store, .refl tables⟩

theorem Passed.got (passed : Passed txn store tables middle [] later)
    (got : Got middle after handle contents later) (own : handle.owner = txn) :
    Passed txn store tables after [handle] later :=
  ⟨own ▸ got.serial, passed.ages.trans got.ages, passed.grows⟩

theorem Passed.unpin (passed : Passed txn store tables fetched (handle :: handles) later) :
    Passed txn store tables (fetched.unpin handle) handles later :=
  ⟨passed.serial.unpin.1, passed.ages.trans passed.serial.unpin.2.ages, passed.grows⟩

theorem Serial.served (serial : Serial store txn [] tables)
    (passed : Passed txn store tables after [] later) : Served txn store tables after later where
  serial := passed.serial
  catalog := passed.ages.catalog
  returns returns retains := returns.ages serial passed.ages retains passed.grows

theorem Serial.served_change (serial : Serial store txn [] tables) {change : Change}
    (passed : Passed txn store tables fetched [handle] later)
    (changes : Changes fetched after txn change)
    (frame : ∃ frame, fetched.frames.get? change.page = some frame ∧ frame.page.contents = contents)
    (exclusive : fetched.locks.mode? txn change.page = some .exclusive) :
    Served txn store tables (after.unpin handle) (later.edit contents change) := by
  have changed := passed.serial.changed changes frame exclusive
  obtain ⟨unpinned, same⟩ := changed.unpin
  refine ⟨unpinned, ?_, fun returns retains => ?_⟩
  · rw [same.catalog, changes.catalog, passed.ages.catalog]
  · have serials (id : PageId) : ((after.unpin handle).frames.get? id).map Frame.serial =
        (fetched.frames.get? id).map Frame.serial := by
      have hold := congrArg (Option.map Prod.snd) (changes.hold id)
      rw [Option.map_map, Option.map_map] at hold
      exact (same.serials id).trans hold
    have before := returns.ages serial passed.ages (retains.of_serials serials) passed.grows
    have here := before.changed passed.serial changes frame
    intro id
    rw [same.states]
    exact here id

theorem Serial.small (serial : Serial store txn handles tables)
    (registered : store.catalog.tables.get? table.id = some table) :
    tables.count table.id < 2 ^ 32 := by
  rw [← serial.count _ _ registered]
  exact serial.addressable _ _ registered

theorem Serial.unbuffered (serial : Serial store txn handles tables)
    (registered : store.catalog.tables.get? table.id = some table) :
    table.Unbuffered store.disk ↔ tables.Unbuffered table := by
  rw [Table.Unbuffered, serial.count _ _ registered, Tables.Unbuffered]

/-! ## Insertions -/

variable {task : Insertion}

/-- An insertion tries a page: the page cannot be read, or has a free slot for the
row, or is full, and then the insertion goes on. -/
theorem Passed.try (begun : Serial store txn [] tables)
    (passed : Passed txn store tables middle [] later)
    (timely : task.request.Timely middle txn) (exclusive : task.request.mode = .exclusive)
    (registered : middle.catalog.tables.get? task.request.page.table = some table)
    (alike : task.row.schema.alike table.schema = true) :
    (∃ error after, later.page task.request.page = .error error ∧
      task.step middle = (.finished (.error error), after) ∧
        Served txn store tables after later) ∨
    ∃ contents, later.page task.request.page = .ok contents ∧
      ((∃ slot inserted after, contents.findIdx? Option.isNone = some slot ∧
        task.step middle = (.finished (.ok inserted), after) ∧
        inserted.row.entry =
          (some ⟨task.request.page, UInt16.ofNat slot⟩, task.row.values) ∧
        Served txn store tables after
          (later.edit contents ⟨task.request.page, slot, some task.row.values⟩)) ∨
      ∃ after, contents.findIdx? Option.isNone = none ∧
        Passed txn store tables after [] later ∧
        task.step middle = match task.goOn after with
          | (.ok next, store) => (.again next, store)
          | (.error error, store) => (.finished (.error error), store)) := by
  obtain ⟨fails, works⟩ := passed.serial.attempt timely
  cases seen : later.page task.request.page with
  | error error =>
      obtain ⟨after, run, serial, ages⟩ := fails error seen
      refine .inl ⟨error, after, rfl, ?_, begun.served ⟨serial, passed.ages.trans ages, passed.grows⟩⟩
      simp only [Insertion.step, run]
  | ok contents =>
      obtain ⟨number, got, run, granted, locked⟩ := works contents seen
      obtain ⟨frame, found, same, content⟩ := granted.frame
      have reached := passed.got granted rfl
      have mode := locked exclusive
      refine .inr ⟨contents, rfl, ?_⟩
      rcases reached.serial.sound.place task.row _ found same with
        ⟨full, placed⟩ | ⟨strange, -⟩ | ⟨slot, free, numbered, placed, changes⟩
      · exact .inr ⟨_, content ▸ full, reached.unpin, step_of_full run placed⟩
      · have cached : got.cached? task.request.page = some frame.page := cached?_of_frame found
        obtain ⟨⟨own, known, fits⟩, -⟩ := reached.serial.sound.page _ _ cached
        rw [granted.ages.catalog] at known
        cases known.symm.trans registered
        rw [fits.schema, alike] at strange
        cases strange
      · rw [content] at free
        refine .inl ⟨slot, _, _, free, step_of_placed run (Prod.ext placed rfl), rfl, ?_⟩
        exact begun.served_change reached changes ⟨frame, found, content⟩ mode

theorem Passed.roomy (passed : Passed txn store tables middle handles tables) (roomy : store.Roomy)
    (begun : Serial store txn [] tables) : middle.Roomy := by
  intro id table found
  rw [passed.serial.count id table found]
  rw [passed.ages.catalog] at found
  rw [← begun.count id table found]
  exact roomy id table found

theorem firstFree_grow {contents : Contents}
    (seen : (tables.grow table).page (tables.next table) = .ok contents) :
    contents.findIdx? Option.isNone = some 0 := by
  simp only [Tables.grow, if_true] at seen
  exact Page.firstFree_empty seen

section

variable {row : Row} (begun : Serial store txn [] tables)
  (registered : store.catalog.tables.get? table.id = some table) (sized : 0 < table.pageSize)
  (alike : row.schema.alike table.schema = true) (roomy : store.Roomy)

include begun registered sized alike roomy

theorem Passed.putBehind (passed : Passed txn store tables middle [] tables)
    (buffered : ¬ tables.Unbuffered table) :
    ∃ task grown, Insertion.append table txn row middle = (.ok task, grown) ∧
      ∀ limit, ∃ result after, Step.repeat Insertion.step (limit + 1) task grown =
          (.finished result, after) ∧
        result.map (fun inserted => inserted.row.entry) =
          (tables.putBehind table row.values).1 ∧
        Served txn store tables after (tables.putBehind table row.values).2 := by
  have known : middle.catalog.tables.get? table.id = some table :=
    passed.ages.catalog ▸ registered
  have room : middle.Roomy := passed.roomy roomy begun
  have longer : ¬ table.Unbuffered middle.disk :=
    fun unbuffered => buffered ((passed.serial.unbuffered known).mp unbuffered)
  obtain ⟨grown, appended, appends⟩ : ∃ grown, Insertion.append table txn row middle =
      (.ok (Insertion.askFor table txn row 0 (middle.nextPage table) grown), grown) ∧ _ :=
    passed.serial.sound.append_few known sized longer (room _ _ known) row
  have next : middle.nextPage table = tables.next table := passed.serial.nextPage known
  have catalog : grown.catalog = middle.catalog := by rw [appends.disk]
  have grownPassed : Passed txn store tables grown [] (tables.grow table) :=
    ⟨passed.serial.append known appends, passed.ages.trans appends.ages,
      passed.serial.extends known appends⟩
  rw [next] at appended
  refine ⟨_, grown, appended, fun limit => ?_⟩
  have timely : (Insertion.askFor table txn row 0 (tables.next table) grown).request.Timely
      grown txn := ⟨rfl, rfl⟩
  rw [Tables.putBehind, if_neg buffered, Step.repeat]
  rcases grownPassed.try begun timely rfl (catalog ▸ known) alike with
    ⟨error, after, missing, step, served⟩ | ⟨contents, seen, ⟨slot, inserted, after, free, step,
      entry, served⟩ | ⟨after, full, -, -⟩⟩
  · change (tables.grow table).page (tables.next table) = _ at missing
    rw [step, missing]
    exact ⟨.error error, after, rfl, rfl, served⟩
  · change (tables.grow table).page (tables.next table) = _ at seen
    obtain rfl : slot = 0 := Option.some.inj (free.symm.trans (firstFree_grow seen))
    rw [step, seen]
    exact ⟨.ok inserted, after, rfl, congrArg Except.ok entry, served⟩
  · cases full.symm.trans (firstFree_grow seen)

theorem Passed.putFrom (left : Nat) {number : Nat} {middle : Store}
    (passed : Passed txn store tables middle [] tables)
    (counted : number + left + 1 = tables.count table.id) {limit : Nat} (enough : left + 2 ≤ limit) :
    ∃ result after, Step.repeat Insertion.step limit (Insertion.askFor table txn row
          (tables.count table.id) (table.page (UInt32.ofNat number)) middle) middle =
        (.finished result, after) ∧
      result.map (fun inserted => inserted.row.entry) =
        (tables.putFrom table row.values (left + 1) number).1 ∧
      Served txn store tables after (tables.putFrom table row.values (left + 1) number).2 := by
  have small := begun.small registered
  obtain ⟨rest, rfl⟩ : ∃ rest, limit = rest + 1 := ⟨limit - 1, by omega⟩
  have timely : (Insertion.askFor table txn row (tables.count table.id)
      (table.page (UInt32.ofNat number)) middle).request.Timely middle txn := ⟨rfl, rfl⟩
  rw [Tables.putFrom, Step.repeat]
  rcases passed.try begun timely rfl (passed.ages.catalog ▸ registered) alike with
    ⟨error, after, missing, step, served⟩ | ⟨contents, seen, ⟨slot, inserted, after, free, step,
      entry, served⟩ | ⟨free, full, freed, step⟩⟩
  · change tables.page (table.page (UInt32.ofNat number)) = _ at missing
    rw [step]
    simp only [missing]
    exact ⟨.error error, after, rfl, rfl, served⟩
  · change tables.page (table.page (UInt32.ofNat number)) = _ at seen
    rw [step]
    simp only [seen, free]
    exact ⟨.ok inserted, after, rfl, congrArg Except.ok entry, served⟩
  · change tables.page (table.page (UInt32.ofNat number)) = _ at seen
    rw [step]
    simp only [seen, full]
    rw [goOn_askFor (by omega)]
    cases left with
    | zero =>
        have buffered : ¬ tables.Unbuffered table := fun unbuffered => by
          have none := unbuffered.2
          omega
        obtain ⟨task, grown, appended, done⟩ :=
          freed.putBehind begun registered sized alike roomy buffered
        obtain ⟨more, rfl⟩ : ∃ more, rest = more + 1 := ⟨rest - 1, by omega⟩
        rw [if_neg (by omega), appended]
        exact done more
    | succ left =>
        rw [if_pos (by omega)]
        exact putFrom left freed (by omega) (by omega)

end

theorem wholePages_le_stepLimit (store : Store) (table : Table) :
    2 * table.wholePages store.disk + 4 ≤ store.stepLimit := by
  have bytes : table.wholePages store.disk ≤
      (store.disk.values.map FileBytes.length).foldr (· + ·) 0 := by
    apply Nat.le_trans (Nat.div_le_self _ _)
    rw [Table.pages]
    cases found : store.disk.get? table.file with
    | none => exact Nat.zero_le _
    | some content =>
        refine List.le_sum_of_mem (List.mem_map.mpr ⟨content, ?_, rfl⟩)
        exact List.mem_map.mpr ⟨_, SortedMap.mem_entries_iff.mpr found, rfl⟩
  rw [Store.stepLimit]
  omega

theorem Serial.toNat_count (serial : Serial store txn handles tables)
    (registered : store.catalog.tables.get? table.id = some table) :
    (UInt32.ofNat (table.wholePages store.disk)).toNat = tables.count table.id := by
  rw [UInt32.toNat_ofNat', Nat.mod_eq_of_lt (serial.addressable _ _ registered),
    serial.count _ _ registered]

/-- An insertion into a table with pages begins with the first one. -/
theorem Serial.start_of_paged {row : Row} (begun : Serial store txn [] tables)
    (registered : store.catalog.tables.get? table.id = some table)
    (paged : 0 < tables.count table.id) (alike : row.schema.alike table.schema = true)
    (asker : TxnId) : Insertion.start table asker row store =
      (.ok (Insertion.askFor table asker row (tables.count table.id) (table.page 0) store),
        store) := by
  have counted := begun.toNat_count registered
  have whole := begun.count _ _ registered
  have sized : 0 < table.pageSize := Table.sized_of_wholePages (whole ▸ paged)
  have some : 0 < UInt32.ofNat (table.wholePages store.disk) := by
    rw [UInt32.lt_iff_toNat_lt, counted]
    exact paged
  simp only [Insertion.start, alike, if_true, Table.pageCount_eq sized, some, counted]

theorem Serial.insert (begun : Serial store txn [] tables)
    (registered : store.catalog.tables.get? table.id = some table) (roomy : store.Roomy)
    (row : Row) :
    ∃ result after, Insertion.run table txn row store = (.finished result, after) ∧
      result.map (fun inserted => inserted.row.entry) = (tables.insert table row).1 ∧
      Served txn store tables after (tables.insert table row).2 := by
  rw [Insertion.run, Insertion.start, Tables.insert]
  by_cases alike : row.schema.alike table.schema = true
  · rw [if_pos alike, if_pos alike]
    rcases Nat.eq_zero_or_pos table.pageSize with unsized | sized
    · rw [Table.pageCount_of_unsized unsized, if_pos unsized]
      exact ⟨_, store, rfl, rfl, begun.served begun.passed⟩
    · rw [Table.pageCount_eq sized, if_neg (Nat.ne_of_gt sized)]
      have counted := begun.toNat_count registered
      have limit := wholePages_le_stepLimit store table
      rw [begun.count _ _ registered] at limit
      simp only [UInt32.lt_iff_toNat_lt, counted]
      cases some : tables.count table.id with
      | zero =>
          rw [if_neg (by simp)]
          by_cases unbuffered : tables.Unbuffered table
          · have refused := Table.allocatePage_of_unbuffered sized
              ((begun.unbuffered registered).mpr unbuffered)
            rw [Tables.putFrom, Tables.putBehind, if_pos unbuffered, Insertion.append, refused]
            exact ⟨_, store, rfl, rfl, begun.served begun.passed⟩
          · obtain ⟨task, grown, appended, done⟩ :=
              begun.passed.putBehind begun registered sized alike roomy unbuffered
            rw [appended]
            simp only [Insertion.resume]
            obtain ⟨limit, more⟩ : ∃ limit, grown.stepLimit = limit + 1 := ⟨_, rfl⟩
            rw [more]
            exact done limit
      | succ left =>
          rw [if_pos (by simp)]
          simp only [Insertion.resume]
          rw [← some]
          have done := begun.passed.putFrom begun registered sized alike roomy left
            (show 0 + left + 1 = tables.count table.id by omega)
            (show left + 2 ≤ store.stepLimit by omega)
          rw [some] at done ⊢
          exact done
  · rw [if_neg alike, if_neg alike]
    exact ⟨_, store, rfl, rfl, begun.served begun.passed⟩

/-! ## Deletions -/

theorem Serial.delete (begun : Serial store txn [] tables)
    (registered : store.catalog.tables.get? table.id = some table) {row : Row}
    {location : Location} (placed : row.location = some location)
    (own : location.page.table = table.id) :
    ∃ after, Deletion.run table txn row store =
        (.finished (tables.delete table location).1, after) ∧
      Served txn store tables after (tables.delete table location).2 := by
  rw [Deletion.run, Deletion.start, placed, Tables.delete]
  simp only [own, if_true]
  rcases Nat.eq_zero_or_pos table.pageSize with unsized | sized
  · rw [Table.pageCount_of_unsized unsized, if_pos unsized]
    exact ⟨store, rfl, begun.served begun.passed⟩
  · rw [Table.pageCount_eq sized, if_neg (Nat.ne_of_gt sized)]
    simp only [bind, Except.bind, UInt32.lt_iff_toNat_lt, begun.toNat_count registered]
    by_cases inside : location.page.number.toNat < tables.count table.id
    · simp only [if_pos inside, pure, Except.pure]
      let task : Deletion := ⟨row, store.request txn location.page .exclusive⟩
      have timely : task.request.Timely store txn := ⟨rfl, rfl⟩
      obtain ⟨fails, works⟩ := begun.attempt timely
      change ∃ after, task.resume store = _ ∧ _
      cases seen : tables.page location.page with
      | error error =>
          obtain ⟨after, run, serial, ages⟩ := fails error seen
          refine ⟨after, ?_, begun.served ⟨serial, ages, .refl tables⟩⟩
          simp only [Deletion.resume, run]
      | ok contents =>
          obtain ⟨number, got, run, granted, locked⟩ := works contents seen
          obtain ⟨frame, found, same, content⟩ := granted.frame
          have reached := begun.passed.got granted rfl
          rcases reached.serial.sound.remove row _ found same with
            ⟨removed, unused⟩ | ⟨other, values, again, here, used, removed, changes⟩
          · have free (values : List Value) :
                contents[location.slot.toNat]? ≠ some (some values) := by
              rw [← content]
              exact unused location values placed rfl
            rw [resume_of_removed run removed, placed]
            dsimp only
            rcases used : contents[location.slot.toNat]? with _ | _ | values
            · exact ⟨_, rfl, begun.served reached.unpin⟩
            · exact ⟨_, rfl, begun.served reached.unpin⟩
            · exact absurd used (free values)
          · cases placed.symm.trans again
            rw [content] at used
            dsimp only
            rw [resume_of_removed run (Prod.ext removed rfl), used]
            exact ⟨_, rfl, begun.served_change reached changes ⟨frame, found, content⟩ (locked rfl)⟩
    · simp only [if_neg inside]
      exact ⟨store, rfl, begun.served begun.passed⟩

/-! ## Scans -/

theorem step_take (table : Table) (txn : TxnId) (number : Nat) {request : PageRequest}
    {got : Store} {frame : Frame}
    (run : store.attempt request = (.finished (.ok handle), got)) (sound : got.Sound)
    (found : got.frames.get? handle.page = some frame) (serial : frame.serial = handle.serial) :
    ∃ rows, Seek.step ⟨⟨table, txn, UInt32.ofNat number, [], true⟩, some request⟩ store =
        (.again ⟨⟨table, txn, UInt32.ofNat (number + 1), rows, true⟩, none⟩, got.unpin handle) ∧
      rows.map Row.entry = frame.page.contents.rows handle.page := by
  have next : UInt32.ofNat number + 1 = UInt32.ofNat (number + 1) :=
    (UInt32.ofNat_add number 1).symm
  refine ⟨frame.page.rows, ?_, ?_⟩
  · simp only [Seek.step, run, Seek.take, pageOf?_of_frame found serial, Option.map_some,
      Option.getD_some, next, List.nil_append]
  · obtain ⟨⟨own, -, fits⟩, -⟩ := sound.page _ _ (cached?_of_frame found)
    rw [fits.sound.entries, fits.id]

theorem step_choose {number count : Nat} (sized : 0 < table.pageSize)
    (counted : table.wholePages store.disk = count) (small : count < 2 ^ 32)
    (within : number ≤ count) :
    Seek.step ⟨⟨table, txn, UInt32.ofNat number, [], true⟩, none⟩ store =
      if number < count then
        (.again ⟨⟨table, txn, UInt32.ofNat number, [], true⟩,
          some (store.request txn (table.page (UInt32.ofNat number)) .shared)⟩, store)
      else (.finished ⟨.ok false, ⟨table, txn, UInt32.ofNat number, [], true⟩⟩, store) := by
  have numbered : (UInt32.ofNat number).toNat = number := by
    rw [UInt32.toNat_ofNat', Nat.mod_eq_of_lt (by omega)]
  have total : (UInt32.ofNat (table.wholePages store.disk)).toNat = count := by
    rw [counted, UInt32.toNat_ofNat', Nat.mod_eq_of_lt small]
  rcases choose_cases ⟨table, txn, UInt32.ofNat number, [], true⟩ store with
    ⟨full, -⟩ | ⟨-, ⟨error, failed, -⟩ | ⟨count, known, rest⟩⟩
  · exact absurd rfl full
  · cases failed.symm.trans (Table.pageCount_eq sized)
  · cases known.symm.trans (Table.pageCount_eq sized)
    simp only [UInt32.lt_iff_toNat_lt, total, numbered] at rest
    rcases rest with ⟨more, chosen⟩ | ⟨done, chosen⟩
    · rw [if_pos more]
      simp only [Seek.step, chosen]
    · rw [if_neg done]
      simp only [Seek.step, chosen]

theorem Passed.take {number : Nat} (passed : Passed txn store tables middle [] tables)
    (seen : tables.page (table.page (UInt32.ofNat number)) = .ok contents) :
    ∃ rows after, Seek.step ⟨⟨table, txn, UInt32.ofNat number, [], true⟩,
          some (middle.request txn (table.page (UInt32.ofNat number)) .shared)⟩ middle =
        (.again ⟨⟨table, txn, UInt32.ofNat (number + 1), rows, true⟩, none⟩, after) ∧
      rows.map Row.entry = contents.rows (table.page (UInt32.ofNat number)) ∧
      Passed txn store tables after [] tables := by
  let request := middle.request txn (table.page (UInt32.ofNat number)) .shared
  have timely : request.Timely middle txn := ⟨rfl, rfl⟩
  obtain ⟨serial, got, run, granted, -⟩ := (passed.serial.attempt timely).2 contents seen
  obtain ⟨frame, found, same, content⟩ := granted.frame
  have reached := passed.got granted rfl
  obtain ⟨rows, taken, entries⟩ := step_take table txn number run reached.serial.sound found same
  exact ⟨rows, _, taken, content ▸ entries, reached.unpin⟩

theorem Passed.choose {number left : Nat} (begun : Serial store txn [] tables)
    (registered : store.catalog.tables.get? table.id = some table) (sized : 0 < table.pageSize)
    (passed : Passed txn store tables middle [] tables)
    (counted : number + left = tables.count table.id) :
    Seek.step ⟨⟨table, txn, UInt32.ofNat number, [], true⟩, none⟩ middle =
      if number < tables.count table.id then
        (.again ⟨⟨table, txn, UInt32.ofNat number, [], true⟩,
          some (middle.request txn (table.page (UInt32.ofNat number)) .shared)⟩, middle)
      else (.finished ⟨.ok false, ⟨table, txn, UInt32.ofNat number, [], true⟩⟩, middle) := by
  have known : middle.catalog.tables.get? table.id = some table := passed.ages.catalog ▸ registered
  exact step_choose sized (passed.serial.count _ _ known) (begun.small registered)
    (Nat.le.intro counted)

theorem scan_flush (rows : List Row) (cursor : Cursor) (store : Store) (limit : Nat) :
    ∃ more, limit ≤ more ∧
      Step.repeat Scan.step (limit + 1) ⟨rows, ⟨cursor, none⟩⟩ store =
        Step.repeat Scan.step more
          ⟨rows ++ cursor.buffered, ⟨{ cursor with buffered := [] }, none⟩⟩ store := by
  by_cases empty : cursor.buffered = []
  · refine ⟨limit + 1, Nat.le_succ _, ?_⟩
    rw [empty, List.append_nil, ← empty]
  · refine ⟨limit, Nat.le_refl _, ?_⟩
    rcases choose_cases cursor store with ⟨-, chosen⟩ | ⟨wrong, -⟩
    · simp only [Step.repeat, Scan.step, Seek.step, chosen]
    · exact absurd wrong empty

theorem scan_of_unsized (store : Store) (txn : TxnId) (unsized : table.pageSize = 0) :
    Scan.run table txn store = (.finished ⟨[], some (.io .zeroPageSize)⟩, store) := by
  have limit := wholePages_le_stepLimit store table
  obtain ⟨more, enough⟩ : ∃ more, 2 * store.stepLimit = more + 1 :=
    ⟨2 * store.stepLimit - 1, by omega⟩
  have chosen : Seek.choose { table, txn } store =
      .finished ⟨.error (.io .zeroPageSize), { table, txn }⟩ := by
    rw [Seek.choose, Table.pageCount_of_unsized unsized]
    rfl
  rw [Scan.run, Scan.resume, enough]
  simp only [Step.repeat, Scan.step, Seek.step, chosen]

theorem Passed.rowsFrom (begun : Serial store txn [] tables)
    (registered : store.catalog.tables.get? table.id = some table) (sized : 0 < table.pageSize)
    (left : Nat) {number : Nat} {middle : Store} (rows : List Row)
    (passed : Passed txn store tables middle [] tables)
    (counted : number + left = tables.count table.id) {limit : Nat} (enough : 3 * left + 1 ≤ limit) :
    ∃ scanned after, Step.repeat Scan.step limit
          ⟨rows, ⟨⟨table, txn, UInt32.ofNat number, [], true⟩, none⟩⟩ middle =
        (.finished scanned, after) ∧
      scanned.rows.map Row.entry = rows.map Row.entry ++ (tables.rowsFrom table left number).1 ∧
      scanned.error = (tables.rowsFrom table left number).2 ∧
      Served txn store tables after tables := by
  have chosen := passed.choose begun registered sized counted
  obtain ⟨limit, rfl⟩ : ∃ rest, limit = rest + 1 := ⟨limit - 1, by omega⟩
  cases left with
  | zero =>
      rw [if_neg (by omega)] at chosen
      refine ⟨⟨rows, none⟩, middle, ?_, by simp [Tables.rowsFrom], rfl, begun.served passed⟩
      simp only [Step.repeat, Scan.step, chosen]
  | succ left =>
      rw [if_pos (by omega)] at chosen
      obtain ⟨limit, rfl⟩ : ∃ rest, limit = rest + 1 := ⟨limit - 1, by omega⟩
      simp only [Step.repeat, Scan.step, chosen]
      rw [Tables.rowsFrom]
      cases seen : tables.page (table.page (UInt32.ofNat number)) with
      | error error =>
          have timely : (middle.request txn (table.page (UInt32.ofNat number)) .shared).Timely
              middle txn := ⟨rfl, rfl⟩
          obtain ⟨after, run, serial, ages⟩ := (passed.serial.attempt timely).1 error seen
          refine ⟨⟨rows, some error⟩, after, ?_, by simp, rfl,
            begun.served ⟨serial, passed.ages.trans ages, passed.grows⟩⟩
          simp only [Seek.step]
          rw [show middle.attempt _ = _ from run]
      | ok contents =>
          obtain ⟨own, got, taken, entries, reached⟩ := passed.take seen
          obtain ⟨limit, rfl⟩ : ∃ rest, limit = rest + 1 := ⟨limit - 1, by omega⟩
          obtain ⟨more, enough, flushed⟩ := scan_flush rows
            ⟨table, txn, UInt32.ofNat (number + 1), own, true⟩ got limit
          obtain ⟨scanned, after, done, all, error, served⟩ := rowsFrom begun registered sized left
            (rows ++ own) reached (show number + 1 + left = _ by omega)
            (show 3 * left + 1 ≤ more by omega)
          refine ⟨scanned, after, ?_, ?_, error, served⟩
          · simp only [taken]
            exact flushed.trans done
          · rw [all, List.map_append, entries, List.append_assoc]

theorem Serial.scan (begun : Serial store txn [] tables)
    (registered : store.catalog.tables.get? table.id = some table) :
    ∃ scanned after, Scan.run table txn store = (.finished scanned, after) ∧
      (scanned.rows.map Row.entry, scanned.error) = tables.scan table ∧
      Served txn store tables after tables := by
  rw [Tables.scan]
  rcases Nat.eq_zero_or_pos table.pageSize with unsized | sized
  · rw [if_pos unsized]
    exact ⟨_, store, scan_of_unsized store txn unsized, rfl, begun.served begun.passed⟩
  · have limit := wholePages_le_stepLimit store table
    rw [begun.count _ _ registered] at limit
    rw [Scan.run, Scan.resume, if_neg (Nat.ne_of_gt sized)]
    obtain ⟨scanned, after, run, rows, error, served⟩ :=
      begun.passed.rowsFrom begun registered sized (tables.count table.id) []
        (show 0 + tables.count table.id = _ by omega)
        (show 3 * tables.count table.id + 1 ≤ 2 * store.stepLimit by omega)
    exact ⟨scanned, after, run, Prod.ext (rows.trans (List.nil_append _)) error, served⟩

/-! ## Requests -/

theorem Serial.serve (begun : Serial store txn [] tables) (roomy : store.Roomy) (request : Request) :
    ∃ after, store.serve txn request = ((tables.serve store.catalog request).1, after) ∧
      Served txn store tables after (tables.serve store.catalog request).2 := by
  have nothing : Served txn store tables store tables := begun.served begun.passed
  cases request with
  | insert id row =>
      simp only [Store.serve, Store.insert, Tables.serve]
      cases found : store.catalog.table id with
      | error error => exact ⟨store, rfl, nothing⟩
      | ok table =>
          obtain ⟨result, after, run, entry, served⟩ :=
            begun.insert (begun.sound.registered found).1 roomy row
          refine ⟨after, ?_, served⟩
          simp only [run, entry]
  | delete row =>
      simp only [Store.serve, Store.delete, Tables.serve]
      cases placed : row.location with
      | none => exact ⟨store, rfl, nothing⟩
      | some location =>
          cases found : store.catalog.table location.page.table with
          | error error =>
              simp only [found]
              exact ⟨store, rfl, nothing⟩
          | ok table =>
              obtain ⟨registered, own⟩ := begun.sound.registered found
              obtain ⟨after, run, served⟩ := begun.delete registered placed own.symm
              refine ⟨after, ?_, ?_⟩
              · simp only [found, run]
              · simp only [found]
                exact served
  | scan id =>
      simp only [Store.serve, Tables.serve]
      cases found : store.catalog.table id with
      | error error => exact ⟨store, rfl, nothing⟩
      | ok table =>
          obtain ⟨scanned, after, run, rows, served⟩ :=
            begun.scan (begun.sound.registered found).1
          refine ⟨after, ?_, served⟩
          simp only [run, ← rows]

end TableStore.Store
