import Mathlib.Data.Fin.Tuple.Basic
import Mathlib.Data.List.Permutation
import TableStore.Proofs.Capacity
import TableStore.Proofs.Fillings

/-!
# Workloads of insertions

Transactions insert rows into one table at the same time, each of them one row
after the other, and then commit.  A schedule says who takes the next step; who is
refused a page takes the same step again.  No insertion fails, somebody can always
go on, and at the end the table has its old rows and the new ones, each at the
place that its insertion reported.
-/

set_option autoImplicit false

namespace TableStore

/-- Transactions that insert rows into a table.  Their programs have the rows that
they have not begun to insert; who has committed has no program. -/
structure Workload where
  table : TableId
  system : System
  programs : SortedMap TxnId (List Row)

namespace Workload

variable (workload : Workload)

def start (store : Store) (table : TableId) (programs : SortedMap TxnId (List Row)) : Workload :=
  ⟨table, { store }, programs⟩

/-- What the transaction does next: it goes on with its insertion, begins the next
one, or commits. -/
def next? (txn : TxnId) : Option Action :=
  match workload.system.pending.get? txn with
  | some _ => some (.advance txn)
  | none =>
      match workload.programs.get? txn with
      | some (row :: _) => some (.call txn (.insert workload.table row))
      | some [] => some (.commit txn)
      | none => none

def rest (txn : TxnId) : SortedMap TxnId (List Row) :=
  match workload.system.pending.get? txn with
  | some _ => workload.programs
  | none =>
      match workload.programs.get? txn with
      | some (_ :: rows) => workload.programs.insert txn rows
      | _ => workload.programs.erase txn

def step (txn : TxnId) : Workload :=
  match workload.next? txn with
  | some action =>
      { workload with
        system := workload.system.perform action
        programs := workload.rest txn }
  | none => workload

def run (schedule : List TxnId) : Workload := schedule.foldl step workload

def reply? (txn : TxnId) : Option (TxnId × Except StoreError Entry) :=
  match (workload.next? txn).bind workload.system.outcome? with
  | some (_, .inserted result) => some (txn, result.map fun inserted => inserted.row.entry)
  | _ => none

def replies (workload : Workload) : List TxnId → List (TxnId × Except StoreError Entry)
  | [] => []
  | txn :: schedule => (workload.reply? txn).toList ++ (workload.step txn).replies schedule

def Numbered (workload : Workload) : List TxnId → Prop
  | [] => True
  | txn :: schedule =>
      (workload.step txn).system.store.Addressable ∧ (workload.step txn).Numbered schedule

instance Numbered.decidable :
    ∀ (workload : Workload) (schedule : List TxnId), Decidable (workload.Numbered schedule)
  | _, [] => .isTrue trivial
  | workload, txn :: schedule =>
      have := decidable (workload.step txn) schedule
      inferInstanceAs (Decidable (_ ∧ _))

def Done : Prop := ∀ txn, workload.programs.get? txn = none

def Waits (txn : TxnId) : Prop :=
  ∃ task next after, workload.system.pending.get? txn = some (.insertion task) ∧
    task.step workload.system.store = (.waiting next, after)

def left (txn : TxnId) : List Row :=
  (match workload.system.pending.get? txn with
    | some (.insertion task) => [task.row]
    | _ => []) ++ (workload.programs.get? txn).getD []

def entriesOf (txn : TxnId) (placed : List (TxnId × Entry)) : List Entry :=
  (placed.filter fun entry => decide (entry.1 = txn)).map Prod.snd

theorem entriesOf_append (txn : TxnId) (first second : List (TxnId × Entry)) :
    entriesOf txn (first ++ second) = entriesOf txn first ++ entriesOf txn second := by
  simp only [entriesOf, List.filter_append, List.map_append]

/-! ## Steps -/

/-- The table is being filled, and only those transactions are at work that have
not committed. -/
structure Sound (workload : Workload) (table : Table) (owner : TxnId) (tables : Tables) : Prop where
  id : workload.table = table.id
  filling : workload.system.Filling table owner tables
  alike : ∀ txn rows, workload.programs.get? txn = some rows →
    ∀ row ∈ rows, row.schema.alike table.schema = true
  ended : ∀ txn, workload.programs.get? txn = none →
    workload.system.pending.get? txn = none ∧
      ∀ id, workload.system.store.locks.mode? txn id = none

variable {workload : Workload} {table : Table} {owner txn : TxnId} {tables : Tables}

structure Stepped (workload after : Workload) (table : Table) (tables later : Tables)
    (replies : List (TxnId × Except StoreError Entry)) (placed : List (TxnId × Entry)) : Prop where
  replies : replies = placed.map fun (txn, entry) => (txn, .ok entry)
  rows : (later.entries table (later.count table.id)).Perm
    (placed.map Prod.snd ++ tables.entries table (tables.count table.id))
  left : ∀ txn, (workload.left txn).map Row.values =
    (entriesOf txn placed).map Prod.snd ++ (after.left txn).map Row.values

theorem Stepped.refl (workload : Workload) (table : Table) (tables : Tables) :
    Stepped workload workload table tables tables [] [] :=
  ⟨rfl, .refl _, fun _ => rfl⟩

theorem Stepped.trans {middle after : Workload} {between later : Tables}
    {first second : List (TxnId × Except StoreError Entry)} {placed more : List (TxnId × Entry)}
    (earlier : Stepped workload middle table tables between first placed)
    (rest : Stepped middle after table between later second more) :
    Stepped workload after table tables later (first ++ second) (placed ++ more) where
  replies := by rw [earlier.replies, rest.replies, List.map_append]
  rows := by
    have all := rest.rows.trans (earlier.rows.append_left _)
    rw [← List.append_assoc] at all
    rw [List.map_append]
    exact all.trans (List.perm_append_comm.append_right _)
  left txn := by
    rw [earlier.left, rest.left, entriesOf_append, List.map_append, List.append_assoc]

theorem Sound.begin (sound : workload.Sound table owner tables) {row : Row} {rows : List Row}
    (idle : workload.system.pending.get? txn = none)
    (program : workload.programs.get? txn = some (row :: rows)) :
    (workload.step txn).Sound table owner tables ∧
      Stepped workload (workload.step txn) table tables tables (workload.reply? txn).toList [] := by
  have alike := sound.alike txn _ program
  obtain ⟨task, begun, own, accepted, filling⟩ :=
    sound.filling.begin (alike row List.mem_cons_self) idle
  have next : workload.next? txn = some (.call txn (.insert table.id row)) := by
    simp only [next?, idle, program, sound.id]
  have step : workload.step txn = ⟨workload.table,
      { workload.system with pending := workload.system.pending.insert txn (.insertion task) },
      workload.programs.insert txn rows⟩ := by
    simp only [step, next, rest, idle, program, System.perform, begun]
  have silent : workload.reply? txn = none := by
    simp only [reply?, next, Option.bind_some, System.outcome?, idle, accepted, Option.map_none]
  rw [silent, step]
  rw [begun] at filling
  refine ⟨⟨sound.id, filling, ?_, ?_⟩, rfl, .refl _, ?_⟩
  · intro other others found
    rw [SortedMap.get?_insert] at found
    split at found
    · cases found
      intro row member
      exact alike row (List.mem_cons_of_mem _ member)
    · exact sound.alike other others found
  · intro other ended
    rw [SortedMap.get?_insert] at ended
    split at ended
    · cases ended
    · next different =>
        obtain ⟨unbusy, unlocked⟩ := sound.ended other ended
        refine ⟨?_, unlocked⟩
        rw [SortedMap.get?_insert, if_neg different]
        exact unbusy
  · intro other
    by_cases same : other = txn
    · subst same
      simp only [left, idle, program, SortedMap.get?_insert, if_true, Option.getD_some, own,
        entriesOf, List.filter_nil, List.map_nil, List.nil_append, List.cons_append]
    · simp only [left, SortedMap.get?_insert, if_neg same, entriesOf, List.filter_nil,
        List.map_nil, List.nil_append]

theorem Sound.commit (sound : workload.Sound table owner tables)
    (idle : workload.system.pending.get? txn = none)
    (program : workload.programs.get? txn = some []) :
    ∃ later, (workload.step txn).Sound table owner later ∧
      Stepped workload (workload.step txn) table tables later (workload.reply? txn).toList [] := by
  obtain ⟨later, filling, rows, pending, modes⟩ := sound.filling.commit idle
  have next : workload.next? txn = some (.commit txn) := by
    simp only [next?, idle, program]
  have step : workload.step txn = ⟨workload.table, workload.system.perform (.commit txn),
      workload.programs.erase txn⟩ := by
    simp only [step, next, rest, idle, program]
  have silent : workload.reply? txn = none := by
    simp only [reply?, next, Option.bind_some, System.outcome?]
  rw [silent, step]
  refine ⟨later, ⟨sound.id, filling, ?_, ?_⟩, rfl, rows ▸ .refl _, ?_⟩
  · intro other others found
    rw [SortedMap.get?_erase] at found
    split at found
    · cases found
    · exact sound.alike other others found
  · intro other ended
    by_cases same : other = txn
    · subst same
      refine ⟨pending ▸ idle, ?_⟩
      intro id
      rw [modes, if_pos rfl]
    · rw [SortedMap.get?_erase, if_neg same] at ended
      obtain ⟨unbusy, unlocked⟩ := sound.ended other ended
      refine ⟨pending ▸ unbusy, ?_⟩
      intro id
      rw [modes, if_neg same]
      exact unlocked id
  · intro other
    by_cases same : other = txn
    · subst same
      simp only [left, pending, idle, program, SortedMap.get?_erase, if_true, Option.getD_some,
        Option.getD_none, entriesOf, List.filter_nil, List.map_nil, List.append_nil]
    · simp only [left, pending, SortedMap.get?_erase, if_neg same, entriesOf, List.filter_nil,
        List.map_nil, List.nil_append]

theorem Sound.advance (sound : workload.Sound table owner tables) {operation : Operation}
    (busy : workload.system.pending.get? txn = some operation)
    (numbered : (workload.step txn).system.store.Addressable) :
    ∃ leader later placed, (workload.step txn).Sound table leader later ∧
      Stepped workload (workload.step txn) table tables later (workload.reply? txn).toList
        placed := by
  obtain ⟨task, rfl, -⟩ := sound.filling.insertion txn operation busy
  have next : workload.next? txn = some (.advance txn) := by
    simp only [next?, busy]
  have step : workload.step txn = ⟨workload.table, workload.system.advance txn,
      workload.programs⟩ := by
    simp only [step, next, rest, busy, System.perform]
  rw [step] at numbered
  obtain ⟨entry, leader, later, yields, filling, rows, locks⟩ :=
    sound.filling.advance busy numbered
  rcases run : task.step workload.system.store with ⟨answer, after⟩
  obtain ⟨-, pending⟩ := System.Filling.advance_task busy run
  rw [run] at yields
  have program : workload.programs.get? txn ≠ none := by
    intro ended
    cases busy.symm.trans (sound.ended txn ended).1
  have still : (workload.step txn).Sound table leader later := by
    rw [step]
    refine ⟨sound.id, filling, sound.alike, ?_⟩
    intro other ended
    have different : other ≠ txn := by
      rintro rfl
      exact program ended
    obtain ⟨unbusy, unlocked⟩ := sound.ended other ended
    refine ⟨?_, fun id => locks other id different (unlocked id)⟩
    change (workload.system.advance txn).pending.get? other = none
    rw [pending, if_neg different, unbusy]
  refine ⟨leader, later, entry.toList.map fun entry => (txn, entry), still, ?_⟩
  rw [step]
  have answered : (workload.reply? txn).toList =
      entry.toList.map fun entry => (txn, .ok entry) := by
    simp only [reply?, next, Option.bind_some, System.outcome?, busy, Operation.outcome?, run]
    cases yields <;> rfl
  refine ⟨by rw [answered, List.map_map]; rfl, ?_, ?_⟩
  · rw [List.map_map]
    exact (List.map_id _).symm ▸ rows
  · intro other
    by_cases same : other = txn
    · subst same
      simp only [left, busy, pending]
      cases yields with
      | again row => simp [row, entriesOf]
      | waiting row => simp [row, entriesOf]
      | placed values => simp [entriesOf, Row.entry, values]
    · simp only [left, pending, if_neg same]
      cases yields <;> simp [entriesOf, Ne.symm same]

theorem Sound.step (sound : workload.Sound table owner tables) (txn : TxnId)
    (numbered : (workload.step txn).system.store.Addressable) :
    ∃ leader later placed, (workload.step txn).Sound table leader later ∧
      Stepped workload (workload.step txn) table tables later (workload.reply? txn).toList
        placed := by
  cases busy : workload.system.pending.get? txn with
  | some operation => exact sound.advance busy numbered
  | none =>
      rcases program : workload.programs.get? txn with _ | _ | ⟨row, rows⟩
      · have next : workload.next? txn = none := by
          simp only [next?, busy, program]
        have stays : workload.step txn = workload := by
          simp only [Workload.step, next]
        have silent : workload.reply? txn = none := by
          simp only [reply?, next, Option.bind_none]
        rw [stays, silent]
        exact ⟨owner, tables, [], sound, .refl workload table tables⟩
      · obtain ⟨later, still, stepped⟩ := sound.commit busy program
        exact ⟨owner, later, [], still, stepped⟩
      · obtain ⟨still, stepped⟩ := sound.begin busy program
        exact ⟨owner, tables, [], still, stepped⟩

theorem Sound.run (sound : workload.Sound table owner tables) {schedule : List TxnId}
    (numbered : workload.Numbered schedule) :
    ∃ leader later placed, (workload.run schedule).Sound table leader later ∧
      Stepped workload (workload.run schedule) table tables later (workload.replies schedule)
        placed := by
  induction schedule generalizing workload owner tables with
  | nil => exact ⟨owner, tables, [], sound, .refl workload table tables⟩
  | cons txn schedule ih =>
      obtain ⟨first, rest⟩ := numbered
      obtain ⟨leader, between, placed, still, stepped⟩ := sound.step txn first
      obtain ⟨last, later, more, done, others⟩ := ih still rest
      exact ⟨last, later, placed ++ more, done, stepped.trans others⟩

/-- Somebody who has not committed does not wait. -/
theorem Sound.moves (sound : workload.Sound table owner tables) (undone : ¬ workload.Done) :
    ∃ txn rows, workload.programs.get? txn = some rows ∧ ¬ workload.Waits txn := by
  have calm (txn : TxnId) (alone : workload.system.store.Serial txn [] tables) :
      ¬ workload.Waits txn := by
    rintro ⟨task, next, after, busy, waits⟩
    exact sound.filling.moves alone busy next after waits
  rcases sound.filling.leads with free | leads
  · obtain ⟨txn, program⟩ := not_forall.mp undone
    obtain ⟨rows, known⟩ := Option.ne_none_iff_exists'.mp program
    exact ⟨txn, rows, known, calm txn (sound.filling.serial.hand free txn)⟩
  · cases known : workload.programs.get? owner with
    | none =>
        have unlocked := (sound.ended owner known).2 (table.page 0)
        cases unlocked.symm.trans leads.holds
    | some rows => exact ⟨owner, rows, known, calm owner sound.filling.serial⟩

/-! ## Whole workloads -/

variable {store : Store} {programs : SortedMap TxnId (List Row)}

theorem readable_of_fresh (fresh : store.Fresh)
    (registered : store.catalog.tables.get? table.id = some table)
    (paged : 0 < table.wholePages store.disk)
    (readable : ∀ number < table.wholePages store.disk,
      ∃ page, store.readPage (table.page (UInt32.ofNat number)) = .ok page) :
    store.tables.Readable table ∧ store.tables.count table.id = table.wholePages store.disk := by
  have count : store.tables.count table.id = table.wholePages store.disk := by
    simp only [Store.tables, registered]
  have read (number : Nat) (inside : number < table.wholePages store.disk) :
      ∃ contents, store.tables.page (table.page (UInt32.ofNat number)) = .ok contents ∧
        Page.slotCount table.schema table.pageSize = .ok contents.length := by
    obtain ⟨page, known⟩ := readable number inside
    obtain ⟨own, found, -, -, fits, -⟩ := fresh.sound.readPage_ok known
    cases registered.symm.trans found
    refine ⟨page.contents, ?_, ?_⟩
    · change (store.pageState _).look = _
      rw [PageState.look, Store.copy_of_uncached (fresh.uncached _)]
      change (store.readPage _).map Page.contents = _
      rw [known]
      rfl
    · rw [fits.sound.length_contents, ← fits.schema, ← fits.size]
      exact fits.sound.slotCount
  refine ⟨⟨?_, ?_⟩, count⟩
  · obtain ⟨contents, -, slots⟩ := read 0 paged
    exact ⟨_, slots⟩
  · intro number inside
    obtain ⟨contents, seen, slots⟩ := read number (count ▸ inside)
    exact ⟨contents, seen, (Page.slotCount_facts slots).2.2.1⟩

theorem sound_start (fresh : store.Fresh) (recent : ∃ queue, store.policy = .leastRecent queue)
    (writable : store.unwritable = ∅) (room : 0 < store.capacity)
    (registered : store.catalog.tables.get? table.id = some table)
    (paged : 0 < table.wholePages store.disk)
    (readable : ∀ number < table.wholePages store.disk,
      ∃ page, store.readPage (table.page (UInt32.ofNat number)) = .ok page)
    (alike : ∀ txn rows, programs.get? txn = some rows →
      ∀ row ∈ rows, row.schema.alike table.schema = true) :
    (start store table.id programs).Sound table ⟨0⟩ store.tables := by
  obtain ⟨decoded, count⟩ := readable_of_fresh fresh registered paged readable
  have idle : (start store table.id programs).system.Fresh := ⟨fresh, rfl, rfl, rfl⟩
  have unlocked (txn : TxnId) (id : PageId) : store.locks.mode? txn id = none := by
    rw [fresh.locks]
    rfl
  refine ⟨rfl, ⟨idle.tidy writable, registered, (fresh.rested recent writable room).serial ⟨0⟩,
    decoded, count ▸ paged, .inl (unlocked ⟨0⟩), nofun⟩, alike, ?_⟩
  intro txn _
  exact ⟨rfl, unlocked txn⟩

/-- A scan of a table whose pages can be read, by a transaction that has the store
to itself. -/
theorem scan_of_readable (serial : store.Serial txn [] tables)
    (registered : store.catalog.tables.get? table.id = some table)
    (readable : tables.Readable table) :
    ∃ rows after, Scan.run table txn store = (.finished ⟨rows, none⟩, after) ∧
      rows.map Row.entry = tables.entries table (tables.count table.id) := by
  obtain ⟨⟨rows, error⟩, after, run, same, -⟩ := serial.scan registered
  rw [readable.scan] at same
  obtain ⟨entries, rfl⟩ := Prod.mk.inj same
  exact ⟨rows, after, run, entries⟩

/-- Insertions lose nothing and never end in a deadlock.  Whatever steps the
transactions take in whatever order, every insertion that ends has put its row into
the table, and as long as somebody has not committed, somebody of them does not
wait.  When all have committed, each has inserted the rows of its program in their
order, and a scan yields the rows from before and all inserted ones, each at the
place that its insertion reported, no two at the same place. -/
theorem insertions_lose_nothing (fresh : store.Fresh)
    (recent : ∃ queue, store.policy = .leastRecent queue) (writable : store.unwritable = ∅)
    (room : 0 < store.capacity) (registered : store.catalog.tables.get? table.id = some table)
    (paged : 0 < table.wholePages store.disk)
    (readable : ∀ number < table.wholePages store.disk,
      ∃ page, store.readPage (table.page (UInt32.ofNat number)) = .ok page)
    (alike : ∀ txn rows, programs.get? txn = some rows →
      ∀ row ∈ rows, row.schema.alike table.schema = true)
    {schedule : List TxnId} (numbered : (start store table.id programs).Numbered schedule) :
    ∃ placed : List (TxnId × Entry),
      (start store table.id programs).replies schedule =
        placed.map (fun (txn, entry) => (txn, .ok entry)) ∧
      (¬ ((start store table.id programs).run schedule).Done →
        ∃ txn rows, ((start store table.id programs).run schedule).programs.get? txn = some rows ∧
          ¬ ((start store table.id programs).run schedule).Waits txn) ∧
      (((start store table.id programs).run schedule).Done →
        (∀ txn, (entriesOf txn placed).map Prod.snd =
          ((programs.get? txn).getD []).map Row.values) ∧
        ∀ reader, ∃ before first rows last,
          Scan.run table reader store = (.finished ⟨before, none⟩, first) ∧
          Scan.run table reader ((start store table.id programs).run schedule).system.store =
            (.finished ⟨rows, none⟩, last) ∧
          (rows.map Row.entry).Perm (before.map Row.entry ++ placed.map Prod.snd) ∧
          (rows.map Row.location).Nodup) := by
  have begun := sound_start fresh recent writable room registered paged readable alike
  obtain ⟨leader, later, placed, sound, stepped⟩ := begun.run numbered
  refine ⟨placed, stepped.replies, sound.moves, ?_⟩
  intro done
  constructor
  · intro txn
    have all := stepped.left txn
    have nothing : ((start store table.id programs).run schedule).left txn = [] := by
      simp only [left, done txn, (sound.ended txn (done txn)).1, Option.getD_none, List.append_nil]
    rw [nothing, List.map_nil, List.append_nil] at all
    exact all.symm
  · intro reader
    have free (id : PageId) := (sound.ended leader (done leader)).2 id
    obtain ⟨before, first, scanned, old⟩ := scan_of_readable
      ((fresh.rested recent writable room).serial reader) registered begun.filling.readable
    obtain ⟨rows, last, again, new⟩ := scan_of_readable
      (sound.filling.serial.hand free reader) sound.filling.registered sound.filling.readable
    refine ⟨before, first, rows, last, scanned, again, ?_, ?_⟩
    · rw [old, new]
      exact stepped.rows.trans List.perm_append_comm
    · have places : rows.map Row.location = (rows.map Row.entry).map Prod.fst := by
        rw [List.map_map]
        rfl
      rw [places, new]
      exact sound.filling.readable.locations_nodup (Nat.le_refl _) sound.filling.small

def onePage (capacity : Nat) : Store :=
  { Store.ofNumbers capacity with disk := (∅ : Disk).insert "numbers" ⟨[], 8⟩ }

theorem fresh_onePage (capacity : Nat) : (onePage capacity).Fresh where
  catalog := (Store.fresh_ofNumbers capacity).catalog
  addressable := (by decide +kernel : (onePage 0).Addressable)
  locks := rfl
  frames := rfl
  unflushed := rfl
  policy := (Store.fresh_ofNumbers capacity).policy

def twoWriters : SortedMap TxnId (List Row) :=
  ((∅ : SortedMap TxnId (List Row)).insert ⟨1⟩ [.ofNumber 5, .ofNumber 6]).insert ⟨2⟩ [.ofNumber 7]

/-- The second transaction begins when the table has one page, and is refused it.
When it goes on, the table has two full pages, and a third one is appended. -/
def turns : List TxnId := [⟨1⟩, ⟨2⟩, ⟨1⟩, ⟨2⟩, ⟨1⟩, ⟨1⟩, ⟨1⟩, ⟨1⟩, ⟨2⟩, ⟨2⟩, ⟨2⟩]

def answers : List (TxnId × Entry) :=
  [(⟨1⟩, some ⟨Table.numbers.page 0, 0⟩, [.int 5]), (⟨1⟩, some ⟨Table.numbers.page 1, 0⟩, [.int 6]),
    (⟨2⟩, some ⟨Table.numbers.page 2, 0⟩, [.int 7])]

theorem two_writers_lose_nothing :
    (start (onePage 1) ⟨1⟩ twoWriters).replies turns =
        answers.map (fun (txn, entry) => (txn, .ok entry)) ∧
      ∀ reader, ∃ before first rows last,
        Scan.run .numbers reader (onePage 1) = (.finished ⟨before, none⟩, first) ∧
        Scan.run .numbers reader ((start (onePage 1) ⟨1⟩ twoWriters).run turns).system.store =
          (.finished ⟨rows, none⟩, last) ∧
        (rows.map Row.entry).Perm (before.map Row.entry ++ answers.map Prod.snd) ∧
        (rows.map Row.location).Nodup := by
  have replies : (start (onePage 1) ⟨1⟩ twoWriters).replies turns =
      answers.map (fun (txn, entry) => (txn, .ok entry)) := by
    cbv
  have numbered : (start (onePage 1) ⟨1⟩ twoWriters).Numbered turns := by
    apply of_decide_eq_true
    cbv
  have done : ((start (onePage 1) ⟨1⟩ twoWriters).run turns).Done := by
    have programs : ((start (onePage 1) ⟨1⟩ twoWriters).run turns).programs = ∅ := by
      cbv
    intro txn
    rw [programs]
    rfl
  have readable : ∀ number < Table.numbers.wholePages (onePage 1).disk, ∃ page,
      (onePage 1).readPage (Table.numbers.page (UInt32.ofNat number)) = .ok page := by
    intro number inside
    obtain rfl : number = 0 := Nat.lt_one_iff.mp inside
    exact ⟨_, rfl⟩
  have alike : ∀ txn rows, twoWriters.get? txn = some rows →
      ∀ row ∈ rows, row.schema.alike Table.numbers.schema = true := by
    intro txn rows found
    have member := SortedMap.mem_entries_iff.mpr found
    have all : ∀ entry ∈ twoWriters.entries, ∀ row ∈ entry.2,
        row.schema.alike Table.numbers.schema = true := by
      decide +kernel
    exact all _ member
  obtain ⟨placed, same, -, settled⟩ := insertions_lose_nothing (fresh_onePage 1) ⟨_, rfl⟩ rfl
    (by decide) (by decide +kernel) (by decide +kernel) readable alike numbered
  obtain rfl : placed = answers := by
    have injective : Function.Injective
        fun (entry : TxnId × Entry) => (entry.1, (Except.ok entry.2 : Except StoreError Entry)) := by
      rintro ⟨txn, entry⟩ ⟨other, another⟩ equal
      cases equal
      rfl
    exact List.map_injective_iff.mpr injective (same.symm.trans replies)
  exact ⟨replies, (settled done).2⟩

end Workload

end TableStore
