import Mathlib.Data.Fintype.Card
import TableStore.Proofs.PackedTables
import TableStore.Proofs.CacheRuns

/-!
# Caches with room for all pages

If there is one table only, and room for as many pages as there are numbers, then no page
has to leave the cache for another one: a page that is cached stays cached, whatever the
transactions do.
-/

set_option autoImplicit false

namespace TableStore

namespace Store

variable {store middle after : Store} {own : TableId} {handle : Handle}

/-- Every cached page stays in the cache. -/
def Hoards (store after : Store) : Prop :=
  ∀ id, store.frames.contains id = true → after.frames.contains id = true

theorem Hoards.refl (store : Store) : Hoards store store := fun _ cached => cached

theorem Hoards.trans (first : Hoards store middle) (second : Hoards middle after) :
    Hoards store after :=
  fun id cached => second id (first id cached)

theorem Hoards.of_frames (same : after.frames = store.frames) : Hoards store after := by
  intro id cached
  rw [same]
  exact cached

theorem Hoards.of_insert {id : PageId} {frame : Frame}
    (same : after.frames = store.frames.insert id frame) : Hoards store after := by
  intro other cached
  rw [same, SortedMap.contains, SortedMap.get?_insert]
  split
  · rfl
  · exact cached

theorem Edits.hoards (edits : Edits store after) : Hoards store after := by
  intro id cached
  have same := congrArg Option.isSome (edits.stays.hold id)
  rw [Option.isSome_map, Option.isSome_map] at same
  rw [SortedMap.contains, same]
  exact cached

theorem unpin_hoards (store : Store) (handle : Handle) : Hoards store (store.unpin handle) := by
  intro id cached
  rw [SortedMap.contains, frames_unpin, Option.isSome_map]
  exact cached

/-- A request for a page takes no other one out of a cache that is not full. -/
theorem attempt_hoards (room : store.frames.size < store.capacity) {request : PageRequest}
    {answer : Progress PageRequest (Except StoreError Handle)}
    (run : store.attempt request = (answer, after)) : Hoards store after := by
  cases attempt_cases run with
  | pins granted pinned =>
      cases pin_cases pinned with
      | hits found => exact .of_insert rfl
      | loads absent read made =>
          rcases made with ⟨-, rfl⟩ | ⟨full, -⟩
          · exact .of_insert rfl
          · exact absurd room (Nat.not_lt_of_le full)
  | fails granted unpinned =>
      have same (locks : LockTable) : Hoards store { store with locks } := .of_frames rfl
      cases pin_cases unpinned with
      | unreadable absent unread =>
          obtain ⟨locks, given⟩ := giveBack_relocked (store.locked request) request _
          rw [given]
          exact same locks
      | blocked absent read full evicted => exact absurd room (Nat.not_lt_of_le full)
  | waits refused free => exact .of_frames rfl
  | deadlock refused circle => exact .of_frames rfl

/-- There is one table only, and the cache has room for more pages than it can have. -/
structure Spacious (store : Store) (own : TableId) : Prop where
  sound : store.Sound
  sole : ∀ id table, store.catalog.tables.get? id = some table → id = own
  room : 2 ^ 32 < store.capacity

theorem Spacious.size_lt (spacious : store.Spacious own) :
    store.frames.size < store.capacity := by
  apply Nat.lt_of_le_of_lt _ spacious.room
  have inside (id : PageId) (member : id ∈ store.frames.keys) : id.table = own := by
    obtain ⟨frame, found⟩ := SortedMap.mem_keys_iff.mp member
    obtain ⟨⟨table, registered, -⟩, -⟩ := spacious.sound.page id _ (cached?_of_frame found)
    exact spacious.sole _ _ registered
  let numbers : List (Fin (2 ^ 32)) := store.frames.keys.map fun id => ⟨id.number.toNat, UInt32.toNat_lt _⟩
  have distinct : numbers.Nodup := by
    refine List.Nodup.map_on ?_ store.frames.nodup_keys
    intro first one second two same
    apply PageId.eq_of_parts
    · rw [inside first one, inside second two]
    · exact UInt32.toNat_inj.mp (Fin.mk.inj same)
  have few := distinct.length_le_card
  rw [List.length_map, SortedMap.keys, List.length_map, Fintype.card_fin] at few
  exact few

end Store

theorem Operation.Course.hoards {store after : Store} {handle : Option Handle}
    (room : store.frames.size < store.capacity) (course : Operation.Course store after handle) :
    Store.Hoards store after := by
  cases course with
  | stays same => exact same ▸ .refl store
  | asked request answer run => exact Store.attempt_hoards room run
  | used request handle got changed run edits rest =>
      exact (Store.attempt_hoards room run).trans
        (edits.hoards.trans ((Store.unpin_hoards changed handle).trans rest.hoards))

/-- The page that an insertion is granted is cached after its step. -/
theorem Insertion.step_caches {store got after : Store} {task : Insertion} {handle : Handle}
    {next : Step Insertion (Except StoreError Inserted)} (fitting : store.Fitting)
    (attempt : store.attempt task.request = (.finished (.ok handle), got))
    (run : task.step store = (next, after)) : after.frames.contains handle.page = true := by
  have holds := Store.attempt_holds attempt
  have fits : got.Fitting := Store.Fitting.steps fitting (fitting.attempt [] attempt)
  have cached : got.frames.contains handle.page = true := by
    obtain ⟨frame, found, -⟩ := holds
    rw [SortedMap.contains, found]
    rfl
  simp only [Insertion.step, attempt] at run
  split at run
  · next placing =>
      cases run
      have edits := Insertion.place_edits fits holds placing
      exact Store.unpin_hoards _ handle _ (edits.hoards _ cached)
  · next changed placing =>
      have edits := Insertion.place_edits fits holds placing
      have freed := Store.unpin_hoards _ handle _ (edits.hoards _ cached)
      split at run
      · next going =>
          cases run
          exact (Insertion.goOn_edits going).hoards _ freed
      · next going =>
          cases run
          exact (Insertion.goOn_edits going).hoards _ freed

namespace System

variable {system : System} {own id : TableId} {txn : TxnId} {table : Table} {row : Row}
  {task : Insertion} {begun got : Store} {handle : Handle}

theorem perform_hoards (spacious : system.store.Spacious own) (fitting : system.store.Fitting)
    (action : Action) : Store.Hoards system.store (system.perform action).store := by
  generalize next : (system.perform action).store = after
  have effect := system.effect_perform action
  rw [next] at effect
  cases effect with
  | idles => exact .refl _
  | begins run => exact (Call.start_edits run).hoards
  | advances busy run => exact (Operation.course fitting run).hoards spacious.size_lt
  | drops live => exact Store.unpin_hoards _ _
  | commits => exact (fitting.commit _).hoards
  | aborts => exact (Store.edits_abort _ _).hoards
  | flushes => exact (fitting.flushPage _).hoards
  | flushesAll => exact (fitting.flushEach _).hoards
  | faults => exact .of_frames rfl

theorem spacious_perform (sound : system.Sound) (spacious : system.store.Spacious own)
    (action : Action) : (system.perform action).store.Spacious own where
  sound := (sound.follows [action]).sound.store
  sole id table found := spacious.sole id table ((sound.follows [action]).catalog ▸ found)
  room := by
    rw [(perform_lasts sound.store.fitting action).capacity]
    exact spacious.room

theorem run_hoards (sound : system.Sound) (spacious : system.store.Spacious own)
    (actions : List Action) : Store.Hoards system.store (system.run actions).store := by
  induction actions generalizing system with
  | nil => exact .refl _
  | cons action actions ih =>
      have follows := sound.follows [action]
      exact (perform_hoards spacious sound.store.fitting action).trans
        (ih follows.sound (spacious_perform sound spacious action))

/-- The page at which an insertion looks first is cached at its end. -/
theorem insertAtOnce_caches (sound : system.Sound) (spacious : system.store.Spacious own)
    (idle : system.pending.get? txn = none) (found : system.store.catalog.table id = .ok table)
    (started : Insertion.start table txn row system.store = (.ok task, begun))
    (attempt : begun.attempt task.request = (.finished (.ok handle), got)) {steps : Nat}
    (some : 0 < steps) :
    (system.run (insertAtOnce txn id row steps)).store.frames.contains handle.page = true := by
  obtain ⟨steps, rfl⟩ : ∃ rest, steps = rest + 1 := ⟨steps - 1, by omega⟩
  have begins : Call.start txn system.store (.insert id row) = (.some (.insertion task), begun) := by
    simp only [Call.start, found, started]
  let middle : System := system.perform (.call txn (.insert id row))
  have first := begin_of_idle idle begins
  have sounds : middle.Sound := (sound.follows [.call txn (.insert id row)]).sound
  have roomy : middle.store.Spacious own := spacious_perform sound spacious _
  have cached : (middle.perform (.advance txn)).store.frames.contains handle.page = true := by
    have busy : middle.pending.get? txn = .some (.insertion task) := by
      change (system.begin txn (.insert id row)).pending.get? txn = _
      rw [first]
      exact SortedMap.get?_insert_self ..
    have here : middle.store = begun := congrArg System.store first
    rcases step : task.step middle.store with ⟨next, after⟩
    have caches : after.frames.contains handle.page = true :=
      Insertion.step_caches sounds.store.fitting (here ▸ attempt) step
    have same : ((Operation.insertion task).step middle.store).2 = after := by
      rcases next with again | waiting | error | inserted <;> simp only [Operation.step, step]
    rcases turned : (Operation.insertion task).step middle.store with ⟨turn, last⟩
    rw [turned] at same
    cases same
    change (middle.advance txn).store.frames.contains handle.page = true
    rw [advance_eq busy turned]
    exact caches
  have later := spacious_perform sounds roomy (.advance txn)
  exact run_hoards (sounds.follows [.advance txn]).sound later (List.replicate steps (.advance txn))
    handle.page cached

end System

end TableStore
