import TableStore.Proofs.Ledgers
import TableStore.Proofs.Pins
import TableStore.Proofs.Runs

/-!
# Isolation of transactions

Whatever the order in which transactions take their steps, each of them reads
the changes of the transactions that committed before, in the order of their
commits, and its own changes, and nothing else.  Commits whose writes fail count
as well.  A run must not write the changes of running transactions: nobody
flushes pages, and no page with such changes leaves the cache.
-/

set_option autoImplicit false

namespace TableStore

namespace Store

/-- The contents of a page before a run: those in its file, or none if the file
has no such page. -/
def origin (store : Store) (id : PageId) : Contents :=
  match store.stored id with
  | .ok contents => contents
  | .error _ => store.catalog.blank id

variable {store : Store}

theorem Unused.agrees (unused : store.Unused) :
    Outline.Agrees store.catalog.blank store.origin store.outline (Ledger.of []) := by
  intro id
  have uncached : (store.outline.page id).cached = none := by
    change (store.cached? id).map Page.copy = none
    rw [unused.uncached]
    rfl
  have clean : (store.outline.page id).unflushed = false := by
    change store.unflushed.contains id = false
    rw [unused.unflushed]
    rfl
  have absent (copy : Copy) : (store.outline.page id).cached ≠ some copy := by
    rw [uncached]
    exact Option.some_ne_none copy |>.symm
  refine ⟨fun txn changed => absurd rfl changed, fun copy cached => absurd cached (absent copy),
    fun copy cached => absurd cached (absent copy), fun unflushed => ?_,
    fun copy cached => absurd cached (absent copy), fun contents stored _ => ?_,
    fun error missing => .inl ⟨rfl, ?_⟩⟩
  · cases clean.symm.trans unflushed
  · change contents = store.origin id
    rw [origin, show store.stored id = .ok contents from stored]
  · rw [origin, show store.stored id = .error error from missing]

end Store

def Action.ended? : Action → Option TxnId
  | .commit txn => some txn
  | .abort txn => some txn
  | _ => none

namespace System

variable {system : System} {txn : TxnId}

/-- Every handle leads to a cached page, which its owner holds. -/
structure Held (system : System) : Prop where
  pinned : system.store.Pinned system.handles
  owners : ∀ handle ∈ system.handles,
    (system.store.locks.mode? handle.owner handle.page).isSome = true

/-- The actions of the runs considered here.  Nobody flushes pages; a page that
leaves the cache has no changes of a running transaction, and no handle if a given
list chose it; and a transaction drops its handles before it ends. -/
structure Orderly (system : System) (action : Action) : Prop where
  flushless : action.flushes = false
  spares : system.store.Spares (fun txn => (Ledger.of system.history).own txn = [])
    (system.perform action).store
  idles : system.store.Idles (system.perform action).store
  dropped : ∀ txn, action.ended? = some txn → ∀ handle ∈ system.handles, handle.owner ≠ txn

instance (system : System) (action : Action) : Decidable (Orderly system action) :=
  decidable_of_iff
    (action.flushes = false ∧
      system.store.Spares (fun txn => (Ledger.of system.history).own txn = [])
        (system.perform action).store ∧
      system.store.Idles (system.perform action).store ∧
      ∀ txn ∈ action.ended?, ∀ handle ∈ system.handles, handle.owner ≠ txn)
    ⟨fun ⟨flushless, spares, idles, dropped⟩ => ⟨flushless, spares, idles, dropped⟩,
      fun ⟨flushless, spares, idles, dropped⟩ => ⟨flushless, spares, idles, dropped⟩⟩

theorem Held.finish (held : Held system) (sound : system.Sound) {after : Store} {event : Event}
    (ends : Store.Ends system.store after txn)
    (dropped : ∀ handle ∈ system.handles, handle.owner ≠ txn) :
    Held (system.finish txn after event) := by
  rw [System.finish]
  split
  · exact held
  · have unlocked : Store.Pinned { system.store with locks := after.locks } system.handles :=
      held.pinned.of_frames rfl rfl
    refine ⟨ends.still.pinned unlocked, fun handle member => ?_⟩
    rw [ends.mode sound.store, Outline.released, if_neg (dropped handle member)]
    exact held.owners handle member

theorem Held.begin (held : Held system) (sound : system.Sound) {call : Call} :
    Held (system.begin txn call) := by
  rw [System.begin]
  cases busy : system.pending.get? txn with
  | some operation => exact held
  | none =>
      rcases run : call.start txn system.store with ⟨begun, after⟩
      obtain ⟨grows, -⟩ := sound.store.start run
      have pinned : after.Pinned system.handles := held.pinned.of_frames grows.policy grows.frames
      have owners (handle : Handle) (member : handle ∈ system.handles) :
          (after.locks.mode? handle.owner handle.page).isSome = true := by
        rw [grows.locks]
        exact held.owners handle member
      cases begun with
      | none => exact ⟨pinned, owners⟩
      | some operation => exact ⟨pinned, owners⟩

theorem Held.advance (held : Held system) (sound : system.Sound)
    (idles : system.store.Idles (system.advance txn).store) : Held (system.advance txn) := by
  rw [System.advance] at idles ⊢
  cases busy : system.pending.get? txn with
  | none => exact held
  | some operation =>
      rcases run : operation.step system.store with ⟨turn, after⟩
      simp only [busy, run] at idles ⊢
      have stepped := sound.store.stepped (sound.ready txn operation busy) run
      refine ⟨stepped.pinned sound.store held.pinned idles, fun handle member => ?_⟩
      rcases List.mem_append.mp member with new | old
      · exact stepped.owner sound.store (Option.mem_toList.mp new)
      · exact stepped.keeps sound.store _ _ (held.owners handle old)

theorem Held.perform (held : Held system) (sound : system.Sound) {action : Action}
    (orderly : Orderly system action) : Held (system.perform action) := by
  cases action with
  | call txn call => exact held.begin sound
  | advance txn => exact held.advance sound orderly.idles
  | drop handle =>
      rw [System.perform]
      split
      · next member =>
          refine ⟨held.pinned.unpin member, fun other kept => ?_⟩
          change (((system.store.unpin handle).locks).mode? other.owner other.page).isSome = true
          rw [(sound.store.unpin handle).2]
          exact held.owners other (List.mem_of_mem_erase kept)
      · exact held
  | commit txn =>
      exact held.finish sound (sound.store.commit txn).1 (orderly.dropped txn rfl)
  | abort txn =>
      exact held.finish sound (sound.store.abort txn).1 (orderly.dropped txn rfl)
  | flush page => cases orderly.flushless
  | flushAll => cases orderly.flushless
  | fault unwritable => exact ⟨held.pinned.of_frames rfl rfl, held.owners⟩

theorem Orderly.permits {action : Action} (orderly : Orderly system action) :
    Permits (fun history txn => (Ledger.of history).own txn = []) system action where
  flushes flushed := by
    rw [orderly.flushless] at flushed
    cases flushed
  spares := orderly.spares

theorem Held.run (held : Held system) (sound : system.Sound) {actions : List Action}
    (orderly : Along Orderly system actions) : Held (system.run actions) := by
  induction actions generalizing system with
  | nil => exact held
  | cons action actions ih =>
      obtain ⟨first, rest⟩ := orderly
      exact ih (held.perform sound first)
        (sound.perform first.permits).sound rest

theorem Unused.held (unused : system.Unused) : Held system where
  pinned := unused.handles ▸ unused.store.pinned
  owners handle member := by
    rw [unused.handles] at member
    cases member

/-- Whatever the order of steps, a transaction that reads a page, or looks at it
through a handle, sees the contents that the page had before the run, with the
changes of the transactions that committed before, in the order of their commits,
and then its own. -/
theorem reads_show_settled_and_own_changes (unused : system.Unused) {actions : List Action}
    (orderly : Along Orderly system actions) :
    Outline.Explained system.store.origin (system.run actions).history ∧
      ∀ handle ∈ (system.run actions).handles, ∃ page,
        (system.run actions).store.pageOf? handle = some page ∧
          page.rows.map Row.entry =
            ((Ledger.of (system.run actions).history).contentsFor system.store.origin
              handle.owner handle.page).rows handle.page := by
  have follows := unused.sound.run (orderly.mono fun _ _ => Orderly.permits)
  have held := unused.held.run unused.sound orderly
  have nothing : Outline.Explained system.store.origin system.record.2 := by
    rintro (_ | _) later txn id rows split
    · rw [record, unused.history] at split
      cases split
    · rw [record, unused.history] at split
      cases split
  have agrees : Outline.Agrees system.store.catalog.blank system.store.origin system.record.1
      (Ledger.of system.record.2) := by
    rw [record, unused.history]
    exact unused.store.agrees
  obtain ⟨later, explained⟩ := agrees.path nothing follows.path
  refine ⟨explained, fun handle member => ?_⟩
  obtain ⟨frame, found, serial⟩ := held.pinned.handle handle member
  have cached : (system.run actions).store.cached? handle.page = some frame.page :=
    Store.cached?_of_frame found
  have copy : ((system.run actions).store.outline.page handle.page).cached =
      some frame.page.copy := Store.copy_of_cached cached
  obtain ⟨⟨table, -, fits⟩, -⟩ := follows.sound.store.page _ _ cached
  have contents : frame.page.contents = _ :=
    later.contents_of_holds (held.owners handle member) copy
  refine ⟨frame.page, Store.pageOf?_of_frame found serial, ?_⟩
  rw [fits.sound.entries, fits.id, contents]
  rfl

/-- Three transactions on the first page of a table of numbers.  One inserts a row
and commits, but the write fails; one deletes the row and rolls back; and one
fetches the page, which it asked for before. -/
def lateReader : List Action :=
  let page := Table.numbers.page 0
  [.call ⟨1⟩ (.insert ⟨1⟩ (.ofNumber 5)), .advance ⟨1⟩,
    .fault ((∅ : SortedMap PageId String).insert page "full"), .commit ⟨1⟩, .fault ∅,
    .call ⟨2⟩ (.delete ((Row.ofNumber 5).placeAt (some ⟨page, 0⟩))),
    .call ⟨3⟩ (.fetch page .shared), .advance ⟨2⟩, .abort ⟨2⟩, .advance ⟨3⟩]

theorem late_reader_reads_settled :
    Along Orderly (.ofNumbers 1) lateReader ∧
      ((System.ofNumbers 1).run lateReader).handles.length = 1 ∧
      Outline.Explained (Store.ofNumbers 1).origin
        ((System.ofNumbers 1).run lateReader).history := by
  have orderly : Along Orderly (.ofNumbers 1) lateReader := by decide +kernel
  have reads := reads_show_settled_and_own_changes (fresh_ofNumbers 1).unused orderly
  exact ⟨orderly, by decide +kernel, reads.1⟩

end System

end TableStore
