import TableStore.Proofs.Endings
import TableStore.Proofs.Pins

/-!
# Runs of a store

Any number of transactions use a store at once.  Each of them runs one operation
at a time, whose steps may alternate with those of others; a transaction ends
between two of its operations.  A handle to a fetched page is kept until it is
dropped.  The history lists what the transactions read and changed, and how they
ended.
-/

set_option autoImplicit false

namespace TableStore

/-- A store in use: the operations that have begun and not ended, the handles
that are kept, and the events up to now. -/
structure System where
  store : Store
  pending : SortedMap TxnId Operation := ∅
  handles : List Handle := []
  history : List Event := []

/-- What can happen to a store in use.  Also the pages can change that its files
do not take. -/
inductive Action where
  | call (txn : TxnId) (call : Call)
  | advance (txn : TxnId)
  | drop (handle : Handle)
  | commit (txn : TxnId)
  | abort (txn : TxnId)
  | flush (page : PageId)
  | flushAll
  | fault (unwritable : SortedMap PageId String)

namespace System

variable (system : System)

def begin (txn : TxnId) (call : Call) : System :=
  match system.pending.get? txn with
  | some _ => system
  | none =>
      match call.start txn system.store with
      | (some operation, store) =>
          { system with store, pending := system.pending.insert txn operation }
      | (none, store) => { system with store }

def advance (txn : TxnId) : System :=
  match system.pending.get? txn with
  | none => system
  | some operation =>
      let (turn, store) := operation.step system.store
      { store
        pending := match turn.next with
          | some operation => system.pending.insert txn operation
          | none => system.pending.erase txn
        handles := turn.handle.toList ++ system.handles
        history := system.history ++ turn.events }

def finish (txn : TxnId) (store : Store) (event : Event) : System :=
  match system.pending.get? txn with
  | some _ => system
  | none => { system with store, history := system.history ++ [event] }

def perform : Action → System
  | .call txn call => system.begin txn call
  | .advance txn => system.advance txn
  | .drop handle =>
      if handle ∈ system.handles then
        { system with
          store := system.store.unpin handle
          handles := system.handles.erase handle }
      else system
  | .commit txn => system.finish txn (system.store.commit txn).2 (.committed txn)
  | .abort txn => system.finish txn (system.store.abort txn).2 (.aborted txn)
  | .flush page => { system with store := (system.store.flushPage page).2 }
  | .flushAll => { system with store := system.store.flushAll.2 }
  | .fault unwritable => { system with store := { system.store with unwritable } }

def run (actions : List Action) : System := actions.foldl perform system

structure Sound : Prop where
  store : system.store.Sound
  ready : ∀ txn operation, system.pending.get? txn = some operation →
    operation.Ready system.store txn

def record : Outline × List Event := (system.store.outline, system.history)

end System

def Action.flushes : Action → Bool
  | .flush _ => true
  | .flushAll => true
  | _ => false

namespace Store

variable {store : Store} {writes : TxnId → Prop}

/-- A flush of one page is at most a move that writes it. -/
theorem Sound.flush_reaches (sound : store.Sound) (all : ∀ txn, writes txn) (id : PageId) :
    Reaches writes store (store.flushPage id).2 ∧
      (store.flushPage id).2.locks = store.locks := by
  rcases sound.flushPage id with becomes | ⟨copy, txn, cached, dirty, becomes⟩
  · refine ⟨⟨becomes.still.catalog, becomes.sound, ?_⟩, becomes.still.locks⟩
    rw [becomes.outline]
    exact .refl
  · refine ⟨⟨becomes.still.catalog, becomes.sound, ?_⟩, becomes.still.locks⟩
    rw [becomes.outline]
    exact .single (.write id copy txn cached dirty (all txn))

theorem Sound.flushEach_reaches (sound : store.Sound) (all : ∀ txn, writes txn)
    (ids : List PageId) :
    Reaches writes store (Store.flushEach ids store).2 ∧
      (Store.flushEach ids store).2.locks = store.locks := by
  induction ids generalizing store with
  | nil => exact ⟨⟨rfl, sound, .refl⟩, rfl⟩
  | cons id ids ih =>
      obtain ⟨first, locks⟩ := sound.flush_reaches all id
      rw [Store.flushEach]
      rcases run : store.flushPage id with ⟨_ | _, after⟩
      · rw [run] at first locks
        exact ⟨first, locks⟩
      · rw [run] at first locks
        obtain ⟨rest, restLocks⟩ := ih first.sound
        exact ⟨first.trans rest, restLocks.trans locks⟩

end Store

namespace System

variable {system : System} {writes : List Event → TxnId → Prop}

theorem advance_eq {txn : TxnId} {operation : Operation} {turn : Turn} {after : Store}
    (busy : system.pending.get? txn = some operation)
    (run : operation.step system.store = (turn, after)) :
    system.advance txn =
      { store := after
        pending := match turn.next with
          | some operation => system.pending.insert txn operation
          | none => system.pending.erase txn
        handles := turn.handle.toList ++ system.handles
        history := system.history ++ turn.events } := by
  simp only [advance, busy, run]

theorem begin_of_busy {txn : TxnId} {operation : Operation}
    (busy : system.pending.get? txn = some operation) (call : Call) :
    system.begin txn call = system := by
  simp only [System.begin, busy]

theorem begin_of_idle {txn : TxnId} {call : Call} {begun : Option Operation} {after : Store}
    (idle : system.pending.get? txn = none) (run : call.start txn system.store = (begun, after)) :
    system.begin txn call =
      { system with
        store := after
        pending := match begun with
          | some operation => system.pending.insert txn operation
          | none => system.pending } := by
  cases begun <;> simp only [System.begin, idle, run]

theorem advance_of_idle {txn : TxnId} (idle : system.pending.get? txn = none) :
    system.advance txn = system := by
  simp only [System.advance, idle]

/-- What an action makes of the store.  It does nothing if its transaction is busy, has
no operation or does not have the handle. -/
inductive Effect (system : System) : Action → Store → Prop
  | idles {action : Action} : Effect system action system.store
  | begins {txn : TxnId} {call : Call} {begun : Option Operation} {after : Store}
      (run : call.start txn system.store = (begun, after)) : Effect system (.call txn call) after
  | advances {txn : TxnId} {operation : Operation} {turn : Turn} {after : Store}
      (busy : system.pending.get? txn = some operation)
      (run : operation.step system.store = (turn, after)) : Effect system (.advance txn) after
  | drops {handle : Handle} (live : handle ∈ system.handles) :
      Effect system (.drop handle) (system.store.unpin handle)
  | commits {txn : TxnId} : Effect system (.commit txn) (system.store.commit txn).2
  | aborts {txn : TxnId} : Effect system (.abort txn) (system.store.abort txn).2
  | flushes {page : PageId} : Effect system (.flush page) (system.store.flushPage page).2
  | flushesAll : Effect system .flushAll system.store.flushAll.2
  | faults {unwritable : SortedMap PageId String} :
      Effect system (.fault unwritable) { system.store with unwritable }

theorem effect_perform (system : System) (action : Action) :
    Effect system action (system.perform action).store := by
  cases action with
  | call txn call =>
      rw [System.perform]
      cases busy : system.pending.get? txn with
      | some operation =>
          rw [begin_of_busy busy]
          exact .idles
      | none =>
          rcases run : call.start txn system.store with ⟨begun, after⟩
          rw [begin_of_idle busy run]
          exact .begins run
  | advance txn =>
      rw [System.perform]
      cases busy : system.pending.get? txn with
      | none =>
          rw [advance_of_idle busy]
          exact .idles
      | some operation =>
          rcases run : operation.step system.store with ⟨turn, after⟩
          rw [advance_eq busy run]
          exact .advances busy run
  | drop handle =>
      rw [System.perform]
      split
      · next live => exact .drops live
      · exact .idles
  | commit txn =>
      rw [System.perform, System.finish]
      split
      · exact .idles
      · exact .commits
  | abort txn =>
      rw [System.perform, System.finish]
      split
      · exact .idles
      · exact .aborts
  | flush page => exact .flushes
  | flushAll => exact .flushesAll
  | fault unwritable => exact .faults

theorem pending_begin {txn : TxnId} {call : Call} {begun : Option Operation} {after : Store}
    (idle : system.pending.get? txn = none) (run : call.start txn system.store = (begun, after))
    (other : TxnId) :
    (system.begin txn call).pending.get? other =
      if other = txn then begun else system.pending.get? other := by
  rw [begin_of_idle idle run]
  cases begun with
  | none =>
      by_cases same : other = txn
      · rw [if_pos same, same]
        exact idle
      · rw [if_neg same]
  | some operation => exact SortedMap.get?_insert ..

theorem pending_advance {txn : TxnId} {operation : Operation} {turn : Turn} {after : Store}
    (busy : system.pending.get? txn = some operation)
    (run : operation.step system.store = (turn, after)) (other : TxnId) :
    (system.advance txn).pending.get? other =
      if other = txn then turn.next else system.pending.get? other := by
  rw [advance_eq busy run]
  cases next : turn.next with
  | none => exact SortedMap.get?_erase ..
  | some goes => exact SortedMap.get?_insert ..

theorem ne_of_pending {txn other : TxnId} {operation : Operation}
    (idle : system.pending.get? txn = none)
    (pending : system.pending.get? other = some operation) : other ≠ txn := by
  intro same
  rw [same, idle] at pending
  cases pending

/-- The action writes changes only of the given transactions: pages that leave
the cache have no others. -/
structure Permits (writes : List Event → TxnId → Prop) (system : System) (action : Action) :
    Prop where
  flushes : action.flushes = true → ∀ txn, writes system.history txn
  spares : system.store.Spares (writes system.history) (system.perform action).store

/-- The second system comes of the first: it is sound, and the outline of its
store is reached on a path with the events since. -/
structure Follows (writes : List Event → TxnId → Prop) (system after : System) : Prop where
  sound : after.Sound
  catalog : after.store.catalog = system.store.catalog
  path : Outline.Path system.store.catalog.blank writes system.record after.record

variable {after : Store} {txn : TxnId}

/-- Work of the store that touches no lock and no operation. -/
theorem Sound.shifts (sound : system.Sound)
    (reaches : Store.Reaches (writes system.history) system.store after)
    (locks : after.locks = system.store.locks) : Follows writes system { system with store := after } where
  sound := ⟨reaches.sound, fun txn operation found =>
    (sound.ready txn operation found).of_modes reaches.catalog fun id => by rw [locks]⟩
  catalog := reaches.catalog
  path := Outline.Shifts.path reaches.shifts

theorem Sound.begin (sound : system.Sound) {call : Call} :
    Follows writes system (system.begin txn call) := by
  cases busy : system.pending.get? txn with
  | some operation =>
      rw [begin_of_busy busy]
      exact ⟨sound, rfl, .refl⟩
  | none =>
      rcases run : call.start txn system.store with ⟨begun, after⟩
      have pending := pending_begin busy run
      rw [begin_of_idle busy run] at pending ⊢
      obtain ⟨grows, ready⟩ := sound.store.start run
      have follows : Follows writes system { system with store := after } :=
        sound.shifts (grows.reaches _) grows.locks
      refine ⟨⟨follows.sound.store, ?_⟩, follows.catalog, follows.path⟩
      intro other found known
      rw [pending] at known
      split at known
      · next same => exact same ▸ ready found known
      · exact follows.sound.ready other found known

theorem Sound.advance (sound : system.Sound)
    (spares : system.store.Spares (writes system.history) (system.advance txn).store) :
    Follows writes system (system.advance txn) := by
  cases busy : system.pending.get? txn with
  | none =>
      rw [advance_of_idle busy]
      exact ⟨sound, rfl, .refl⟩
  | some operation =>
      rcases run : operation.step system.store with ⟨turn, after⟩
      have pending := pending_advance busy run
      rw [advance_eq busy run] at spares pending ⊢
      have turned := sound.store.turned (sound.ready txn operation busy) run spares
      refine ⟨⟨turned.advances.sound, ?_⟩, turned.advances.catalog, turned.advances.path⟩
      intro other found known
      rw [pending] at known
      split at known
      · next same => exact same ▸ turned.ready found known
      · next different =>
          exact (sound.ready other found known).of_modes turned.advances.catalog
            fun id => turned.others other id different

theorem Sound.finish (sound : system.Sound) {event : Event}
    (ends : Store.Ends system.store after txn)
    (step : Outline.Step system.store.outline system.store.catalog.blank
      (writes system.history) [event] after.outline) :
    Follows writes system (system.finish txn after event) := by
  rw [System.finish]
  cases busy : system.pending.get? txn with
  | some operation => exact ⟨sound, rfl, .refl⟩
  | none =>
      refine ⟨⟨ends.sound, fun other found pending => ?_⟩, ends.still.catalog,
        Outline.Step.path step⟩
      apply (sound.ready other found pending).of_modes ends.still.catalog
      intro id
      rw [ends.mode sound.store, Outline.released, if_neg (ne_of_pending busy pending)]
      rfl

theorem Sound.perform (sound : system.Sound) {action : Action}
    (permits : Permits writes system action) : Follows writes system (system.perform action) := by
  have stays : Follows writes system system := ⟨sound, rfl, .refl⟩
  have rests {after : Store} (rests : system.store.Rests after)
      (locks : after.locks = system.store.locks) :
      Follows writes system { system with store := after } :=
    sound.shifts (rests.moves_of_locks sound.store locks).reaches locks
  cases action with
  | call txn call => exact sound.begin
  | advance txn => exact sound.advance permits.spares
  | drop handle =>
      rw [System.perform]
      split
      · obtain ⟨unpinned, locks⟩ := sound.store.unpin handle
        have follows := rests unpinned locks
        exact ⟨⟨follows.sound.store, follows.sound.ready⟩, follows.catalog, follows.path⟩
      · exact stays
  | commit txn =>
      obtain ⟨ends, outline, -⟩ := sound.store.commit txn
      exact sound.finish ends (outline ▸ .commit txn system.store.takes)
  | abort txn =>
      obtain ⟨ends, outline, -⟩ := sound.store.abort txn
      exact sound.finish ends (outline ▸ .abort txn)
  | flush page =>
      obtain ⟨reaches, locks⟩ := sound.store.flush_reaches (permits.flushes rfl) page
      exact sound.shifts reaches locks
  | flushAll =>
      obtain ⟨reaches, locks⟩ :=
        sound.store.flushEach_reaches (permits.flushes rfl) system.store.frames.keys
      exact sound.shifts reaches locks
  | fault unwritable =>
      have reaches : Store.Reaches (writes system.history) system.store
          { system.store with unwritable } :=
        ⟨rfl, ⟨sound.store.catalog, sound.store.locks, sound.store.page⟩, .refl⟩
      exact sound.shifts reaches rfl

/-! ## Runs -/

/-- A condition on the actions of a run, each in the state in which it comes. -/
def Along (condition : System → Action → Prop) : System → List Action → Prop
  | _, [] => True
  | system, action :: actions =>
      condition system action ∧ Along condition (system.perform action) actions

instance Along.decidable (condition : System → Action → Prop)
    [∀ system action, Decidable (condition system action)] :
    ∀ (system : System) (actions : List Action), Decidable (Along condition system actions)
  | _, [] => .isTrue trivial
  | system, action :: actions =>
      have := decidable condition (system.perform action) actions
      inferInstanceAs (Decidable (_ ∧ _))

theorem Along.mono {condition weaker : System → Action → Prop}
    (implies : ∀ system action, condition system action → weaker system action) :
    ∀ (actions : List Action) (system : System), Along condition system actions →
      Along weaker system actions
  | [], _, _ => trivial
  | action :: actions, system, ⟨first, rest⟩ =>
      ⟨implies system action first, mono implies actions (system.perform action) rest⟩

theorem Along.intro {condition : System → Action → Prop}
    (holds : ∀ system action, condition system action) :
    ∀ (actions : List Action) (system : System), Along condition system actions
  | [], _ => trivial
  | action :: actions, system =>
      ⟨holds system action, Along.intro holds actions (system.perform action)⟩

theorem Along.append_iff {condition : System → Action → Prop} {first second : List Action} :
    Along condition system (first ++ second) ↔
      Along condition system first ∧ Along condition (system.run first) second := by
  induction first generalizing system with
  | nil => exact iff_and_self.mpr fun _ => trivial
  | cons action first ih => exact (and_congr_right fun _ => ih).trans and_assoc.symm

def Numbered (system : System) (action : Action) : Prop :=
  (system.perform action).store.Addressable

instance (system : System) (action : Action) : Decidable (Numbered system action) :=
  inferInstanceAs (Decidable (Store.Addressable _))

theorem Follows.trans {middle after : System} (first : Follows writes system middle)
    (second : Follows writes middle after) : Follows writes system after where
  sound := second.sound
  catalog := second.catalog.trans first.catalog
  path := first.path.trans (first.catalog ▸ second.path)

theorem Sound.run (sound : system.Sound) {actions : List Action}
    (along : Along (Permits writes) system actions) :
    Follows writes system (system.run actions) := by
  induction actions generalizing system with
  | nil => exact ⟨sound, rfl, .refl⟩
  | cons action actions ih =>
      obtain ⟨permits, rest⟩ := along
      have first := sound.perform permits
      exact first.trans (ih first.sound rest)

theorem Permits.any (system : System) (action : Action) :
    Permits (fun _ _ => True) system action :=
  ⟨fun _ _ => trivial, .any⟩

theorem Sound.follows (sound : system.Sound) (actions : List Action) :
    Follows (fun _ _ => True) system (system.run actions) :=
  sound.run (Along.intro Permits.any actions system)

end System

/-! ## Beginnings -/

namespace Store

/-- Nobody used the store yet, whose files may have pages. -/
structure Unused (store : Store) : Prop where
  catalog : store.catalog.Sound
  locks : store.locks = {}
  frames : store.frames = ∅
  unflushed : store.unflushed = ∅
  policy : ∀ queue, store.policy = .leastRecent queue → queue = {}

structure Fresh (store : Store) : Prop extends Unused store where
  addressable : store.Addressable

variable {store : Store}

theorem Unused.uncached (unused : store.Unused) (id : PageId) : store.cached? id = none := by
  rw [cached?, unused.frames]
  rfl

theorem Unused.sound (unused : store.Unused) : store.Sound where
  catalog := unused.catalog
  locks := unused.locks ▸ LockTable.sound_empty
  page id page cached := by
    rw [unused.uncached] at cached
    cases cached

theorem Unused.pinned (unused : store.Unused) : store.Pinned [] where
  handle _ member := by cases member
  pins id frame found := by
    rw [unused.frames] at found
    cases found
  lists queue known := by
    rw [unused.policy queue known]
    refine ⟨RecencyQueue.sound_empty, fun page => ?_⟩
    rw [Idle, unused.frames]
    simp [RecencyQueue.lists, SortedMap.contains]

end Store

namespace System

variable {system : System}

structure Unused (system : System) : Prop where
  store : system.store.Unused
  pending : system.pending = ∅
  handles : system.handles = []
  history : system.history = []

structure Fresh (system : System) : Prop where
  store : system.store.Fresh
  pending : system.pending = ∅
  handles : system.handles = []
  history : system.history = []

theorem Fresh.unused (fresh : system.Fresh) : system.Unused :=
  ⟨fresh.store.toUnused, fresh.pending, fresh.handles, fresh.history⟩

theorem Unused.sound (unused : system.Unused) : system.Sound where
  store := unused.store.sound
  ready txn operation found := by
    rw [unused.pending] at found
    cases found

theorem Fresh.sound (fresh : system.Fresh) : system.Sound := fresh.unused.sound

end System

/-! ## A small store -/

def Table.numbers : Table := ⟨⟨1⟩, "numbers", ⟨[⟨"number", .int⟩]⟩, 8⟩

def Row.ofNumber (number : Int32) : Row := ⟨Table.numbers.schema, [.int number], none, rfl⟩

def Store.ofNumbers (capacity : Nat) : Store where
  disk := (∅ : Disk).insert "numbers" ∅
  catalog := ({} : Catalog).add .numbers "numbers"
  capacity

theorem Store.fresh_ofNumbers (capacity : Nat) : (Store.ofNumbers capacity).Fresh where
  catalog := (by decide +kernel : (({} : Catalog).add .numbers "numbers").Sound)
  addressable := (by decide +kernel : (Store.ofNumbers 0).Addressable)
  locks := rfl
  frames := rfl
  unflushed := rfl
  policy queue known := (EvictionPolicy.leastRecent.inj known).symm

def System.ofNumbers (capacity : Nat) : System := { store := .ofNumbers capacity }

theorem System.fresh_ofNumbers (capacity : Nat) : (System.ofNumbers capacity).Fresh :=
  ⟨Store.fresh_ofNumbers capacity, rfl, rfl, rfl⟩

end TableStore
