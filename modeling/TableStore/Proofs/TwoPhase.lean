import TableStore.Proofs.Uses

/-!
# Two-phase locking

A transaction gets locks by its requests for pages, and loses them only when it
ends.  A log of a run notes every handle that a request was answered with, also
those requests that insertions, deletions and scans make page by page, and every
end of a transaction.  From a handle on, the transaction holds the page in the
mode of the handle or a stronger one, until its end is in the log.
-/

set_option autoImplicit false

namespace TableStore

/-- What the log of a run notes: a handle that a transaction got, and its end. -/
inductive Note where
  | fetched (txn : TxnId) (page : PageId) (mode : LockMode)
  | ended (txn : TxnId)
deriving DecidableEq

/-- A log and the locks after it.  A transaction keeps the lock of each of its
handles until it ends, and of two handles in conflict to one page the first
transaction ended before the second handle was there. -/
structure TwoPhase (log : List Note) (locks : LockTable) : Prop where
  kept : ∀ earlier later txn page mode, log = earlier ++ .fetched txn page mode :: later →
    .ended txn ∉ later → locks.Covers txn page mode
  apart : ∀ earlier between later txn other page mode otherMode,
    log = earlier ++ .fetched txn page mode :: (between ++ .fetched other page otherMode :: later) →
    other ≠ txn → mode.compatible otherMode = false → .ended txn ∈ between

namespace TwoPhase

variable {log : List Note} {locks after : LockTable} {note : Note}

/-- The last note of a log is its new one, or there are notes before that. -/
theorem split_last {earlier later : List Note} {first : Note}
    (split : log ++ [note] = earlier ++ first :: later) :
    (later = [] ∧ first = note ∧ log = earlier) ∨
      ∃ rest, later = rest ++ [note] ∧ log = earlier ++ first :: rest := by
  rcases later.eq_nil_or_concat with rfl | ⟨rest, last, rfl⟩
  · obtain ⟨before, same⟩ := List.append_inj' split rfl
    cases same
    exact .inl ⟨rfl, rfl, before⟩
  · rw [List.concat_eq_append, ← List.cons_append, ← List.append_assoc] at split
    obtain ⟨before, same⟩ := List.append_inj' split rfl
    cases same
    exact .inr ⟨rest, List.concat_eq_append, before⟩

theorem nil (locks : LockTable) : TwoPhase [] locks where
  kept earlier later txn page mode split := by
    cases earlier <;> cases split
  apart earlier between later txn other page mode otherMode split := by
    cases earlier <;> cases split

variable (phases : TwoPhase log locks)

include phases

theorem still (covers : ∀ txn page mode, locks.Covers txn page mode → after.Covers txn page mode) :
    TwoPhase log after where
  kept earlier later txn page mode split running :=
    covers txn page mode (phases.kept earlier later txn page mode split running)
  apart := phases.apart

theorem ended {txn : TxnId} (covers : ∀ other page mode, other ≠ txn →
    locks.Covers other page mode → after.Covers other page mode) :
    TwoPhase (log ++ [.ended txn]) after where
  kept earlier later other page mode split running := by
    rcases split_last split with ⟨-, known, -⟩ | ⟨rest, rfl, before⟩
    · cases known
    · rw [List.mem_append, not_or] at running
      apply covers
      · rintro rfl
        exact running.2 List.mem_cons_self
      · exact phases.kept earlier rest other page mode before running.1
  apart earlier between later first second page mode otherMode split := by
    rcases split_last split with ⟨none, -, -⟩ | ⟨rest, same, before⟩
    · cases between <;> cases none
    · rcases split_last same.symm with ⟨-, known, -⟩ | ⟨rest, -, rfl⟩
      · cases known
      · exact phases.apart earlier between rest first second page mode otherMode before

/-- A new handle excludes those in conflict with it, so their transactions have
ended. -/
theorem fetched {txn : TxnId} {page : PageId} {mode : LockMode}
    (covers : ∀ txn page mode, locks.Covers txn page mode → after.Covers txn page mode)
    (got : after.Covers txn page mode) :
    TwoPhase (log ++ [.fetched txn page mode]) after where
  kept earlier later other place otherMode split running := by
    rcases split_last split with ⟨-, known, -⟩ | ⟨rest, rfl, before⟩
    · cases known
      exact got
    · rw [List.mem_append, not_or] at running
      exact covers _ _ _ (phases.kept earlier rest other place otherMode before running.1)
  apart earlier between later first second place firstMode secondMode split different conflict := by
    rcases split_last split with ⟨none, -, -⟩ | ⟨rest, same, before⟩
    · cases between <;> cases none
    · rcases split_last same.symm with ⟨-, known, rfl⟩ | ⟨rest, -, rfl⟩
      · cases known
        by_contra running
        have held := covers _ _ _ (phases.kept earlier rest first _ firstMode before running)
        exact different (held.excludes got conflict)
      · exact phases.apart earlier between rest first second place firstMode secondMode before
          different conflict

end TwoPhase

/-- No lock is given back but by a transaction that ends between two of its operations. -/
def Use.lasting : Use → Bool
  | .commit _ | .abort _ | .release .. => false
  | _ => true

namespace System

def notes (system : System) : Use → List Note
  | .act (.advance txn) =>
      match (system.pending.get? txn).bind Operation.request? with
      | some request =>
          match system.store.obtained request with
          | some handle => [.fetched handle.owner handle.page handle.mode]
          | none => []
      | none => []
  | .act (.commit txn) => if (system.pending.get? txn).isNone then [.ended txn] else []
  | .act (.abort txn) => if (system.pending.get? txn).isNone then [.ended txn] else []
  | _ => []

def log (system : System) : List Use → List Note
  | [] => []
  | use :: uses => system.notes use ++ (system.use use).log uses

structure Asking (system : System) : Prop where
  locks : system.store.locks.Sound
  asks : ∀ txn operation, system.pending.get? txn = some operation →
    operation.Asks system.store txn

variable {system : System} {txn : TxnId} {log : List Note}

theorem Asking.relock (asking : system.Asking) {after : Store}
    (same : after.locks = system.store.locks) : Asking { system with store := after } where
  locks := by
    change after.locks.Sound
    rw [same]
    exact asking.locks
  asks other operation found :=
    (asking.asks other operation found).of_modes fun id => by rw [same]

theorem Asking.begin (asking : system.Asking) (call : Call) :
    (system.begin txn call).Asking ∧ (system.begin txn call).store.locks = system.store.locks := by
  cases busy : system.pending.get? txn with
  | some operation =>
      rw [begin_of_busy busy]
      exact ⟨asking, rfl⟩
  | none =>
      rcases run : call.start txn system.store with ⟨begun, after⟩
      have pending := pending_begin busy run
      rw [begin_of_idle busy run] at pending ⊢
      obtain ⟨same, asks⟩ := Operation.start_asks run
      have kept : Asking { system with store := after } := asking.relock same
      refine ⟨⟨kept.locks, ?_⟩, same⟩
      intro other found known
      rw [pending] at known
      split at known
      · next same => exact same ▸ asks found known
      · exact kept.asks other found known

theorem Asking.finish (asking : system.Asking) {after : Store} (event : Event)
    (released : after.locks = (system.store.locks.releaseAll txn).2)
    (idle : system.pending.get? txn = none) :
    (system.finish txn after event).Asking ∧ ∀ other page, other ≠ txn →
      (system.finish txn after event).store.locks.mode? other page =
        system.store.locks.mode? other page := by
  unfold System.finish
  rw [idle]
  have modes (other : TxnId) (page : PageId) (different : other ≠ txn) :
      after.locks.mode? other page = system.store.locks.mode? other page := by
    rw [released, LockTable.mode?_releaseAll asking.locks, if_neg different]
  refine ⟨⟨?_, ?_⟩, modes⟩
  · change after.locks.Sound
    rw [released]
    exact asking.locks.releaseAll
  · intro other operation found
    apply (asking.asks other operation found).of_modes
    intro page
    exact modes other page (ne_of_pending idle found)

theorem Asking.stepped (asking : system.Asking) {operation : Operation} {turn : Turn}
    {after : Store} (busy : system.pending.get? txn = some operation)
    (run : operation.step system.store = (turn, after)) (sound : after.locks.Sound)
    (others : ∀ other page, other ≠ txn →
      after.locks.mode? other page = system.store.locks.mode? other page) :
    (system.advance txn).Asking := by
  have pending := pending_advance busy run
  rw [advance_eq busy run] at pending ⊢
  refine ⟨sound, ?_⟩
  intro other found known
  rw [pending] at known
  split at known
  · next same => exact same ▸ (asking.asks txn operation busy).step asking.locks run known
  · next different =>
      apply (asking.asks other found known).of_modes
      intro page
      exact others other page different

/-- A step of an operation strengthens locks, and gets the lock of the handle that
its request is answered with. -/
theorem Asking.advance (asking : system.Asking) (phases : TwoPhase log system.store.locks) :
    (system.advance txn).Asking ∧
      TwoPhase (log ++ system.notes (.act (.advance txn))) (system.advance txn).store.locks := by
  cases busy : system.pending.get? txn with
  | none =>
      have silent : system.notes (.act (.advance txn)) = [] := by
        simp only [notes, busy, Option.bind_none]
      rw [advance_of_idle busy, silent, List.append_nil]
      exact ⟨asking, phases⟩
  | some operation =>
      rcases run : operation.step system.store with ⟨turn, after⟩
      have stepped := operation.locks_step system.store
      rw [run] at stepped
      have reached : (system.advance txn).store = after := by rw [advance_eq busy run]
      rw [reached]
      cases makes : operation.request? with
      | none =>
          rw [makes] at stepped
          have same : after.locks = system.store.locks := stepped
          have silent : system.notes (.act (.advance txn)) = [] := by
            simp only [notes, busy, Option.bind_some, makes]
          rw [silent, List.append_nil, same]
          refine ⟨asking.stepped busy run ?_ ?_, phases⟩
          · rw [same]
            exact asking.locks
          · intro other page _
            rw [same]
      | some request =>
          rw [makes] at stepped
          have same : after.locks = (system.store.attempt request).2.locks := stepped
          have timely := (asking.asks txn operation busy).request makes
          obtain ⟨rfl, held⟩ := timely
          obtain ⟨sound, relocks, relocked⟩ := Store.attempt_relocks asking.locks held
          have covers (other : TxnId) (page : PageId) (mode : LockMode) :
              system.store.locks.Covers other page mode → after.locks.Covers other page mode := by
            intro holds
            rw [same]
            exact relocks.covers holds
          refine ⟨asking.stepped busy run ?_ ?_, ?_⟩
          · rw [same]
            exact sound
          · intro other page different
            rw [same]
            exact relocks.others other page different
          · simp only [notes, busy, Option.bind_some, makes, Store.obtained]
            generalize (system.store.attempt request).1 = answer at relocked ⊢
            cases relocked with
            | waiting modes => exact (List.append_nil log).symm ▸ phases.still covers
            | failed error => exact (List.append_nil log).symm ▸ phases.still covers
            | granted serial got => exact phases.fetched covers (same ▸ got)

theorem Asking.ends (asking : system.Asking) (phases : TwoPhase log system.store.locks)
    {after : Store} (event : Event)
    (released : after.locks = (system.store.locks.releaseAll txn).2) :
    (system.finish txn after event).Asking ∧
      TwoPhase (log ++ if (system.pending.get? txn).isNone then [.ended txn] else [])
        (system.finish txn after event).store.locks := by
  cases busy : system.pending.get? txn with
  | some operation =>
      have stays : system.finish txn after event = system := by
        unfold System.finish
        rw [busy]
      rw [stays]
      simpa using ⟨asking, phases⟩
  | none =>
      obtain ⟨still, modes⟩ := asking.finish event released busy
      refine ⟨still, phases.ended ?_⟩
      rintro other page mode different ⟨held, known, stronger⟩
      exact ⟨held, (modes other page different).trans known, stronger⟩

/-- What leaves the locks alone adds nothing to the log. -/
theorem Asking.silent (asking : system.Asking) (phases : TwoPhase log system.store.locks)
    {after : Store} (same : after.locks = system.store.locks) :
    Asking { system with store := after } ∧ TwoPhase (log ++ []) after.locks := by
  rw [List.append_nil, same]
  exact ⟨asking.relock same, phases⟩

/-- One action strengthens the locks of all transactions that it does not end. -/
theorem Asking.perform (asking : system.Asking) (phases : TwoPhase log system.store.locks)
    (action : Action) :
    (system.perform action).Asking ∧
      TwoPhase (log ++ system.notes (.act action)) (system.perform action).store.locks := by
  have silent {after : Store} (same : after.locks = system.store.locks) :
      Asking { system with store := after } ∧ TwoPhase (log ++ []) after.locks :=
    asking.silent phases same
  cases action with
  | call txn call =>
      obtain ⟨begun, same⟩ := asking.begin call
      refine ⟨begun, ?_⟩
      change TwoPhase (log ++ []) (system.begin txn call).store.locks
      rw [List.append_nil, same]
      exact phases
  | advance txn => exact asking.advance phases
  | drop handle =>
      rw [System.perform]
      split
      · obtain ⟨kept, still⟩ := silent (Store.locks_unpin system.store handle)
        exact ⟨⟨kept.locks, kept.asks⟩, still⟩
      · exact silent rfl
  | commit txn => exact asking.ends phases _ (Store.locks_commit system.store txn)
  | abort txn => exact asking.ends phases _ (Store.locks_abort system.store txn)
  | flush page => exact silent (Store.locks_flushPage system.store page)
  | flushAll => exact silent (Store.locks_flushEach _ system.store)
  | fault unwritable => exact silent rfl

/-- Flushes, and what is done to the cache, the files and the catalog, leave the locks
alone. -/
theorem Asking.use (asking : system.Asking) (phases : TwoPhase log system.store.locks) {use : Use}
    (lasting : use.lasting = true) :
    (system.use use).Asking ∧
      TwoPhase (log ++ system.notes use) (system.use use).store.locks := by
  cases use with
  | act action => exact asking.perform phases action
  | commit txn => cases lasting
  | abort txn => cases lasting
  | flushTransaction txn => exact asking.silent phases (Store.locks_flushCommittedEach _ _)
  | discard page => exact asking.silent phases (Store.locks_dropFrame _ _)
  | evictTable table => exact asking.silent phases (Store.locks_evictTable _ _)
  | release txn page => cases lasting
  | register table name => exact asking.silent phases rfl
  | unregister table => exact asking.silent phases rfl
  | files disk => exact asking.silent phases rfl
  | touch handle touch =>
      rw [System.use]
      split
      · split
        · exact asking.silent phases (Store.locks_setPageOf _ _ _)
        · exact asking.silent phases rfl
      · exact asking.silent phases rfl

theorem Asking.useAll (asking : system.Asking) (phases : TwoPhase log system.store.locks)
    {uses : List Use} (lasting : ∀ use ∈ uses, use.lasting = true) :
    (system.useAll uses).Asking ∧
      TwoPhase (log ++ system.log uses) (system.useAll uses).store.locks := by
  induction uses generalizing system log with
  | nil =>
      rw [System.log, List.append_nil]
      exact ⟨asking, phases⟩
  | cons use uses ih =>
      obtain ⟨here, later⟩ := List.forall_mem_cons.mp lasting
      obtain ⟨still, longer⟩ := asking.use phases here
      obtain ⟨last, whole⟩ := ih still longer later
      rw [System.log, ← List.append_assoc]
      exact ⟨last, whole⟩

theorem asking_start (unlocked : system.store.locks = {}) (idle : system.pending = ∅) :
    system.Asking where
  locks := by
    rw [unlocked]
    exact LockTable.sound_empty
  asks txn operation found := by
    rw [idle] at found
    cases found

/-- Locking is in two phases, and strictly so: in whatever order the transactions
take their steps, whatever is flushed or leaves the cache meanwhile, and whatever
requests fail, the lock of a handle is kept until its transaction commits or
aborts. -/
theorem locks_last_until_the_end (unlocked : system.store.locks = {})
    (idle : system.pending = ∅) {uses : List Use}
    (lasting : ∀ use ∈ uses, use.lasting = true) :
    TwoPhase (system.log uses) (system.useAll uses).store.locks :=
  ((asking_start unlocked idle).useAll (TwoPhase.nil _) lasting).2

/-- A transaction inserts a row, and its pages are flushed.  Another one, whose scan
began before, reads the page when the first one has committed. -/
def readAfterCommit : List Use :=
  [.act (.call ⟨1⟩ (.insert ⟨1⟩ (.ofNumber 5))), .act (.advance ⟨1⟩), .flushTransaction ⟨1⟩,
    .act (.call ⟨2⟩ (.scan ⟨1⟩)), .act (.advance ⟨2⟩), .act (.commit ⟨1⟩), .act (.advance ⟨2⟩)]

theorem reader_gets_page_after_commit :
    (System.ofNumbers 1).log readAfterCommit =
        [.fetched ⟨1⟩ (Table.numbers.page 0) .exclusive, .ended ⟨1⟩,
          .fetched ⟨2⟩ (Table.numbers.page 0) .shared] ∧
      TwoPhase ((System.ofNumbers 1).log readAfterCommit)
        ((System.ofNumbers 1).useAll readAfterCommit).store.locks := by
  refine ⟨by decide +kernel, ?_⟩
  have unlocked : (System.ofNumbers 1).store.locks = {} := rfl
  have idle : (System.ofNumbers 1).pending = ∅ := rfl
  exact locks_last_until_the_end unlocked idle (by decide)

end System

end TableStore
