import Mathlib.Data.Fintype.Card
import Mathlib.Data.List.Permutation
import Mathlib.Data.Set.Finite.Basic
import Mathlib.Order.WellFounded
import TableStore.Proofs.Deadlocks
import TableStore.Store.Fetch

/-!
# No deadlock goes unnoticed

A transaction that asks for a lock and is refused looks for a deadlock next.  If
it finds one it takes its request back; if not it is parked, and asks again later.
The calls of all transactions come in any order, one at a time, and meanwhile
others get locks and release them.  A lock that is granted can make others wait
for its transaction, but this one waits for nobody then; and a transaction that is
parked has just looked whether it closes a circle.  So parked transactions never
wait for each other in a circle.
-/

set_option autoImplicit false

namespace TableStore

/-! ## Relations without circles -/

section

variable {α : Type} {before after : α → α → Prop}

/-- New steps that all end in a node without steps close no circle. -/
theorem acyclic_of_sink (node : α) (acyclic : ∀ a, ¬ Relation.TransGen before a a)
    (steps : ∀ a b, after a b → b = node ∨ before a b) (sink : ∀ b, ¬ after node b) (a : α) :
    ¬ Relation.TransGen after a a := by
  have ways (a b : α) (way : Relation.TransGen after a b) :
      b = node ∨ Relation.TransGen before a b := by
    induction way with
    | single step => exact (steps a _ step).imp_right .single
    | tail way step ih =>
        rename_i via last
        rcases steps via last step with ends | old
        · exact .inl ends
        · rcases ih with rfl | way
          · exact absurd step (sink last)
          · exact .inr (way.tail old)
  intro circle
  rcases ways a a circle with rfl | old
  · obtain ⟨b, first, -⟩ := Relation.TransGen.head'_iff.mp circle
    exact sink b first
  · exact acyclic a old

theorem acyclic_of_source (node : α) (acyclic : ∀ a, ¬ Relation.TransGen before a a)
    (steps : ∀ a b, after a b → before a b ∨ a = node)
    (unclosed : ¬ Relation.TransGen after node node) (a : α) : ¬ Relation.TransGen after a a := by
  have ways (a b : α) (way : Relation.TransGen after a b) : Relation.TransGen before a b ∨
      Relation.ReflTransGen after a node ∧ Relation.TransGen after node b := by
    induction way with
    | single step =>
        rcases steps a _ step with old | rfl
        · exact .inl (.single old)
        · exact .inr ⟨.refl, .single step⟩
    | tail way step ih =>
        rename_i via last
        rcases ih with old | ⟨inward, onward⟩
        · rcases steps via last step with older | rfl
          · exact .inl (old.tail older)
          · exact .inr ⟨way.to_reflTransGen, .single step⟩
        · exact .inr ⟨inward, onward.tail step⟩
  intro circle
  rcases ways a a circle with old | ⟨inward, onward⟩
  · exact acyclic a old
  · exact unclosed (onward.trans_left inward)

/-- Of finitely many nodes that do not lead in a circle, one leads to none of
them. -/
theorem exists_end (acyclic : ∀ a, ¬ Relation.TransGen before a a) {nodes : List α} {node : α}
    (member : node ∈ nodes) : ∃ last ∈ nodes, ∀ next ∈ nodes, ¬ before last next := by
  let onward (a b : { a // a ∈ nodes }) : Prop := Relation.TransGen before b.1 a.1
  have : IsTrans _ onward := ⟨fun _ _ _ first second => second.trans first⟩
  have : Std.Irrefl onward := ⟨fun a circle => acyclic a.1 circle⟩
  have finite : Finite { a // a ∈ nodes } := (List.finite_toSet nodes).to_subtype
  have ends := Finite.wellFounded_of_trans_of_irrefl onward
  obtain ⟨⟨last, inside⟩, -, least⟩ := ends.has_min Set.univ ⟨⟨node, member⟩, trivial⟩
  refine ⟨last, inside, ?_⟩
  intro next listed step
  exact least ⟨next, listed⟩ trivial (.single step)

end

/-! ## Calls -/

/-- Where a transaction is whose request was refused: it has to look for a
deadlock; it found one, and has to take its request back; or it is parked. -/
inductive Stage where
  | refused
  | circular
  | parked
deriving DecidableEq

/-- The lock table, and the transactions that were refused their requests. -/
structure Contest where
  table : LockTable := {}
  requests : SortedMap TxnId (LockRequest × Stage) := ∅

inductive LockCall where
  | acquire (txn : TxnId) (request : LockRequest)
  | retry (txn : TxnId)
  | check (txn : TxnId)
  | cancel (txn : TxnId)
  | release (txn : TxnId) (page : PageId)
  | releaseAll (txn : TxnId)

namespace Contest

variable (contest : Contest)

def ask (txn : TxnId) (request : LockRequest) : Contest :=
  match contest.table.acquire txn request.page request.mode with
  | (true, table) => ⟨table, contest.requests.erase txn⟩
  | (false, table) => ⟨table, contest.requests.insert txn (request, .refused)⟩

def perform : LockCall → Contest
  | .acquire txn request =>
      match contest.requests.get? txn with
      | none => contest.ask txn request
      | some _ => contest
  | .retry txn =>
      match contest.requests.get? txn with
      | some (request, .parked) => contest.ask txn request
      | _ => contest
  | .check txn =>
      match contest.requests.get? txn with
      | some (request, .refused) =>
          let stage := if contest.table.isDeadlock txn request.page then .circular else .parked
          { contest with requests := contest.requests.insert txn (request, stage) }
      | _ => contest
  | .cancel txn =>
      match contest.requests.get? txn with
      | some (_, .circular) =>
          ⟨contest.table.cancelWait txn, contest.requests.erase txn⟩
      | _ => contest
  | .release txn page =>
      match contest.requests.get? txn with
      | none => { contest with table := (contest.table.release txn page).2 }
      | some _ => contest
  | .releaseAll txn =>
      match contest.requests.get? txn with
      | none => { contest with table := (contest.table.releaseAll txn).2 }
      | some _ => contest

def run (calls : List LockCall) : Contest := calls.foldl perform contest

def Parked (txn : TxnId) : Prop :=
  ∃ request, contest.requests.get? txn = some (request, .parked)

/-- No transaction is between a refusal and the end of its look for a deadlock. -/
def Settled : Prop :=
  ∀ txn request stage, contest.requests.get? txn = some (request, stage) → stage = .parked

def Blocked (txn other : TxnId) : Prop := contest.Parked txn ∧ contest.table.WaitsFor txn other

/-- A store that asks for a lock makes three calls at once: the request; if it is
refused the look for a deadlock; and if there is one the call that takes the
request back. -/
theorem askLock_calls (contest : Contest) (store : Store) (same : store.locks = contest.table)
    (txn : TxnId) (page : PageId) (mode : LockMode) :
    let after := (contest.ask txn ⟨page, mode⟩).run [.check txn, .cancel txn]
    after.table = (store.askLock txn page mode).2.locks ∧
      after.requests.get? txn = match (store.askLock txn page mode).1 with
        | .refused => some (⟨page, mode⟩, .parked)
        | _ => none := by
  unfold ask Store.askLock
  rw [same]
  rcases contest.table.acquire txn page mode with ⟨_ | _, table⟩
  · by_cases circle : table.isDeadlock txn page = true
    · simp [run, perform, SortedMap.get?_insert_self, SortedMap.get?_erase, circle]
    · simp [run, perform, SortedMap.get?_insert_self, circle]
  · simp [run, perform, SortedMap.get?_erase]

/-! ## What calls preserve -/

structure Sound (contest : Contest) : Prop where
  table : contest.table.Sound
  waiting : ∀ txn, contest.table.waiting.get? txn = (contest.requests.get? txn).map Prod.fst
  acyclic : ∀ txn, ¬ Relation.TransGen contest.Blocked txn txn

variable {contest} {after : Contest} {txn other : TxnId} {request : LockRequest}

theorem Sound.acyclic_of_fewer (sound : contest.Sound)
    (fewer : ∀ txn other, after.Blocked txn other → contest.Blocked txn other) (txn : TxnId) :
    ¬ Relation.TransGen after.Blocked txn txn := by
  intro circle
  exact sound.acyclic txn (Relation.TransGen.mono fewer _ _ circle)

theorem waitsFor_of_modes {table before : LockTable} (waitsFor : table.WaitsFor txn other)
    (waits : table.waiting.get? txn = before.waiting.get? txn)
    (modes : ∀ page, table.mode? other page = before.mode? other page ∨
      table.mode? other page = none) : before.WaitsFor txn other := by
  obtain ⟨request, known, different, held, holds, conflict⟩ := waitsFor
  refine ⟨request, waits ▸ known, different, held, ?_, conflict⟩
  rcases modes request.page with same | gone
  · exact same ▸ holds
  · cases gone.symm.trans holds

theorem ask_of_granted
    (granted : (contest.table.acquire txn request.page request.mode).1 = true) :
    contest.ask txn request =
      ⟨(contest.table.acquire txn request.page request.mode).2, contest.requests.erase txn⟩ := by
  unfold ask
  rcases run : contest.table.acquire txn request.page request.mode with ⟨_ | _, table⟩
  · rw [run] at granted
    cases granted
  · rfl

theorem ask_of_refused
    (refused : (contest.table.acquire txn request.page request.mode).1 = false) :
    contest.ask txn request = ⟨(contest.table.acquire txn request.page request.mode).2,
      contest.requests.insert txn (request, .refused)⟩ := by
  unfold ask
  rcases run : contest.table.acquire txn request.page request.mode with ⟨_ | _, table⟩
  · rfl
  · rw [run] at refused
    cases refused

theorem Sound.ask_granted (sound : contest.Sound)
    (granted : (contest.table.acquire txn request.page request.mode).1 = true) :
    (contest.ask txn request).Sound := by
  rw [ask_of_granted granted]
  have waiting (other : TxnId) :
      (contest.table.acquire txn request.page request.mode).2.waiting.get? other =
        if other = txn then none else contest.table.waiting.get? other := by
    rw [LockTable.waiting_of_granted granted, SortedMap.get?_erase]
  refine ⟨sound.table.acquire, ?_, ?_⟩
  · intro other
    rw [waiting, SortedMap.get?_erase, sound.waiting]
    split
    · rfl
    · rfl
  · have unparked (table : LockTable) (other : TxnId)
        (parked : Parked ⟨table, contest.requests.erase txn⟩ other) :
        other ≠ txn ∧ contest.Parked other := by
      obtain ⟨known, found⟩ := parked
      rw [SortedMap.get?_erase] at found
      split at found
      · cases found
      · next different => exact ⟨different, known, found⟩
    apply acyclic_of_sink txn sound.acyclic
    · rintro first second ⟨parked, waitsFor⟩
      by_cases here : second = txn
      · exact .inl here
      · obtain ⟨different, before⟩ := unparked _ first parked
        refine .inr ⟨before, waitsFor_of_modes waitsFor ?_ ?_⟩
        · rw [waiting, if_neg different]
        · intro page
          exact .inl (by rw [LockTable.mode?_of_granted granted, if_neg fun own => here own.1])
    · rintro second ⟨parked, -⟩
      exact (unparked _ txn parked).1 rfl

theorem Sound.ask_refused (sound : contest.Sound)
    (refused : (contest.table.acquire txn request.page request.mode).1 = false) :
    (contest.ask txn request).Sound := by
  rw [ask_of_refused refused]
  have waiting (other : TxnId) :
      (contest.table.acquire txn request.page request.mode).2.waiting.get? other =
        if other = txn then some request else contest.table.waiting.get? other := by
    rw [LockTable.waiting_of_refused refused, SortedMap.get?_insert]
  refine ⟨sound.table.acquire, ?_, ?_⟩
  · intro other
    rw [waiting, SortedMap.get?_insert, sound.waiting]
    split
    · rfl
    · rfl
  · apply sound.acyclic_of_fewer
    rintro first second ⟨⟨known, found⟩, waitsFor⟩
    rw [SortedMap.get?_insert] at found
    split at found
    · cases found
    · next different =>
        refine ⟨⟨known, found⟩, waitsFor_of_modes waitsFor ?_ ?_⟩
        · rw [waiting, if_neg different]
        · intro page
          exact .inl (LockTable.mode?_of_refused refused)

theorem Sound.ask (sound : contest.Sound) : (contest.ask txn request).Sound := by
  cases answer : (contest.table.acquire txn request.page request.mode).1 with
  | true => exact sound.ask_granted answer
  | false => exact sound.ask_refused answer

/-- A transaction is parked only if waiting does not lead back to it, in a circle
of parked transactions or of any. -/
theorem Sound.check (sound : contest.Sound)
    (refused : contest.requests.get? txn = some (request, .refused)) :
    Sound { contest with
      requests := contest.requests.insert txn
        (request, if contest.table.isDeadlock txn request.page then .circular else .parked) } := by
  have waits : contest.table.waiting.get? txn = some request := by
    rw [sound.waiting, refused]
    rfl
  refine ⟨sound.table, ?_, ?_⟩
  · intro other
    rw [SortedMap.get?_insert, sound.waiting]
    split
    · next here =>
        rw [here, refused]
        rfl
    · rfl
  · apply acyclic_of_source txn sound.acyclic
    · rintro first second ⟨⟨known, found⟩, waitsFor⟩
      rw [SortedMap.get?_insert] at found
      split at found
      · next here => exact .inr here
      · exact .inl ⟨⟨known, found⟩, waitsFor⟩
    · intro circle
      obtain ⟨second, ⟨⟨known, found⟩, -⟩, -⟩ := Relation.TransGen.head'_iff.mp circle
      rw [SortedMap.get?_insert, if_pos rfl] at found
      have waiting : Relation.TransGen contest.table.WaitsFor txn txn :=
        Relation.TransGen.mono (fun _ _ blocked => blocked.2) _ _ circle
      rw [if_pos ((LockTable.isDeadlock_iff waits).mpr waiting)] at found
      cases found

theorem Sound.cancel (sound : contest.Sound) :
    Sound ⟨contest.table.cancelWait txn, contest.requests.erase txn⟩ := by
  have waiting (other : TxnId) : (contest.table.cancelWait txn).waiting.get? other =
      if other = txn then none else contest.table.waiting.get? other :=
    SortedMap.get?_erase _ _ _
  refine ⟨sound.table, ?_, ?_⟩
  · intro other
    rw [waiting, SortedMap.get?_erase, sound.waiting]
    split
    · rfl
    · rfl
  · apply sound.acyclic_of_fewer
    rintro first second ⟨⟨known, found⟩, waitsFor⟩
    rw [SortedMap.get?_erase] at found
    split at found
    · cases found
    · next different =>
        refine ⟨⟨known, found⟩, waitsFor_of_modes waitsFor ?_ fun _ => .inl rfl⟩
        rw [waiting, if_neg different]

theorem Sound.unlock (sound : contest.Sound) {table : LockTable} (tableSound : table.Sound)
    (waiting : ∀ txn, table.waiting.get? txn = contest.table.waiting.get? txn)
    (modes : ∀ txn page, table.mode? txn page = contest.table.mode? txn page ∨
      table.mode? txn page = none) : Sound { contest with table } := by
  refine ⟨tableSound, ?_, ?_⟩
  · intro txn
    rw [waiting, sound.waiting]
  · apply sound.acyclic_of_fewer
    rintro first second ⟨parked, waitsFor⟩
    exact ⟨parked, waitsFor_of_modes waitsFor (waiting first) (modes second)⟩

theorem Sound.release (sound : contest.Sound) (page : PageId) :
    Sound { contest with table := (contest.table.release txn page).2 } := by
  apply sound.unlock sound.table.release
  · intro other
    rw [LockTable.waiting_release]
  · intro other place
    rw [LockTable.mode?_release sound.table]
    split
    · exact .inr rfl
    · exact .inl rfl

theorem Sound.releaseAll (sound : contest.Sound) (idle : contest.requests.get? txn = none) :
    Sound { contest with table := (contest.table.releaseAll txn).2 } := by
  apply sound.unlock sound.table.releaseAll
  · intro other
    rw [LockTable.waiting_releaseAll, SortedMap.get?_erase]
    split
    · next here =>
        rw [here, sound.waiting, idle]
        rfl
    · rfl
  · intro other place
    rw [LockTable.mode?_releaseAll sound.table]
    split
    · exact .inr rfl
    · exact .inl rfl

theorem Sound.perform (sound : contest.Sound) (call : LockCall) : (contest.perform call).Sound := by
  cases call with
  | acquire txn request =>
      unfold Contest.perform
      dsimp only
      split
      · exact sound.ask
      · exact sound
  | retry txn =>
      unfold Contest.perform
      dsimp only
      split
      · exact sound.ask
      · exact sound
  | check txn =>
      unfold Contest.perform
      dsimp only
      split
      · next refused => exact sound.check refused
      · exact sound
  | cancel txn =>
      unfold Contest.perform
      dsimp only
      split
      · exact sound.cancel
      · exact sound
  | release txn page =>
      unfold Contest.perform
      dsimp only
      split
      · exact sound.release page
      · exact sound
  | releaseAll txn =>
      unfold Contest.perform
      dsimp only
      split
      · next idle => exact sound.releaseAll idle
      · exact sound

theorem sound_empty : ({} : Contest).Sound where
  table := LockTable.sound_empty
  waiting _ := rfl
  acyclic txn circle := by
    obtain ⟨_, ⟨⟨request, found⟩, -⟩, -⟩ := Relation.TransGen.head'_iff.mp circle
    cases found

theorem Sound.run (sound : contest.Sound) (calls : List LockCall) : (contest.run calls).Sound := by
  induction calls generalizing contest with
  | nil => exact sound
  | cons call calls ih => exact ih (sound.perform call)

theorem Sound.waitsFor_of_settled (sound : contest.Sound) (settled : contest.Settled)
    (waitsFor : contest.table.WaitsFor txn other) : contest.Blocked txn other := by
  refine ⟨?_, waitsFor⟩
  obtain ⟨request, waits, -⟩ := waitsFor
  rw [sound.waiting] at waits
  obtain ⟨⟨known, stage⟩, found, rfl⟩ := Option.map_eq_some_iff.mp waits
  cases settled txn known stage found
  exact ⟨known, found⟩

theorem Sound.exists_unblocked (sound : contest.Sound) (parked : contest.Parked txn) :
    ∃ last, contest.Parked last ∧
      ∀ other, contest.table.WaitsFor last other → ¬ contest.Parked other := by
  let waiters : SortedMap TxnId (LockRequest × Stage) :=
    contest.requests.filter fun _ asked => asked.2 = .parked
  have listed (txn : TxnId) : txn ∈ waiters.keys ↔ contest.Parked txn := by
    rw [SortedMap.mem_keys_iff, SortedMap.get?_filter]
    constructor
    · rintro ⟨⟨request, stage⟩, found⟩
      obtain ⟨known, kept⟩ := Option.filter_eq_some_iff.mp found
      cases of_decide_eq_true kept
      exact ⟨request, known⟩
    · rintro ⟨request, found⟩
      exact ⟨(request, .parked), Option.filter_eq_some_iff.mpr ⟨found, rfl⟩⟩
  obtain ⟨last, member, free⟩ := exists_end sound.acyclic ((listed txn).mpr parked)
  refine ⟨last, (listed last).mp member, ?_⟩
  intro other waitsFor waits
  exact free other ((listed other).mpr waits) ⟨(listed last).mp member, waitsFor⟩

/-- In whatever order the transactions make their calls, the parked ones never wait
for each other in a circle; and if there are any, one of them waits only for
transactions that are not parked. -/
theorem parked_transactions_close_no_circle (calls : List LockCall) :
    ((run {} calls).Settled → ∀ txn, ¬ Relation.TransGen (run {} calls).table.WaitsFor txn txn) ∧
      ((∃ txn, (run {} calls).Parked txn) → ∃ txn, (run {} calls).Parked txn ∧
        ∀ other, (run {} calls).table.WaitsFor txn other → ¬ (run {} calls).Parked other) := by
  have sound := sound_empty.run calls
  constructor
  · intro settled txn circle
    have blocked : Relation.TransGen (run {} calls).Blocked txn txn :=
      Relation.TransGen.mono (fun _ _ => sound.waitsFor_of_settled settled) _ _ circle
    exact sound.acyclic txn blocked
  · rintro ⟨txn, parked⟩
    exact sound.exists_unblocked parked

/-- Two transactions are refused before either of them looks for a deadlock.  The
second one waits for the first, and the first for one that waits for nobody. -/
def chain : List LockCall :=
  [.acquire ⟨1⟩ ⟨⟨⟨1⟩, 0⟩, .exclusive⟩, .acquire ⟨2⟩ ⟨⟨⟨1⟩, 1⟩, .exclusive⟩,
    .acquire ⟨2⟩ ⟨⟨⟨1⟩, 0⟩, .shared⟩, .acquire ⟨3⟩ ⟨⟨⟨1⟩, 1⟩, .shared⟩, .check ⟨3⟩, .check ⟨2⟩]

theorem chain_closes_no_circle :
    (run {} chain).requests.entries =
        [(⟨2⟩, ⟨⟨⟨1⟩, 0⟩, .shared⟩, .parked), (⟨3⟩, ⟨⟨⟨1⟩, 1⟩, .shared⟩, .parked)] ∧
      (∀ txn, ¬ Relation.TransGen (run {} chain).table.WaitsFor txn txn) ∧
      ∃ txn, (run {} chain).Parked txn ∧
        ∀ other, (run {} chain).table.WaitsFor txn other → ¬ (run {} chain).Parked other := by
  have entries : (run {} chain).requests.entries =
      [(⟨2⟩, ⟨⟨⟨1⟩, 0⟩, .shared⟩, .parked), (⟨3⟩, ⟨⟨⟨1⟩, 1⟩, .shared⟩, .parked)] := by
    cbv
  obtain ⟨settled, parked⟩ := parked_transactions_close_no_circle chain
  refine ⟨entries, settled ?_, parked ⟨⟨2⟩, ⟨⟨⟨1⟩, 0⟩, .shared⟩, ?_⟩⟩
  · intro txn request stage found
    have member := SortedMap.mem_entries_iff.mpr found
    rw [entries] at member
    simp only [List.mem_cons, Prod.mk.injEq, List.not_mem_nil, or_false] at member
    rcases member with ⟨-, -, rfl⟩ | ⟨-, -, rfl⟩ <;> rfl
  · rw [← SortedMap.mem_entries_iff, entries]
    exact List.mem_cons_self

end Contest

end TableStore
