import TableStore.Proofs.Undisturbed

/-!
# Steps in a store without faults and flushes

No step of an operation disturbs another transaction, nor does its beginning, and
operations that only read disturb nobody.  An insertion that appends a page holds
the first page of its table exclusively: it has been there before.
-/

set_option autoImplicit false

namespace TableStore

/-! ## Steps of operations -/

namespace Operation

/-- An insertion begins with the first page of its table, and holds it exclusively
when it asks for another one. -/
def Enters (store : Store) (txn : TxnId) : Operation → Prop
  | .insertion task => task.request.page = task.table.page 0 ∨
      store.locks.mode? txn (task.table.page 0) = some .exclusive
  | _ => True

theorem Enters.of_modes {store after : Store} {txn : TxnId} {operation : Operation}
    (enters : operation.Enters store txn)
    (modes : ∀ id, after.locks.mode? txn id = store.locks.mode? txn id) :
    operation.Enters after txn := by
  cases operation with
  | insertion task =>
      rcases enters with first | held
      · exact .inl first
      · exact .inr ((modes _).trans held)
  | _ => trivial

end Operation

namespace Store

variable {store middle after : Store} {txn other : TxnId} {turn : Turn}

structure Progressed (store : Store) (txn : TxnId) (operation : Operation) (turn : Turn)
    (after : Store) : Prop where
  tidy : after.Tidy
  undisturbed : ∀ other, operation.writes = false ∨ other ≠ txn → Undisturbed other store after
  enters : ∀ next, turn.next = some next → next.Enters after txn

theorem Tidy.attempted (tidy : store.Tidy) (sound : store.Sound) {request : PageRequest}
    (timely : request.Timely store txn)
    {answer : Progress PageRequest (Except StoreError Handle)}
    (run : store.attempt request = (answer, middle)) :
    middle.Tidy ∧ (∀ other, Undisturbed other store middle) ∧ middle.Sound ∧
      (∀ other id, store.locks.mode? other id = some .exclusive →
        middle.locks.mode? other id = some .exclusive) ∧ Answered request store middle answer := by
  obtain ⟨rfl, held⟩ := timely
  have looks := tidy.passed (sound.attempt_passes held)
  obtain ⟨-, relocks, -⟩ := attempt_relocks sound.locks held
  have attempted : Attempted (fun _ => True) request store middle answer :=
    sound.attempted held run .any
  rw [run] at looks relocks
  exact ⟨looks.tidy, fun other => looks.undisturbed (relocks.keeps other), attempted.sound,
    relocks.exclusive, attempted.answered⟩

theorem Tidy.unpinned (tidy : store.Tidy) (sound : store.Sound) (handle : Handle) :
    (store.unpin handle).Tidy ∧ ∀ other, Undisturbed other store (store.unpin handle) := by
  obtain ⟨rests, locks⟩ := sound.unpin handle
  have looks := tidy.passed (rests.passes_of_locks sound locks)
  exact ⟨looks.tidy, looks.undisturbed_of_locks locks⟩

/-- An insertion appends a page only while it holds the first one exclusively, or if
there is none. -/
theorem Tidy.found (tidy : store.Tidy) {table : Table} {row : Row}
    {result : Except StoreError Insertion} (finds : Finds table txn row store result after)
    (registered : store.catalog.tables.get? table.id = some table)
    (addressable : after.Addressable)
    (first : after ≠ store → 0 < table.wholePages store.disk →
      store.locks.mode? txn (table.page 0) = some .exclusive) :
    after.Tidy ∧ ∀ other, other ≠ txn → Undisturbed other store after := by
  by_cases same : after = store
  · subst same
    exact ⟨tidy, fun other _ => .refl other _⟩
  · cases finds with
    | fails error => exact absurd rfl same
    | there known page => exact absurd rfl same
    | appended appends => exact tidy.appended appends registered (first same)
    | overflowed overflows => exact absurd addressable (overflows.unaddressable registered)

theorem Tidy.granted (tidy : store.Tidy) (sound : store.Sound) {request : PageRequest}
    {handle : Handle} (granted : Granted txn request store handle middle) :
    middle.Tidy ∧ (∀ other, Undisturbed other store middle) ∧ (middle.unpin handle).Tidy ∧
      ∀ other, Undisturbed other store (middle.unpin handle) := by
  obtain ⟨reached, undisturbed, -⟩ := tidy.attempted sound granted.timely granted.attempt
  obtain ⟨unpinned, kept⟩ := reached.unpinned granted.sound handle
  exact ⟨reached, undisturbed, unpinned, fun other => (undisturbed other).trans (kept other)⟩

theorem Tidy.stepped (tidy : store.Tidy) (sound : store.Sound) {operation : Operation}
    (ready : operation.Ready store txn) (enters : operation.Enters store txn)
    (run : operation.step store = (turn, after)) (addressable : after.Addressable) :
    Progressed store txn operation turn after := by
  cases sound.steps ready run with
  | seeks =>
      refine ⟨tidy, fun other _ => .refl other _, ?_⟩
      intro _ known
      cases known
      trivial
  | stops => exact ⟨tidy, fun other _ => .refl other _, by simp⟩
  | waits timely attempt modes =>
      obtain ⟨reached, undisturbed, -⟩ := tidy.attempted sound timely attempt
      refine ⟨reached, fun other _ => undisturbed other, ?_⟩
      intro _ known
      cases known
      exact enters.of_modes modes
  | fails timely attempt =>
      obtain ⟨reached, undisturbed, -⟩ := tidy.attempted sound timely attempt
      exact ⟨reached, fun other _ => undisturbed other, by simp⟩
  | fetches granted =>
      obtain ⟨reached, undisturbed, -⟩ := tidy.granted sound granted
      exact ⟨reached, fun other _ => undisturbed other, by simp⟩
  | reads granted =>
      obtain ⟨-, -, unpinned, undisturbed⟩ := tidy.granted sound granted
      refine ⟨unpinned, fun other _ => undisturbed other, ?_⟩
      intro _ known
      cases known
      trivial
  | leaves granted =>
      obtain ⟨-, -, unpinned, undisturbed⟩ := tidy.granted sound granted
      exact ⟨unpinned, fun other _ => undisturbed other, by simp⟩
  | changes granted changing exclusive changes =>
      obtain ⟨reached, undisturbed, -⟩ := tidy.granted sound granted
      obtain ⟨changed, apart⟩ := reached.changed changes exclusive
      obtain ⟨unpinned, kept⟩ := changed.unpinned changes.sound _
      refine ⟨unpinned, ?_, by simp⟩
      intro other either
      have different : other ≠ txn := either.resolve_left (by simp [changing])
      exact ((undisturbed other).trans (apart other different)).trans (kept other)
  | turns granted own exclusive finds =>
      subst own
      obtain ⟨-, -, unpinned, undisturbed⟩ := tidy.granted sound granted
      obtain ⟨-, -, -, keeps, -⟩ := tidy.attempted sound granted.timely granted.attempt
      obtain ⟨unpinnedSound, catalog⟩ := granted.unpinned
      have registered := catalog ▸ ready.1
      have first := enters.elim (fun here => here ▸ exclusive) (keeps _ _)
      rw [← locks_unpin] at first
      obtain ⟨grown, apart⟩ := unpinned.found finds registered addressable fun _ _ => first
      refine ⟨grown, ?_, ?_⟩
      · intro other either
        exact (undisturbed other).trans (apart other (either.resolve_left Bool.noConfusion))
      · intro _ known
        obtain ⟨next, rfl, rfl⟩ := next_of_turns known
        have same := (finds.ready registered rfl).1
        have locks := (finds.grows unpinnedSound registered).locks
        apply Or.inr
        rw [same, locks]
        exact first

end Store

/-! ## Beginnings of operations -/

def Call.writes : Call → Bool
  | .insert _ _ => true
  | .delete _ => true
  | _ => false

namespace Store

variable {store after : Store} {txn : TxnId}

theorem Tidy.insertion_start (tidy : store.Tidy) (sound : store.Sound) {table : Table} {row : Row}
    {result : Except StoreError Insertion}
    (registered : store.catalog.tables.get? table.id = some table)
    (run : Insertion.start table txn row store = (result, after))
    (addressable : after.Addressable) :
    after.Tidy ∧ (∀ other, other ≠ txn → Undisturbed other store after) ∧
      ∀ task, result = .ok task → task.request.page = task.table.page 0 := by
  obtain ⟨finds, grown, first⟩ := sound.start_finds registered run
  have nothing (changed : after ≠ store) (paged : 0 < table.wholePages store.disk) :
      store.locks.mode? txn (table.page 0) = some .exclusive := by
    have empty := grown.resolve_left changed
    rw [Table.countedPages_eq (tidy.addressable _ _ registered)] at empty
    omega
  obtain ⟨reached, apart⟩ := tidy.found finds registered addressable nothing
  refine ⟨reached, apart, ?_⟩
  intro task known
  rw [(finds.ready registered known).1]
  exact first task known

theorem Tidy.start (tidy : store.Tidy) (sound : store.Sound) {call : Call}
    {begun : Option Operation} (run : call.start txn store = (begun, after))
    (addressable : after.Addressable) :
    after.Tidy ∧
      (∀ other, call.writes = false ∨ other ≠ txn → Undisturbed other store after) ∧
      ∀ operation, begun = some operation →
        operation.Enters after txn ∧ operation.writes = call.writes := by
  have rests : ∀ other, call.writes = false ∨ other ≠ txn → Undisturbed other store store :=
    fun other _ => .refl other store
  cases Call.begins run with
  | refused => exact ⟨tidy, rests, by simp⟩
  | fetch page mode =>
      refine ⟨tidy, rests, ?_⟩
      intro _ known
      cases known
      exact ⟨trivial, rfl⟩
  | failed found started =>
      obtain ⟨reached, apart, -⟩ :=
        tidy.insertion_start sound (sound.registered found).1 started addressable
      exact ⟨reached, fun other either => apart other (either.resolve_left Bool.noConfusion),
        by simp⟩
  | insertion found started =>
      obtain ⟨reached, apart, enters⟩ :=
        tidy.insertion_start sound (sound.registered found).1 started addressable
      refine ⟨reached, fun other either => apart other (either.resolve_left Bool.noConfusion), ?_⟩
      intro _ known
      cases known
      exact ⟨.inl (enters _ rfl), rfl⟩
  | deletion started =>
      refine ⟨tidy, rests, ?_⟩
      intro _ known
      cases known
      exact ⟨trivial, rfl⟩
  | scan found =>
      refine ⟨tidy, rests, ?_⟩
      intro _ known
      cases known
      exact ⟨trivial, rfl⟩

end Store

end TableStore
