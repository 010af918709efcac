import TableStore.Proofs.Passages
import TableStore.Proofs.Runs

/-!
# Pages that can leave the cache

Writes may fail, so what a rollback returns to may not be in the file, and changes of a
transaction that has ended may still be in the cache alone.  But as long as nobody flushes
single pages, a page without changes is as its file has it, and one with changes belongs
to a transaction that holds it exclusively, or is noted as unflushed.  Then no page looks
different when it has left the cache or come back.
-/

set_option autoImplicit false

namespace TableStore

namespace PageState

/-- A page without changes is in its file, and so is what a rollback returns to, unless
the page is noted; a page with changes is noted or held exclusively. -/
structure Backed (state : PageState) (mode : TxnId → Option LockMode) : Prop where
  image : ∀ copy, state.cached = some copy → state.unflushed = false →
    state.stored = .ok copy.image
  clean : ∀ copy, state.cached = some copy → copy.dirtiedBy = none →
    state.stored = .ok copy.contents
  dirty : ∀ copy owner, state.cached = some copy → copy.dirtiedBy = some owner →
    mode owner = some .exclusive ∨ state.unflushed = true

variable {state passed : PageState} {mode later : TxnId → Option LockMode} {txn : TxnId}
  {copy : Copy} {contents : Contents}

theorem backed_of_absent (absent : state.cached = none) : state.Backed mode where
  image copy cached := by cases absent.symm.trans cached
  clean copy cached := by cases absent.symm.trans cached
  dirty copy owner cached := by cases absent.symm.trans cached

theorem Backed.relock (backed : state.Backed mode)
    (keeps : ∀ txn, mode txn = some .exclusive → later txn = some .exclusive) :
    state.Backed later where
  image := backed.image
  clean := backed.clean
  dirty copy owner cached marked := (backed.dirty copy owner cached marked).imp_left (keeps owner)

def Remembers (state after : PageState) : Prop :=
  ∀ copy owner, after.cached = some copy → copy.dirtiedBy = some owner →
    state.cached = some copy

theorem Backed.pass (backed : state.Backed mode) (pass : state.Pass passed) :
    passed.Backed mode ∧ passed.look = state.look ∧ state.Remembers passed := by
  obtain ⟨clean, look⟩ := Faithful.pass backed.clean pass
  cases pass with
  | leave cached leaves =>
      have absent : passed.cached = none := by
        rw [leaves]
        split
        · rfl
        · rfl
      refine ⟨backed_of_absent absent, look, ?_⟩
      intro other owner known
      cases absent.symm.trans known
  | load absent stored =>
      refine ⟨⟨?_, clean, ?_⟩, look, ?_⟩
      · rintro loaded ⟨⟩ -
        exact stored
      · rintro loaded owner ⟨⟩ ⟨⟩
      · rintro loaded owner ⟨⟩ ⟨⟩

theorem Backed.passes (backed : state.Backed mode) (passes : state.Passes passed) :
    passed.Backed mode ∧ passed.look = state.look ∧ state.Remembers passed := by
  induction passes with
  | refl => exact ⟨backed, rfl, fun _ _ cached _ => cached⟩
  | tail before pass ih =>
      obtain ⟨middle, look, remembers⟩ := ih
      obtain ⟨last, same, recent⟩ := middle.pass pass
      refine ⟨last, same.trans look, ?_⟩
      intro copy owner cached marked
      exact remembers copy owner (recent copy owner cached marked) marked

theorem Backed.change (backed : state.Backed mode) (cached : state.cached = some copy)
    (exclusive : mode txn = some .exclusive) :
    ({ state with cached := some ⟨contents, copy.image, some txn⟩ } : PageState).Backed mode where
  image changed known := by
    cases known
    exact backed.image copy cached
  clean changed known marked := by
    cases known
    cases marked
  dirty changed owner known marked := by
    cases known
    cases marked
    exact .inl exclusive

/-! ## Ends of transactions -/

def without (mode : TxnId → Option LockMode) (txn other : TxnId) : Option LockMode :=
  if other = txn then none else mode other

theorem Backed.release (backed : state.Backed mode)
    (foreign : ∀ copy, state.cached = some copy → copy.dirtiedBy = some txn →
      state.unflushed = true) : state.Backed (without mode txn) where
  image := backed.image
  clean := backed.clean
  dirty copy owner cached marked := by
    by_cases own : owner = txn
    · subst own
      exact .inr (foreign copy cached marked)
    · rcases backed.dirty copy owner cached marked with held | noted
      · exact .inl ((if_neg own).trans held)
      · exact .inr noted

theorem Backed.committed (backed : state.Backed mode)
    (filed : ∀ copy, state.cached = some copy → ∃ contents, state.stored = .ok contents)
    (txn : TxnId) (taken : Bool) : (state.committed txn taken).Backed (without mode txn) := by
  unfold PageState.committed
  cases cached : state.cached with
  | none => exact backed_of_absent cached
  | some copy =>
      by_cases own : copy.dirtiedBy = some txn
      · simp only [own, if_true]
        cases taken with
        | true =>
            obtain ⟨before, stored⟩ := filed copy cached
            have back := filed_of_stored stored copy.contents
            refine ⟨?_, ?_, ?_⟩
            · intro written known _
              cases known
              exact back
            · intro written known _
              cases known
              exact back
            · intro written owner known marked
              cases known
              cases marked
        | false =>
            refine ⟨?_, ?_, fun _ _ _ _ => .inr rfl⟩
            · intro kept _ noted
              cases noted
            · intro kept known marked
              cases known
              cases own.symm.trans marked
      · simp only [own, if_false]
        apply backed.release
        intro other known marked
        cases cached.symm.trans known
        exact absurd marked own

theorem Backed.captured (backed : state.Backed mode)
    (nobody : ∀ owner, mode owner ≠ some .exclusive) : state.captured.Backed mode where
  image copy known noted := by
    obtain ⟨old, cached, rfl⟩ := Option.map_eq_some_iff.mp known
    cases marked : old.dirtiedBy with
    | none => exact backed.clean old cached marked
    | some owner =>
        rcases backed.dirty old owner cached marked with held | unwritten
        · exact absurd held (nobody owner)
        · cases noted.symm.trans unwritten
  clean copy known marked := by
    obtain ⟨old, cached, rfl⟩ := Option.map_eq_some_iff.mp known
    exact backed.clean old cached marked
  dirty copy owner known marked := by
    obtain ⟨old, cached, rfl⟩ := Option.map_eq_some_iff.mp known
    exact backed.dirty old owner cached marked

/-- A page that is rolled back is as its file has it, or noted. -/
theorem Backed.restored (backed : state.Backed mode) (txn : TxnId) :
    (state.restored txn).Backed (without mode txn) := by
  unfold PageState.restored
  cases cached : state.cached with
  | none => exact backed_of_absent rfl
  | some copy =>
      by_cases foreign : copy.dirtiedBy.any (· ≠ txn) = true
      · have same : copy.restored txn state.unflushed = copy := if_pos foreign
        rw [Option.map_some, same, ← cached]
        apply backed.release
        intro other known marked
        cases cached.symm.trans known
        simp [marked] at foreign
      · have back : copy.restored txn state.unflushed =
            ⟨copy.image, copy.image, if state.unflushed then some txn else none⟩ := if_neg foreign
        rw [Option.map_some, back]
        refine ⟨?_, ?_, ?_⟩
        · intro restored known noted
          cases known
          exact backed.image copy cached noted
        · intro restored known marked
          cases known
          cases noted : state.unflushed with
          | false => exact backed.image copy cached noted
          | true => simp [noted] at marked
        · intro restored owner known marked
          cases known
          cases noted : state.unflushed with
          | false => simp [noted] at marked
          | true => exact .inr rfl

end PageState

namespace Store

variable {store middle after : Store} {table : Table} {txn : TxnId} {operation : Operation}
  {turn : Turn}

def Backed (store : Store) : Prop :=
  ∀ id, (store.pageState id).Backed fun txn => store.locks.mode? txn id

/-- Every page looks in the second store as in the first, and is changed there only if it
was changed before, by the same transaction and to the same contents.  The pages can be
numbered. -/
structure Alike (store after : Store) : Prop extends Continues store after where
  sound : after.Sound
  addressable : after.Addressable
  backed : after.Backed
  look : ∀ id, (after.pageState id).look = (store.pageState id).look
  remembers : ∀ id, (store.pageState id).Remembers (after.pageState id)

theorem Backed.alike (backed : store.Backed) (sound : store.Sound)
    (addressable : store.Addressable) : Alike store store :=
  ⟨.refl store, sound, addressable, backed, fun _ => rfl, fun _ _ _ cached _ => cached⟩

theorem Alike.trans (first : Alike store middle) (second : Alike middle after) :
    Alike store after where
  toContinues := first.toContinues.trans second.toContinues
  sound := second.sound
  addressable := second.addressable
  backed := second.backed
  look id := (second.look id).trans (first.look id)
  remembers id copy owner cached marked :=
    first.remembers id copy owner (second.remembers id copy owner cached marked) marked

theorem Backed.passed (backed : store.Backed) (addressable : store.Addressable)
    (passes : Passes store after) : Alike store after := by
  have passed (id : PageId) := (backed id).passes (passes.page id (addressable.kept id.table))
  exact ⟨passes.toContinues, passes.sound, passes.toContinues.addressable addressable,
    fun id => (passed id).1.relock fun txn => passes.exclusive txn id,
    fun id => (passed id).2.1, fun id => (passed id).2.2⟩

theorem Backed.attempted (backed : store.Backed) (sound : store.Sound)
    (addressable : store.Addressable) {request : PageRequest} (timely : request.Timely store txn)
    {answer : Progress PageRequest (Except StoreError Handle)}
    (run : store.attempt request = (answer, after)) : Alike store after := by
  have passes := sound.attempt_passes (timely.1 ▸ timely.2)
  rw [run] at passes
  exact backed.passed addressable passes

theorem Backed.unpinned (backed : store.Backed) (sound : store.Sound)
    (addressable : store.Addressable) (handle : Handle) : Alike store (store.unpin handle) := by
  obtain ⟨rests, locks⟩ := sound.unpin handle
  exact backed.passed addressable (rests.passes_of_locks sound locks)

theorem Backed.granted (backed : store.Backed) (sound : store.Sound)
    (addressable : store.Addressable) {request : PageRequest} {handle : Handle} (granted : Granted txn request store handle middle) :
    Alike store middle ∧ Alike store (middle.unpin handle) := by
  have reached := backed.attempted sound addressable granted.timely granted.attempt
  exact ⟨reached,
    reached.trans (reached.backed.unpinned reached.sound reached.addressable handle)⟩

theorem Backed.changed (backed : store.Backed) {change : Change}
    (changes : Changes store after txn change)
    (exclusive : store.locks.mode? txn change.page = some .exclusive) : after.Backed := by
  obtain ⟨copy, cached, -, states⟩ := changes.pages
  intro id
  rw [states, changes.locks]
  split
  · next here =>
      subst here
      exact (backed _).change cached exclusive
  · exact backed id

theorem Backed.appended (backed : store.Backed) (appends : Appends store after table) :
    after.Backed := by
  have locks : after.locks = store.locks := by rw [appends.disk]
  have absent : (store.pageState (store.nextPage table)).cached = none :=
    copy_of_uncached appends.uncached
  intro id
  rw [locks]
  by_cases here : id = store.nextPage table
  · subst here
    rw [appends.state]
    exact PageState.backed_of_absent absent
  · rw [appends.others here]
    exact backed id

theorem Backed.found (backed : store.Backed) {row : Row} {result : Except StoreError Insertion}
    (finds : Finds table txn row store result after)
    (registered : store.catalog.tables.get? table.id = some table)
    (addressable : after.Addressable) : after.Backed := by
  cases finds with
  | fails error => exact backed
  | there known page => exact backed
  | appended appends => exact backed.appended appends
  | overflowed overflows => exact absurd addressable (overflows.unaddressable registered)

/-! ## Operations -/

theorem Backed.stepped (backed : store.Backed) (sound : store.Sound)
    (addressable : store.Addressable) (ready : operation.Ready store txn)
    (run : operation.step store = (turn, after)) (numbered : after.Addressable) :
    after.Backed := by
  cases sound.steps ready run with
  | seeks => exact backed
  | stops => exact backed
  | waits timely attempt => exact (backed.attempted sound addressable timely attempt).backed
  | fails timely attempt => exact (backed.attempted sound addressable timely attempt).backed
  | fetches granted => exact (backed.granted sound addressable granted).1.backed
  | reads granted => exact (backed.granted sound addressable granted).2.backed
  | leaves granted => exact (backed.granted sound addressable granted).2.backed
  | changes granted writes exclusive changes =>
      have reached := (backed.granted sound addressable granted).1
      have later := changes.toContinues.addressable reached.addressable
      have changed := reached.backed.changed changes exclusive
      exact (changed.unpinned changes.sound later _).backed
  | turns granted own exclusive finds =>
      subst own
      obtain ⟨-, catalog⟩ := granted.unpinned
      exact (backed.granted sound addressable granted).2.backed.found finds
        (catalog ▸ ready.1) numbered

theorem Backed.started (backed : store.Backed) (sound : store.Sound) {call : Call}
    {begun : Option Operation} (run : call.start txn store = (begun, after))
    (numbered : after.Addressable) : after.Backed := by
  cases Call.begins run with
  | refused => exact backed
  | fetch page mode => exact backed
  | failed found started =>
      have registered := (sound.registered found).1
      exact backed.found (sound.start_finds registered started).1 registered numbered
  | insertion found started =>
      have registered := (sound.registered found).1
      exact backed.found (sound.start_finds registered started).1 registered numbered
  | deletion started => exact backed
  | scan found => exact backed

/-! ## Ends of transactions -/

theorem Ends.modes (ends : Ends store after txn) (sound : store.Sound) (id : PageId) :
    (fun other => after.locks.mode? other id) =
      PageState.without (fun other => store.locks.mode? other id) txn := by
  funext other
  exact ends.mode sound other id

theorem nobody_without {id : PageId} (exclusive : store.locks.mode? txn id = some .exclusive)
    (owner : TxnId) :
    PageState.without (fun other => store.locks.mode? other id) txn owner ≠ some .exclusive := by
  intro held
  simp only [PageState.without] at held
  split at held
  · cases held
  · next different =>
      exact different (LockTable.alone_of_exclusive exclusive (by rw [held]; rfl))

theorem Backed.commit (backed : store.Backed) (sound : store.Sound)
    (addressable : store.Addressable) (txn : TxnId) : (store.commit txn).2.Backed := by
  obtain ⟨ends, -, -⟩ := sound.commit txn
  intro id
  rw [sound.pageState_commit, ends.modes sound]
  have committed := (backed id).committed (fun _ cached => sound.filed_copy addressable cached)
    txn (store.takes id)
  split
  · next exclusive => exact committed.captured (nobody_without exclusive)
  · exact committed

theorem Backed.abort (backed : store.Backed) (sound : store.Sound) (txn : TxnId) :
    (store.abort txn).2.Backed := by
  obtain ⟨ends, -, -⟩ := sound.abort txn
  intro id
  rw [sound.pageState_abort, ends.modes sound]
  split
  · exact (backed id).restored txn
  · next shared =>
      apply (backed id).release
      intro copy cached marked
      exact ((backed id).dirty copy txn cached marked).resolve_left shared

end Store

/-! ## Runs -/

namespace System

variable {system : System}

theorem Sound.backed_perform (sound : system.Sound) (backed : system.store.Backed)
    (addressable : system.store.Addressable) {action : Action}
    (unflushed : action.flushes = false) (numbered : Numbered system action) :
    (system.perform action).store.Backed := by
  have effect := system.effect_perform action
  rw [Numbered] at numbered
  generalize (system.perform action).store = after at effect numbered ⊢
  cases effect with
  | idles => exact backed
  | begins run => exact backed.started sound.store run numbered
  | advances busy run =>
      exact backed.stepped sound.store addressable (sound.ready _ _ busy) run numbered
  | drops live => exact (backed.unpinned sound.store addressable _).backed
  | commits => exact backed.commit sound.store addressable _
  | aborts => exact backed.abort sound.store _
  | flushes => cases unflushed
  | flushesAll => cases unflushed
  | faults => exact backed

theorem Sound.backed_run (sound : system.Sound) (backed : system.store.Backed)
    (addressable : system.store.Addressable) {actions : List Action}
    (unflushed : ∀ action ∈ actions, action.flushes = false)
    (numbered : Along Numbered system actions) :
    (system.run actions).Sound ∧ (system.run actions).store.Backed ∧
      (system.run actions).store.Addressable := by
  induction actions generalizing system with
  | nil => exact ⟨sound, backed, addressable⟩
  | cons action actions ih =>
      obtain ⟨first, rest⟩ := numbered
      obtain ⟨here, later⟩ := List.forall_mem_cons.mp unflushed
      have performed := (sound.perform (.any system action)).sound
      have kept := sound.backed_perform backed addressable here first
      exact ih performed kept first later rest

theorem Fresh.backed (fresh : system.Fresh) : system.store.Backed := by
  intro id
  exact PageState.backed_of_absent (Store.copy_of_uncached (fresh.store.uncached id))

end System

end TableStore
