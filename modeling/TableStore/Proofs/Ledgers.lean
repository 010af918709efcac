import TableStore.Proofs.Outlines

/-!
# Ledgers

The ledger of a history lists the changes of the transactions that committed, in
the order of their commits, and for every other transaction its own changes up
to now.  The changes of a transaction that rolled back are struck out.  As long
as only settled changes are written, every page of an outline agrees with the
ledger, whatever the order of steps.
-/

set_option autoImplicit false

namespace TableStore

/-- The settled changes, in the order of their commits, and the changes of each
running transaction. -/
structure Ledger where
  settled : List Change := []
  own : TxnId → List Change := fun _ => []

namespace Ledger

def record (ledger : Ledger) : Event → Ledger
  | .read .. => ledger
  | .changed txn change _ =>
      { ledger with own := fun other =>
          if other = txn then ledger.own txn ++ [change] else ledger.own other }
  | .committed txn =>
      { settled := ledger.settled ++ ledger.own txn
        own := fun other => if other = txn then [] else ledger.own other }
  | .aborted txn =>
      { ledger with own := fun other => if other = txn then [] else ledger.own other }

def of (history : List Event) : Ledger := history.foldl record {}

theorem of_append (history events : List Event) :
    of (history ++ events) = events.foldl record (of history) :=
  List.foldl_append

end Ledger

def changesOf (id : PageId) (changes : List Change) : List Change :=
  changes.filter fun change => decide (change.page = id)

@[simp] theorem changesOf_nil (id : PageId) : changesOf id [] = [] := rfl

@[simp] theorem changesOf_append (id : PageId) (first second : List Change) :
    changesOf id (first ++ second) = changesOf id first ++ changesOf id second :=
  List.filter_append ..

def replay (changes : List Change) (contents : Contents) : Contents :=
  changes.foldl Change.apply contents

namespace Ledger

variable (ledger : Ledger) (origin : PageId → Contents)

def settledContents (id : PageId) : Contents := replay (changesOf id ledger.settled) (origin id)

/-- The contents of a page that a transaction is to see: the settled changes, and
behind them its own. -/
def contentsFor (txn : TxnId) (id : PageId) : Contents :=
  replay (changesOf id (ledger.settled ++ ledger.own txn)) (origin id)

/-- The contents of a copy that a transaction changed, or that nobody did. -/
def contentsUnder (tag : Option TxnId) (id : PageId) : Contents :=
  match tag with
  | some txn => ledger.contentsFor origin txn id
  | none => ledger.settledContents origin id

variable {ledger origin}

theorem contentsFor_eq (txn : TxnId) (id : PageId) :
    ledger.contentsFor origin txn id =
      replay (changesOf id (ledger.own txn)) (ledger.settledContents origin id) := by
  rw [contentsFor, settledContents, changesOf_append, replay, replay, replay, List.foldl_append]

theorem contentsFor_of_none {txn : TxnId} {id : PageId}
    (nothing : changesOf id (ledger.own txn) = []) :
    ledger.contentsFor origin txn id = ledger.settledContents origin id := by
  rw [contentsFor_eq, nothing]
  rfl

end Ledger

namespace Outline

/-- A page agrees with the ledger.  If it has changes of a running transaction, it
is cached for it and held by it exclusively; the copy in the cache, the contents
that a rollback returns to and the file have the changes that they should, unless
the page is lost. -/
structure PageAgrees (blank origin : PageId → Contents) (ledger : Ledger) (id : PageId)
    (mode : TxnId → Option LockMode) (lost : Prop) (state : PageState) : Prop where
  own : ∀ txn, changesOf id (ledger.own txn) ≠ [] → mode txn = some .exclusive ∧
    ∃ copy, state.cached = some copy ∧ copy.dirtiedBy = some txn
  image : ∀ copy, state.cached = some copy → copy.image = ledger.settledContents origin id
  contents : ∀ copy, state.cached = some copy →
    copy.contents = ledger.contentsUnder origin copy.dirtiedBy id
  unflushed : state.unflushed = true →
    ∃ copy, state.cached = some copy ∧ copy.dirtiedBy ≠ none
  filed : ∀ copy, state.cached = some copy → (∃ contents, state.stored = .ok contents) ∨ lost
  stored : ∀ contents, state.stored = .ok contents → state.unflushed = false →
    contents = ledger.settledContents origin id
  missing : ∀ error, state.stored = .error error →
    (changesOf id ledger.settled = [] ∧ origin id = blank id) ∨ lost

def Agrees (blank origin : PageId → Contents) (outline : Outline) (ledger : Ledger) : Prop :=
  ∀ id, PageAgrees blank origin ledger id (fun txn => outline.mode txn id)
    (outline.lost id.table) (outline.page id)

variable {blank origin : PageId → Contents} {outline after : Outline} {ledger : Ledger}
  {txn : TxnId} {id : PageId} {copy : Copy}

theorem PageAgrees.settled {mode : TxnId → Option LockMode} {lost : Prop} {state : PageState}
    (agrees : PageAgrees blank origin ledger id mode lost state) (cached : state.cached = some copy)
    (nothing : ∀ txn, copy.dirtiedBy = some txn → changesOf id (ledger.own txn) = []) :
    copy.contents = ledger.settledContents origin id := by
  rw [agrees.contents copy cached]
  cases dirty : copy.dirtiedBy with
  | none => rfl
  | some txn => exact Ledger.contentsFor_of_none (nothing txn dirty)

theorem PageAgrees.nothing {mode : TxnId → Option LockMode} {lost : Prop} {state : PageState}
    (agrees : PageAgrees blank origin ledger id mode lost state) (cached : state.cached = some copy)
    (other : copy.dirtiedBy ≠ some txn) : changesOf id (ledger.own txn) = [] := by
  apply Decidable.byContradiction
  intro changed
  obtain ⟨-, found, again, owner⟩ := agrees.own txn changed
  cases cached.symm.trans again
  exact other owner

theorem PageAgrees.filed_written {mode : TxnId → Option LockMode} {lost : Prop}
    {state : PageState} (agrees : PageAgrees blank origin ledger id mode lost state)
    (cached : state.cached = some copy) {contents : Contents} :
    (∃ after, state.filed contents = .ok after) ∨ lost := by
  apply (agrees.filed copy cached).imp_left
  rintro ⟨before, stored⟩
  exact ⟨contents, PageState.filed_of_stored stored contents⟩

/-- A transaction that holds a cached page sees what the ledger says. -/
theorem Agrees.contents_of_holds (agrees : Agrees blank origin outline ledger)
    (holds : (outline.mode txn id).isSome = true)
    (cached : (outline.page id).cached = some copy) :
    copy.contents = ledger.contentsFor origin txn id := by
  by_cases mine : copy.dirtiedBy = some txn
  · rw [(agrees id).contents copy cached, mine]
    rfl
  · rw [Ledger.contentsFor_of_none ((agrees id).nothing cached mine)]
    apply (agrees id).settled cached
    intro owner dirty
    apply Decidable.byContradiction
    intro changed
    obtain ⟨exclusive, -⟩ := (agrees id).own owner changed
    exact mine (dirty.trans (congrArg some (outline.alone owner txn id exclusive holds).symm))

/-! ## Moves of the store -/

theorem Agrees.set (agrees : Agrees blank origin outline ledger) {state : PageState}
    (here : PageAgrees blank origin ledger id (fun txn => outline.mode txn id)
      (outline.lost id.table) state) :
    Agrees blank origin (outline.set id state) ledger := by
  intro other
  by_cases same : other = id
  · subst same
    rw [set_same]
    exact here
  · rw [outline.set_other same]
    exact agrees other

theorem PageAgrees.load {mode : TxnId → Option LockMode} {lost : Prop} {state : PageState} {contents : Contents}
    (agrees : PageAgrees blank origin ledger id mode lost state) (absent : state.cached = none)
    (stored : state.stored = .ok contents) :
    PageAgrees blank origin ledger id mode lost
      { state with cached := some ⟨contents, contents, none⟩ } := by
  have clean : state.unflushed = false := by
    apply Bool.eq_false_iff.mpr
    intro unflushed
    obtain ⟨copy, cached, -⟩ := agrees.unflushed unflushed
    cases absent.symm.trans cached
  have settled := agrees.stored contents stored clean
  refine ⟨fun txn changed => ?_, ?_, ?_, fun unflushed => ?_, fun _ _ => .inl ⟨contents, stored⟩,
    agrees.stored, agrees.missing⟩
  · obtain ⟨-, copy, cached, -⟩ := agrees.own txn changed
    cases absent.symm.trans cached
  · intro _ known
    cases known
    exact settled
  · intro _ known
    cases known
    exact settled
  · cases clean.symm.trans unflushed

theorem PageAgrees.write {mode : TxnId → Option LockMode} {lost : Prop} {state : PageState}
    (agrees : PageAgrees blank origin ledger id mode lost state) (cached : state.cached = some copy)
    (dirty : copy.dirtiedBy = some txn) (settled : ledger.own txn = []) :
    PageAgrees blank origin ledger id mode lost (state.written copy) := by
  have nothing (other : TxnId) : changesOf id (ledger.own other) = [] := by
    by_cases same : other = txn
    · rw [same, settled]
      rfl
    · apply agrees.nothing cached
      rw [dirty]
      exact fun equal => same (Option.some.inj equal).symm
  have contents := agrees.settled cached fun other _ => nothing other
  refine ⟨fun other changed => absurd (nothing other) changed, ?_, ?_, fun unflushed => ?_,
    fun _ _ => agrees.filed_written cached, ?_,
    fun error missing => agrees.missing error (PageState.missing_of_filed missing)⟩
  · intro _ known
    cases known
    exact agrees.image copy cached
  · intro _ known
    cases known
    exact contents
  · cases unflushed
  · intro _ stored _
    rw [PageState.eq_of_filed stored]
    exact contents

theorem PageAgrees.leave {mode : TxnId → Option LockMode} {lost : Prop} {state : PageState}
    (agrees : PageAgrees blank origin ledger id mode lost state) (cached : state.cached = some copy)
    (clean : copy.dirtiedBy = none) :
    PageAgrees blank origin ledger id mode lost { state with cached := none } := by
  refine ⟨fun txn changed => ?_, ?_, ?_, fun unflushed => ?_, ?_, agrees.stored, agrees.missing⟩
  · exact absurd (agrees.nothing cached (by simp [clean])) changed
  · intro _ known
    cases known
  · intro _ known
    cases known
  · obtain ⟨found, again, dirty⟩ := agrees.unflushed unflushed
    cases cached.symm.trans again
    exact absurd clean dirty
  · intro _ known
    cases known

theorem PageAgrees.append {mode : TxnId → Option LockMode} {lost : Prop} {state : PageState}
    {error : StoreError} {stored : Except StoreError Contents}
    (agrees : PageAgrees blank origin ledger id mode lost state) (kept : ¬ lost)
    (absent : state.cached = none) (missing : state.stored = .error error)
    (fresh : ∀ contents, stored = .ok contents → contents = blank id) :
    PageAgrees blank origin ledger id mode lost { state with stored } := by
  obtain ⟨unsettled, blankOrigin⟩ := (agrees.missing error missing).resolve_right kept
  refine ⟨agrees.own, agrees.image, agrees.contents, agrees.unflushed, fun copy cached => ?_,
    fun contents found _ => ?_, fun _ _ => .inl ⟨unsettled, blankOrigin⟩⟩
  · cases absent.symm.trans cached
  · rw [fresh contents found, Ledger.settledContents, unsettled]
    exact blankOrigin.symm

theorem Agrees.lose (agrees : Agrees blank origin outline ledger) (table : TableId) :
    Agrees blank origin (outline.lose table) ledger := by
  intro id
  have page := agrees id
  change PageAgrees _ _ _ _ _ (id.table = table ∨ outline.lost id.table) (if _ then _ else _)
  split
  · next gone =>
      refine ⟨page.own, page.image, page.contents, page.unflushed, fun _ _ => .inr (.inl gone),
        fun _ stored => ?_, fun _ _ => .inr (.inl gone)⟩
      cases stored
  · exact ⟨page.own, page.image, page.contents, page.unflushed,
      fun copy cached => (page.filed copy cached).imp_right .inr, page.stored,
      fun error missing => (page.missing error missing).imp_right .inr⟩

/-- Moves of the store keep every page in agreement, if they write settled
changes only. -/
theorem Agrees.shift (agrees : Agrees blank origin outline ledger)
    (shift : Shift outline blank (fun txn => ledger.own txn = []) after) :
    Agrees blank origin after ledger := by
  cases shift with
  | relock mode alone keeps =>
      intro id
      have page := agrees id
      refine ⟨fun txn changed => ?_, page.image, page.contents, page.unflushed, page.filed,
        page.stored, page.missing⟩
      obtain ⟨exclusive, cached⟩ := page.own txn changed
      exact ⟨keeps txn id exclusive, cached⟩
  | load id contents absent stored => exact agrees.set ((agrees id).load absent stored)
  | write id copy txn cached dirty settled =>
      exact agrees.set ((agrees id).write cached dirty settled)
  | leave id copy cached clean => exact agrees.set ((agrees id).leave cached clean)
  | append id error stored kept absent missing fresh =>
      exact agrees.set ((agrees id).append kept absent missing fresh)
  | lose table => exact agrees.lose table

/-! ## Steps of transactions -/

theorem PageAgrees.congr {mode : TxnId → Option LockMode} {lost : Prop} {state : PageState} {other : Ledger}
    (agrees : PageAgrees blank origin ledger id mode lost state)
    (settled : changesOf id other.settled = changesOf id ledger.settled)
    (own : ∀ txn, changesOf id (other.own txn) = changesOf id (ledger.own txn)) :
    PageAgrees blank origin other id mode lost state := by
  have sameSettled : other.settledContents origin id = ledger.settledContents origin id := by
    rw [Ledger.settledContents, Ledger.settledContents, settled]
  have sameUnder (tag : Option TxnId) :
      other.contentsUnder origin tag id = ledger.contentsUnder origin tag id := by
    cases tag with
    | none => exact sameSettled
    | some txn =>
        rw [Ledger.contentsUnder, Ledger.contentsUnder, Ledger.contentsFor_eq,
          Ledger.contentsFor_eq, own, sameSettled]
  exact ⟨fun txn changed => agrees.own txn (own txn ▸ changed),
    fun copy cached => sameSettled ▸ agrees.image copy cached,
    fun copy cached => (sameUnder copy.dirtiedBy).symm ▸ agrees.contents copy cached,
    agrees.unflushed, agrees.filed,
    fun contents stored clean => sameSettled ▸ agrees.stored contents stored clean,
    fun error missing => settled.symm ▸ agrees.missing error missing⟩

theorem changesOf_other {change : Change} {changes : List Change} (other : change.page ≠ id) :
    changesOf id (changes ++ [change]) = changesOf id changes := by
  rw [changesOf_append, changesOf, changesOf, List.filter_cons_of_neg (by simpa using other)]
  simp

theorem changesOf_same {change : Change} {changes : List Change} :
    changesOf change.page (changes ++ [change]) = changesOf change.page changes ++ [change] := by
  rw [changesOf_append, changesOf, changesOf, List.filter_cons_of_pos (by simp)]
  simp

theorem Agrees.change (agrees : Agrees blank origin outline ledger) {change : Change}
    (view : Contents) (exclusive : outline.mode txn change.page = some .exclusive)
    (cached : (outline.page change.page).cached = some copy) :
    Agrees blank origin (outline.change txn copy change)
      (ledger.record (.changed txn change view)) := by
  have before := agrees.contents_of_holds (by rw [exclusive]; rfl) cached
  intro id
  by_cases here : change.page = id
  · subst here
    have page := agrees change.page
    have mine : changesOf change.page ((ledger.record (.changed txn change view)).own txn) =
        changesOf change.page (ledger.own txn) ++ [change] := by
      rw [Ledger.record]
      simp only [if_true]
      exact changesOf_same
    rw [Outline.change, set_same, mode_set]
    refine ⟨fun other changed => ?_, ?_, ?_, fun _ => ?_, fun _ _ => page.filed copy cached,
      page.stored, page.missing⟩
    · by_cases same : other = txn
      · subst same
        exact ⟨exclusive, _, rfl, rfl⟩
      · rw [Ledger.record] at changed
        simp only [if_neg same] at changed
        obtain ⟨foreign, -⟩ := page.own other changed
        have alone := outline.alone other txn change.page foreign (by rw [exclusive]; rfl)
        exact absurd alone.symm same
    · intro _ known
      cases known
      exact page.image copy cached
    · intro _ known
      cases known
      change change.apply copy.contents = Ledger.contentsFor _ origin txn change.page
      rw [Ledger.contentsFor_eq, mine, replay, List.foldl_append, before, Ledger.contentsFor_eq]
      rfl
    · exact ⟨_, rfl, by simp⟩
  · rw [Outline.change, outline.set_other (Ne.symm here), mode_set]
    refine (agrees id).congr rfl fun other => ?_
    rw [Ledger.record]
    simp only
    split
    · next same =>
        rw [changesOf_other here, same]
    · rfl

/-! ## Ends of transactions -/

theorem PageAgrees.release {mode : TxnId → Option LockMode} {lost : Prop} {state : PageState}
    (agrees : PageAgrees blank origin ledger id mode lost state)
    (nothing : changesOf id (ledger.own txn) = []) :
    PageAgrees blank origin ledger id (fun other => if other = txn then none else mode other)
      lost state := by
  refine ⟨fun other changed => ?_, agrees.image, agrees.contents, agrees.unflushed, agrees.filed,
    agrees.stored, agrees.missing⟩
  obtain ⟨exclusive, cached⟩ := agrees.own other changed
  refine ⟨?_, cached⟩
  rw [if_neg]
  · exact exclusive
  · rintro rfl
    exact changed nothing

theorem PageAgrees.captured {mode : TxnId → Option LockMode} {lost : Prop} {state : PageState}
    (agrees : PageAgrees blank origin ledger id mode lost state)
    (settled : ∀ copy, state.cached = some copy →
      copy.contents = ledger.settledContents origin id) :
    PageAgrees blank origin ledger id mode lost state.captured := by
  have captured (copy : Copy) (cached : state.captured.cached = some copy) :
      ∃ before, state.cached = some before ∧ copy = { before with image := before.contents } := by
    obtain ⟨before, found, rfl⟩ := Option.map_eq_some_iff.mp cached
    exact ⟨before, found, rfl⟩
  refine ⟨fun other changed => ?_, fun copy cached => ?_, fun copy cached => ?_, fun unflushed => ?_,
    fun copy cached => ?_, agrees.stored, agrees.missing⟩
  · obtain ⟨exclusive, copy, cached, dirty⟩ := agrees.own other changed
    exact ⟨exclusive, { copy with image := copy.contents }, by rw [PageState.captured, cached]; rfl,
      dirty⟩
  · obtain ⟨before, found, rfl⟩ := captured copy cached
    exact settled before found
  · obtain ⟨before, found, rfl⟩ := captured copy cached
    exact agrees.contents before found
  · obtain ⟨copy, cached, dirty⟩ := agrees.unflushed unflushed
    exact ⟨{ copy with image := copy.contents }, by rw [PageState.captured, cached]; rfl, dirty⟩
  · obtain ⟨before, found, rfl⟩ := captured copy cached
    exact agrees.filed before found

theorem PageAgrees.committed {mode : TxnId → Option LockMode} {lost : Prop} {state : PageState}
    (agrees : PageAgrees blank origin ledger id mode lost state) (taken : Bool)
    (nothing : changesOf id (ledger.own txn) = []) :
    PageAgrees blank origin ledger id mode lost (state.committed txn taken) := by
  rw [PageState.committed]
  split
  · exact agrees
  · next copy cached =>
      split
      · next dirty =>
          have settled := agrees.settled cached fun owner owned => by
            cases dirty.symm.trans owned
            exact nothing
          have nobody (other : TxnId) : changesOf id (ledger.own other) = [] := by
            by_cases same : other = txn
            · rw [same, nothing]
            · apply agrees.nothing cached
              rw [dirty]
              exact fun equal => same (Option.some.inj equal).symm
          split
          · refine ⟨fun other changed => absurd (nobody other) changed, ?_, ?_,
              fun unflushed => ?_, fun _ _ => agrees.filed_written cached, ?_,
              fun error missing => agrees.missing error (PageState.missing_of_filed missing)⟩
            · intro _ known
              cases known
              exact settled
            · intro _ known
              cases known
              exact settled
            · cases unflushed
            · intro _ stored _
              rw [PageState.eq_of_filed stored]
              exact settled
          · refine ⟨agrees.own, agrees.image, agrees.contents,
              fun _ => ⟨copy, cached, by simp [dirty]⟩, agrees.filed, fun contents stored clean => ?_,
              agrees.missing⟩
            cases clean
      · exact agrees

/-- A page that the transaction changed agrees with the ledger after its commit:
its changes are settled now. -/
theorem PageAgrees.commit_changed {mode : TxnId → Option LockMode} {lost : Prop} {state : PageState}
    (agrees : PageAgrees blank origin ledger id mode lost state) (taken : Bool)
    (changed : changesOf id (ledger.own txn) ≠ []) :
    PageAgrees blank origin (ledger.record (.committed txn)) id
      (fun other => if other = txn then none else mode other) lost
      (state.committed txn taken).captured := by
  obtain ⟨-, copy, cached, dirty⟩ := agrees.own txn changed
  have settled : copy.contents = (ledger.record (.committed txn)).settledContents origin id := by
    rw [agrees.contents copy cached, dirty]
    rfl
  have under : (ledger.record (.committed txn)).contentsUnder origin (some txn) id =
      (ledger.record (.committed txn)).settledContents origin id := by
    apply Ledger.contentsFor_of_none
    rw [Ledger.record]
    simp
  have nobody (other : TxnId) :
      changesOf id ((ledger.record (.committed txn)).own other) = [] := by
    rw [Ledger.record]
    simp only
    split
    · rfl
    · next different =>
        apply agrees.nothing cached
        rw [dirty]
        exact fun equal => different (Option.some.inj equal).symm
  have filed := agrees.filed copy cached
  have gone (error : StoreError) (missing : state.stored = .error error) : lost := by
    refine filed.resolve_left ?_
    rintro ⟨contents, stored⟩
    cases stored.symm.trans missing
  have written : (∃ after, state.filed copy.contents = .ok after) ∨ lost :=
    agrees.filed_written cached
  obtain ⟨_, _, _⟩ := state
  cases cached
  rw [PageState.committed]
  simp only [dirty, if_true]
  split
  · refine ⟨fun other changed => absurd (nobody other) changed, ?_, ?_, fun unflushed => ?_,
      fun _ _ => written, ?_,
      fun error missing => .inr (gone error (PageState.missing_of_filed missing))⟩
    · intro _ known
      cases known
      exact settled
    · intro _ known
      cases known
      exact settled
    · cases unflushed
    · intro _ stored _
      rw [PageState.eq_of_filed stored]
      exact settled
  · refine ⟨fun other changed => absurd (nobody other) changed, ?_, ?_,
      fun _ => ⟨{ copy with image := copy.contents }, rfl, by simp [dirty]⟩,
      fun _ _ => filed, fun _ _ clean => ?_, fun error missing => .inr (gone error missing)⟩
    · intro _ known
      cases known
      exact settled
    · intro _ known
      cases known
      change copy.contents = Ledger.contentsUnder _ origin copy.dirtiedBy id
      rw [dirty, under]
      exact settled
    · cases clean

/-- While a transaction holds a page exclusively, nobody else has changes on it
that are not settled. -/
theorem Agrees.nothing_of_exclusive (agrees : Agrees blank origin outline ledger)
    (exclusive : outline.mode txn id = some .exclusive) {other : TxnId} (different : other ≠ txn) :
    changesOf id (ledger.own other) = [] := by
  apply Decidable.byContradiction
  intro changed
  obtain ⟨theirs, -⟩ := (agrees id).own other changed
  exact different (outline.alone txn other id exclusive (by rw [theirs]; rfl))

theorem Agrees.commit (agrees : Agrees blank origin outline ledger) (txn : TxnId)
    (taken : PageId → Bool) :
    Agrees blank origin (outline.commit txn taken) (ledger.record (.committed txn)) := by
  intro id
  have page := agrees id
  by_cases changed : changesOf id (ledger.own txn) = []
  · have same (other : TxnId) : changesOf id ((ledger.record (.committed txn)).own other) =
        changesOf id (ledger.own other) := by
      rw [Ledger.record]
      simp only
      split
      · next here => rw [here, changed, changesOf_nil]
      · rfl
    have settled : changesOf id (ledger.record (.committed txn)).settled =
        changesOf id ledger.settled := by
      rw [Ledger.record, changesOf_append, changed, List.append_nil]
    have after := page.committed (taken id) changed
    refine PageAgrees.congr ?_ settled same
    refine PageAgrees.release ?_ changed
    change PageAgrees _ _ _ _ _ _ (if _ then _ else _)
    split
    · next exclusive =>
        refine after.captured fun copy cached => after.settled cached fun owner _ => ?_
        by_cases mine : owner = txn
        · rw [mine, changed]
        · exact agrees.nothing_of_exclusive exclusive mine
    · exact after
  · have exclusive := (page.own txn changed).1
    have after := page.commit_changed (taken id) changed
    change PageAgrees _ _ _ _ _ _ (if _ then _ else _)
    rw [if_pos exclusive]
    exact after

theorem PageAgrees.abort_held {mode : TxnId → Option LockMode} {lost : Prop} {state : PageState}
    (agrees : PageAgrees blank origin ledger id mode lost state)
    (alone : ∀ other, other ≠ txn → changesOf id (ledger.own other) = []) :
    PageAgrees blank origin (ledger.record (.aborted txn)) id
      (fun other => if other = txn then none else mode other) lost (state.restored txn) := by
  have nobody (other : TxnId) : changesOf id ((ledger.record (.aborted txn)).own other) = [] := by
    rw [Ledger.record]
    simp only
    split
    · rfl
    · next different => exact alone other different
  have under (tag : Option TxnId) : (ledger.record (.aborted txn)).contentsUnder origin tag id =
      ledger.settledContents origin id := by
    cases tag with
    | none => rfl
    | some other => exact Ledger.contentsFor_of_none (nobody other)
  have restored (copy : Copy) (cached : (state.restored txn).cached = some copy) :
      ∃ before, state.cached = some before ∧ copy = before.restored txn state.unflushed := by
    obtain ⟨before, found, rfl⟩ := Option.map_eq_some_iff.mp cached
    exact ⟨before, found, rfl⟩
  have settled (before : Copy) (found : state.cached = some before) :
      (before.restored txn state.unflushed).image = ledger.settledContents origin id ∧
        (before.restored txn state.unflushed).contents = ledger.settledContents origin id := by
    rw [Copy.restored]
    split
    · next foreign =>
        refine ⟨agrees.image before found, agrees.settled found fun owner dirty => ?_⟩
        apply alone owner
        rintro rfl
        simp [dirty] at foreign
    · exact ⟨agrees.image before found, agrees.image before found⟩
  refine ⟨fun other changed => absurd (nobody other) changed, fun copy cached => ?_,
    fun copy cached => ?_, fun unflushed => ?_, fun copy cached => ?_, agrees.stored,
    agrees.missing⟩
  · obtain ⟨before, found, rfl⟩ := restored copy cached
    exact (settled before found).1
  · obtain ⟨before, found, rfl⟩ := restored copy cached
    rw [under]
    exact (settled before found).2
  · obtain ⟨before, found, dirty⟩ := agrees.unflushed unflushed
    refine ⟨before.restored txn state.unflushed, by rw [PageState.restored, found]; rfl, ?_⟩
    rw [Copy.restored]
    split
    · exact dirty
    · rw [show state.unflushed = true from unflushed]
      simp
  · obtain ⟨before, found, -⟩ := restored copy cached
    exact agrees.filed before found

theorem Agrees.abort (agrees : Agrees blank origin outline ledger) (txn : TxnId) :
    Agrees blank origin (outline.abort txn) (ledger.record (.aborted txn)) := by
  intro id
  have page := agrees id
  change PageAgrees _ _ _ _ _ _ (if _ then _ else _)
  split
  · next exclusive =>
      exact page.abort_held fun other different => agrees.nothing_of_exclusive exclusive different
  · next free =>
      have nothing : changesOf id (ledger.own txn) = [] :=
        Decidable.byContradiction fun changed => free (page.own txn changed).1
      refine PageAgrees.congr (page.release nothing) rfl fun other => ?_
      rw [Ledger.record]
      simp only
      split
      · next here => rw [here, nothing, changesOf_nil]
      · rfl

/-! ## Histories -/

/-- Every read in a history shows the rows that the ledger of the events before
says. -/
def Explained (origin : PageId → Contents) (history : List Event) : Prop :=
  ∀ earlier later txn id rows, history = earlier ++ .read txn id rows :: later →
    rows = ((Ledger.of earlier).contentsFor origin txn id).rows id

theorem Explained.snoc {history : List Event} (explained : Explained origin history) {event : Event}
    (read : ∀ txn id rows, event = .read txn id rows →
      rows = ((Ledger.of history).contentsFor origin txn id).rows id) :
    Explained origin (history ++ [event]) := by
  intro earlier later txn id rows split
  rcases List.eq_nil_or_concat later with rfl | ⟨initial, last, rfl⟩
  · obtain ⟨rfl, last⟩ := List.append_inj' split rfl
    exact read txn id rows (List.singleton_inj.mp last)
  · rw [List.concat_eq_append, ← List.cons_append, ← List.append_assoc] at split
    obtain ⟨rfl, -⟩ := List.append_inj' split rfl
    exact explained earlier initial txn id rows rfl

/-- Along a path that writes settled changes only, every page agrees with the
ledger of the history, and every read is explained by it. -/
theorem Agrees.path {before after : Outline × List Event}
    (agrees : Agrees blank origin before.1 (Ledger.of before.2))
    (explained : Explained origin before.2)
    (path : Path blank (fun history txn => (Ledger.of history).own txn = []) before after) :
    Agrees blank origin after.1 (Ledger.of after.2) ∧ Explained origin after.2 := by
  apply path.keeps (motive := fun outline history =>
    Agrees blank origin outline (Ledger.of history) ∧ Explained origin history) ⟨agrees, explained⟩
  rintro current history events next step ⟨agrees, explained⟩
  rw [Ledger.of_append]
  cases step with
  | shift shift => exact ⟨agrees.shift shift, by rwa [List.append_nil]⟩
  | read txn id copy holds cached =>
      refine ⟨agrees, explained.snoc ?_⟩
      rintro _ _ _ ⟨⟩
      rw [agrees.contents_of_holds holds cached]
  | change txn copy change exclusive cached =>
      exact ⟨agrees.change (change.apply copy.contents) exclusive cached,
        explained.snoc (by rintro _ _ _ ⟨⟩)⟩
  | commit txn taken => exact ⟨agrees.commit txn taken, explained.snoc (by rintro _ _ _ ⟨⟩)⟩
  | abort txn => exact ⟨agrees.abort txn, explained.snoc (by rintro _ _ _ ⟨⟩)⟩

end Outline

end TableStore
