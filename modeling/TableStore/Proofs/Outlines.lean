import Mathlib.Logic.Relation
import TableStore.Lock.Mode
import TableStore.Proofs.Pages

/-!
# Outlines

What transactions can tell of a store is, for every page, its copy in the cache,
the contents that its file holds and whether it has committed rows that could
not be written; and who holds which page in which mode.  This is the outline of
the store.  Here it is a system of its own: pages are loaded, written and leave
the cache without any transaction taking part, and transactions read, change,
commit and roll back.
-/

set_option autoImplicit false

namespace TableStore

structure Change where
  page : PageId
  slot : Nat
  now : Option (List Value)

def Change.apply (contents : Contents) (change : Change) : Contents :=
  contents.set change.slot change.now

def Contents.rows (contents : Contents) (id : PageId) :
    List (Option Location × List Value) :=
  contents.zipIdx.filterMap fun (slot, number) =>
    slot.map fun values => (some ⟨id, UInt16.ofNat number⟩, values)

/-! ## The state of a page -/

structure Copy where
  contents : Contents
  /-- The contents that a rollback returns to. -/
  image : Contents
  dirtiedBy : Option TxnId

/-- The copy after a rollback of a transaction.  Changes of another transaction
stay, and contents that are not in the file count as changed. -/
def Copy.restored (copy : Copy) (txn : TxnId) (unflushed : Bool) : Copy :=
  if copy.dirtiedBy.any (· ≠ txn) then copy
  else ⟨copy.image, copy.image, if unflushed then some txn else none⟩

structure PageState where
  cached : Option Copy
  stored : Except StoreError Contents
  unflushed : Bool

namespace PageState

variable (state : PageState)

def look : Except StoreError Contents :=
  match state.cached with
  | some copy => .ok copy.contents
  | none => state.stored

theorem look_of_cached {state : PageState} {copy : Copy} (cached : state.cached = some copy) :
    state.look = .ok copy.contents := by
  unfold look
  rw [cached]

theorem look_of_absent {state : PageState} (absent : state.cached = none) :
    state.look = state.stored := by
  unfold look
  rw [absent]

/-- The contents of the file after some were written to it.  A page that could not be
read before cannot be read then. -/
def filed (contents : Contents) : Except StoreError Contents :=
  state.stored.map fun _ => contents

theorem filed_of_stored {state : PageState} {before : Contents} (stored : state.stored = .ok before)
    (contents : Contents) : state.filed contents = .ok contents := by
  rw [filed, stored]
  rfl

theorem filed_of_missing {state : PageState} {error : StoreError}
    (missing : state.stored = .error error) (contents : Contents) :
    state.filed contents = .error error := by
  rw [filed, missing]
  rfl

theorem eq_of_filed {state : PageState} {contents after : Contents}
    (filed : state.filed contents = .ok after) : after = contents := by
  cases stored : state.stored with
  | error error => cases (filed_of_missing stored contents).symm.trans filed
  | ok before => exact Except.ok.inj (filed.symm.trans (filed_of_stored stored contents))

theorem missing_of_filed {state : PageState} {contents : Contents} {error : StoreError}
    (filed : state.filed contents = .error error) : state.stored = .error error := by
  cases stored : state.stored with
  | error reason =>
      cases (filed_of_missing stored contents).symm.trans filed
      rfl
  | ok before => cases (filed_of_stored stored contents).symm.trans filed

def written (copy : Copy) : PageState :=
  ⟨some { copy with dirtiedBy := none }, state.filed copy.contents, false⟩

def committed (txn : TxnId) (taken : Bool) : PageState :=
  match state.cached with
  | none => state
  | some copy =>
      if copy.dirtiedBy = some txn then
        if taken then
          ⟨some ⟨copy.contents, copy.contents, none⟩, state.filed copy.contents, false⟩
        else { state with unflushed := true }
      else state

def captured : PageState :=
  { state with cached := state.cached.map fun copy => { copy with image := copy.contents } }

theorem captured_of_absent {state : PageState} (absent : state.cached = none) :
    state.captured = state := by
  cases state
  cases absent
  rfl

theorem captured_of_same {state : PageState}
    (same : ∀ copy, state.cached = some copy → copy.image = copy.contents) :
    state.captured = state := by
  cases cached : state.cached with
  | none => exact captured_of_absent cached
  | some copy =>
      have here : { copy with image := copy.contents } = copy := by
        obtain ⟨contents, image, dirty⟩ := copy
        cases (same _ cached : image = contents)
        rfl
      cases state
      cases cached
      rw [captured, Option.map_some, here]

def restored (txn : TxnId) : PageState :=
  { state with cached := state.cached.map fun copy => copy.restored txn state.unflushed }

theorem restored_of_absent {state : PageState} (absent : state.cached = none) (txn : TxnId) :
    state.restored txn = state := by
  cases state
  cases absent
  rfl

end PageState

/-! ## Outlines and their changes -/

/-- The states of all pages, and who holds which page in which mode.  The pages of
a table are lost when there are as many of them as numbers. -/
@[ext] structure Outline where
  page : PageId → PageState
  mode : TxnId → PageId → Option LockMode
  lost : TableId → Prop
  alone : ∀ txn other id, mode txn id = some .exclusive → (mode other id).isSome = true →
    other = txn

namespace Outline

variable (outline : Outline)

def set (id : PageId) (state : PageState) : Outline :=
  { outline with page := fun other => if other = id then state else outline.page other }

@[simp] theorem set_same (id : PageId) (state : PageState) : (outline.set id state).page id = state :=
  if_pos rfl

theorem set_other {id other : PageId} (different : other ≠ id) (state : PageState) :
    (outline.set id state).page other = outline.page other :=
  if_neg different

@[simp] theorem mode_set (id : PageId) (state : PageState) :
    (outline.set id state).mode = outline.mode := rfl

def released (txn : TxnId) (other : TxnId) (id : PageId) : Option LockMode :=
  if other = txn then none else outline.mode other id

theorem alone_released (gone : TxnId) (txn other : TxnId) (id : PageId)
    (exclusive : outline.released gone txn id = some .exclusive)
    (holds : (outline.released gone other id).isSome = true) : other = txn := by
  simp only [released] at exclusive holds
  split at exclusive
  · cases exclusive
  · split at holds
    · cases holds
    · exact outline.alone txn other id exclusive holds

/-- The outline after a transaction ended, with the states that its end gives to
the pages that it holds exclusively and to the others. -/
def release (txn : TxnId) (exclusive others : PageId → PageState) : Outline where
  page id := if outline.mode txn id = some .exclusive then exclusive id else others id
  mode := outline.released txn
  lost := outline.lost
  alone := outline.alone_released txn

def commit (txn : TxnId) (taken : PageId → Bool) : Outline :=
  outline.release txn (fun id => ((outline.page id).committed txn (taken id)).captured)
    fun id => (outline.page id).committed txn (taken id)

def abort (txn : TxnId) : Outline :=
  outline.release txn (fun id => (outline.page id).restored txn) outline.page

def change (txn : TxnId) (copy : Copy) (change : Change) : Outline :=
  outline.set change.page { outline.page change.page with
    cached := some ⟨change.apply copy.contents, copy.image, some txn⟩ }

/-- The outline after the last number was given to a page of a table.  No page of
the table can be read any more. -/
def lose (table : TableId) : Outline :=
  { outline with
    page := fun id =>
      if id.table = table then
        { outline.page id with stored := .error (.pageNotFound id) }
      else outline.page id
    lost := fun id => id = table ∨ outline.lost id }

/-! ## Moves of the store and steps of transactions -/

variable (blank : PageId → Contents)

/-- A move of the store itself.  Only changes of the given transactions are
written, and the contents of appended pages are given. -/
inductive Shift (writes : TxnId → Prop) : Outline → Prop
  /-- Locks are granted or given back, but no exclusive one is given back. -/
  | relock (mode : TxnId → PageId → Option LockMode)
      (alone : ∀ txn other id, mode txn id = some .exclusive → (mode other id).isSome = true →
        other = txn)
      (keeps : ∀ txn id, outline.mode txn id = some .exclusive →
        mode txn id = some .exclusive) :
      Shift writes { outline with mode, alone }
  | load (id : PageId) (contents : Contents) (absent : (outline.page id).cached = none)
      (stored : (outline.page id).stored = .ok contents) :
      Shift writes
        (outline.set id { outline.page id with cached := some ⟨contents, contents, none⟩ })
  /-- The changes of a cached page are written. -/
  | write (id : PageId) (copy : Copy) (txn : TxnId)
      (cached : (outline.page id).cached = some copy) (dirty : copy.dirtiedBy = some txn)
      (may : writes txn) :
      Shift writes (outline.set id ((outline.page id).written copy))
  /-- A page without changes leaves the cache. -/
  | leave (id : PageId) (copy : Copy) (cached : (outline.page id).cached = some copy)
      (clean : copy.dirtiedBy = none) :
      Shift writes (outline.set id { outline.page id with cached := none })
  /-- A page is appended to its file, or is found to be no page. -/
  | append (id : PageId) (error : StoreError) (stored : Except StoreError Contents)
      (kept : ¬ outline.lost id.table) (absent : (outline.page id).cached = none)
      (missing : (outline.page id).stored = .error error)
      (fresh : ∀ contents, stored = .ok contents → contents = blank id) :
      Shift writes (outline.set id { outline.page id with stored })
  | lose (table : TableId) : Shift writes (outline.lose table)

def Shifts (writes : TxnId → Prop) : Outline → Outline → Prop :=
  Relation.ReflTransGen fun before after => Shift before blank writes after

end Outline

/-- What transactions do to pages: they read the rows of one, change a slot of
one, after which they see the page as given, or end. -/
inductive Event where
  | read (txn : TxnId) (page : PageId) (rows : List (Option Location × List Value))
  | changed (txn : TxnId) (change : Change) (view : Contents)
  | committed (txn : TxnId)
  | aborted (txn : TxnId)

namespace Outline

variable (outline : Outline) (blank : PageId → Contents)

inductive Step (writes : TxnId → Prop) : List Event → Outline → Prop
  | shift {after : Outline} (shift : Shift outline blank writes after) : Step writes [] after
  /-- A transaction reads a cached page that it holds. -/
  | read (txn : TxnId) (id : PageId) (copy : Copy)
      (holds : (outline.mode txn id).isSome = true)
      (cached : (outline.page id).cached = some copy) :
      Step writes [.read txn id (copy.contents.rows id)] outline
  /-- A transaction changes a cached page that it holds exclusively. -/
  | change (txn : TxnId) (copy : Copy) (change : Change)
      (exclusive : outline.mode txn change.page = some .exclusive)
      (cached : (outline.page change.page).cached = some copy) :
      Step writes [.changed txn change (change.apply copy.contents)]
        (outline.change txn copy change)
  | commit (txn : TxnId) (taken : PageId → Bool) :
      Step writes [.committed txn] (outline.commit txn taken)
  | abort (txn : TxnId) : Step writes [.aborted txn] (outline.abort txn)

/-- Any number of steps, from an outline after some events to an outline after
some more.  Which changes may be written depends on the events before. -/
def Path (writes : List Event → TxnId → Prop) :
    Outline × List Event → Outline × List Event → Prop :=
  Relation.ReflTransGen fun before after =>
    ∃ events, Step before.1 blank (writes before.2) events after.1 ∧
      after.2 = before.2 ++ events

theorem Path.keeps {blank : PageId → Contents} {writes : List Event → TxnId → Prop}
    {before after : Outline × List Event} {motive : Outline → List Event → Prop}
    (path : Path blank writes before after) (start : motive before.1 before.2)
    (step : ∀ current history events next, Step current blank (writes history) events next →
      motive current history → motive next (history ++ events)) :
    motive after.1 after.2 := by
  induction path with
  | refl => exact start
  | @tail middle after path last ih =>
      obtain ⟨next, later⟩ := after
      obtain ⟨events, last, rfl⟩ := last
      exact step _ _ events next last ih

/-! ## Pages that are lost -/

/-- Every cached page can be read from its file, unless it is lost. -/
def Filed (outline : Outline) : Prop :=
  ∀ id copy, (outline.page id).cached = some copy →
    (∃ contents, (outline.page id).stored = .ok contents) ∨ outline.lost id.table

variable {outline} {blank} {after : Outline} {writes : TxnId → Prop} {events : List Event}

/-- No page that is lost comes back. -/
theorem Step.lost (step : Step outline blank writes events after) {table : TableId}
    (lost : outline.lost table) : after.lost table := by
  cases step with
  | shift shift =>
      cases shift with
      | lose => exact .inr lost
      | _ => exact lost
  | _ => exact lost

theorem Filed.set (filed : outline.Filed) {id : PageId} {state : PageState}
    (here : ∀ copy, state.cached = some copy →
      (∃ contents, state.stored = .ok contents) ∨ outline.lost id.table) :
    (outline.set id state).Filed := by
  intro other copy cached
  by_cases same : other = id
  · subst same
    rw [set_same] at cached ⊢
    exact here copy cached
  · rw [outline.set_other same] at cached ⊢
    exact filed other copy cached

theorem Filed.filed (filed : outline.Filed) {id : PageId} {copy : Copy}
    (cached : (outline.page id).cached = some copy) (contents : Contents) :
    (∃ after, (outline.page id).filed contents = .ok after) ∨ outline.lost id.table := by
  apply (filed id copy cached).imp_left
  rintro ⟨before, stored⟩
  exact ⟨contents, PageState.filed_of_stored stored contents⟩

theorem Filed.shift (filed : outline.Filed) (shift : Shift outline blank writes after) :
    after.Filed := by
  cases shift with
  | relock => exact filed
  | load id contents absent stored => exact filed.set fun _ _ => .inl ⟨contents, stored⟩
  | write id copy txn cached dirty may => exact filed.set fun _ _ => filed.filed cached _
  | leave id copy cached clean => exact filed.set nofun
  | append id error stored kept absent missing fresh =>
      apply filed.set
      intro copy cached
      cases absent.symm.trans cached
  | lose table =>
      intro id copy cached
      simp only [lose] at cached ⊢
      split at cached
      · next gone => exact .inr (.inl gone)
      · next other =>
          rw [if_neg other]
          exact (filed id copy cached).imp_right .inr

theorem Filed.committed (filed : outline.Filed) (txn : TxnId) (taken : Bool) {id : PageId}
    {copy : Copy} (cached : ((outline.page id).committed txn taken).cached = some copy) :
    (∃ contents, ((outline.page id).committed txn taken).stored = .ok contents) ∨
      outline.lost id.table := by
  rw [PageState.committed] at cached ⊢
  split at cached
  · next absent => cases absent.symm.trans cached
  · next before found =>
      simp only [found]
      split
      · split
        · exact filed.filed found _
        · exact filed id before found
      · exact filed id before found

theorem Filed.step (filed : outline.Filed) (step : Step outline blank writes events after) :
    after.Filed := by
  cases step with
  | shift shift => exact filed.shift shift
  | read => exact filed
  | change txn copy change exclusive cached =>
      exact filed.set fun _ _ => filed _ copy cached
  | commit txn taken =>
      intro id copy cached
      simp only [commit, release] at cached ⊢
      split at cached
      · next exclusive =>
          obtain ⟨before, found, -⟩ := Option.map_eq_some_iff.mp cached
          rw [if_pos exclusive]
          exact filed.committed txn (taken id) found
      · next shared =>
          rw [if_neg shared]
          exact filed.committed txn (taken id) cached
  | abort txn =>
      intro id copy cached
      simp only [abort, release] at cached ⊢
      split at cached
      · next exclusive =>
          obtain ⟨before, found, -⟩ := Option.map_eq_some_iff.mp cached
          rw [if_pos exclusive]
          exact filed id before found
      · next shared =>
          rw [if_neg shared]
          exact filed id copy cached

/-- What holds at the start of a path from a filed outline, and is kept by every step from
one, holds at its end. -/
theorem Path.keeps_filed {writes : List Event → TxnId → Prop} {before after : Outline × List Event}
    {motive : Outline → List Event → Prop} (path : Path blank writes before after)
    (filed : before.1.Filed) (start : motive before.1 before.2)
    (step : ∀ current history events next, Step current blank (writes history) events next →
      current.Filed → motive current history → motive next (history ++ events)) :
    motive after.1 after.2 :=
  (path.keeps (motive := fun outline history => outline.Filed ∧ motive outline history)
    ⟨filed, start⟩ fun current history events next move ⟨filed, kept⟩ =>
      ⟨filed.step move, step current history events next move filed kept⟩).2

end Outline

end TableStore
