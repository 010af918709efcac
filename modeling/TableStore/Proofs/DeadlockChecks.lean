import Mathlib.Data.List.Chain
import TableStore.Proofs.ModeMaps

/-!
# Deadlock checks

A check asks for a page on behalf of a transaction that may not wait for it, or not
yet.  It finds a deadlock exactly if those that keep the page from the transaction
wait, one for the other, for the transaction itself.  A way that comes to the
transaction can be cut off there, so what the transaction itself waits for elsewhere
neither makes a circle nor hides one.
-/

set_option autoImplicit false

namespace TableStore

namespace WaitGraph

variable {graph : WaitGraph} {txn target : TxnId}

theorem reach_before (way : Relation.ReflTransGen (Leads graph) txn target) :
    Relation.ReflTransGen (Leads (graph.erase target)) txn target := by
  induction way using Relation.ReflTransGen.head_induction_on with
  | refl => exact .refl
  | head first rest ih =>
      rename_i from_ via
      by_cases here : from_ = target
      · rw [here]
      · exact .head (first.erase here) ih

end WaitGraph

namespace LockTable

variable {table : LockTable} {txn : TxnId} {page : PageId} {mode : LockMode}

/-- The mode in which a transaction asks for a page is the one it was refused there.
A transaction that was not refused the page asks for it exclusively. -/
def AsksIn (table : LockTable) (txn : TxnId) (page : PageId) (mode : LockMode) : Prop :=
  table.waiting.get? txn = some ⟨page, mode⟩ ∨
    mode = .exclusive ∧ ∀ refused, table.waiting.get? txn ≠ some ⟨page, refused⟩

theorem asksIn_iff : table.AsksIn txn page mode ↔ mode = table.requestedMode txn page := by
  unfold AsksIn requestedMode
  cases waits : table.waiting.get? txn with
  | none => simp
  | some request =>
      obtain ⟨place, refused⟩ := request
      by_cases here : place = page
      · simp [here, eq_comm]
      · simp [here]

/-- A chain that starts with another transaction, which holds the page in a mode in
conflict with the request, and follows recorded waits to the transaction that asks. -/
structure Circle (table : LockTable) (txn : TxnId) (page : PageId)
    (first : TxnId) (between : List TxnId) : Prop where
  other : first ≠ txn
  blocks : ∃ mode held, table.AsksIn txn page mode ∧ table.mode? first page = some held ∧
    held.compatible mode = false
  waits : (first :: (between ++ [txn])).IsChain table.WaitsFor

theorem exists_chain_iff {first : TxnId} (other : first ≠ txn) :
    (∃ between, (first :: (between ++ [txn])).IsChain table.WaitsFor) ↔
      Relation.ReflTransGen table.WaitsFor first txn := by
  constructor
  · rintro ⟨between, chain⟩
    exact List.relationReflTransGen_of_exists_isChain_cons _ chain (by simp)
  · intro way
    obtain ⟨chain, steps, last⟩ := List.exists_isChain_cons_of_relationReflTransGen way
    rcases List.eq_nil_or_concat chain with rfl | ⟨between, final, rfl⟩
    · exact absurd last other
    · have closed : final = txn := by simpa using last
      rw [closed, List.concat_eq_append] at steps
      exact ⟨between, steps⟩

theorem isDeadlock_iff_circle :
    table.isDeadlock txn page = true ↔ ∃ first between, table.Circle txn page first between := by
  rw [isDeadlock, WaitGraph.reaches_iff]
  constructor
  · rintro ⟨first, member, way⟩
    obtain ⟨other, held, holds, conflict⟩ := mem_blockers_iff.mp member
    obtain ⟨between, waits⟩ :=
      (exists_chain_iff other).mpr (reach_waitGraph.mp (WaitGraph.reach_of_erase way))
    exact ⟨first, between, other, ⟨_, held, asksIn_iff.mpr rfl, holds, conflict⟩, waits⟩
  · rintro ⟨first, between, other, ⟨mode, held, asks, holds, conflict⟩, waits⟩
    rw [asksIn_iff.mp asks] at conflict
    have way := reach_waitGraph.mpr ((exists_chain_iff other).mp ⟨between, waits⟩)
    exact ⟨first, mem_blockers_iff.mpr ⟨other, held, holds, conflict⟩, WaitGraph.reach_before way⟩

/-- What a transaction was refused elsewhere plays no part in a check. -/
theorem isDeadlock_of_waits_elsewhere {request : LockRequest} (elsewhere : request.page ≠ page) :
    isDeadlock { table with waiting := table.waiting.insert txn request } txn page =
      (table.cancelWait txn).isDeadlock txn page := by
  have asked : requestedMode { table with waiting := table.waiting.insert txn request } txn page =
      (table.cancelWait txn).requestedMode txn page := by
    simp only [requestedMode, cancelWait, SortedMap.get?_insert_self, SortedMap.get?_erase,
      if_neg elsewhere, if_true]
  have steps :
      (waitGraph { table with waiting := table.waiting.insert txn request }).erase txn =
        (table.cancelWait txn).waitGraph.erase txn := by
    apply SortedMap.ext
    intro other
    simp only [waitGraph, cancelWait, SortedMap.get?_erase, SortedMap.get?_map,
      SortedMap.get?_insert]
    split
    · rfl
    · rfl
  rw [isDeadlock, isDeadlock, asked, steps]
  rfl

/-- A check answers whether waiting would close a circle, whatever the table has been
asked before.  It changes nothing, and a wait for another page plays no part. -/
theorem check_finds_circles (calls : List Call) (txn : TxnId) (page : PageId) :
    let table := (({} : LockTable).serveAll calls).2
    table.serve (.check txn page) = (some (table.isDeadlock txn page), table) ∧
      (table.isDeadlock txn page = true ↔
        ∃ first between, table.Circle txn page first between) ∧
      ∀ request : LockRequest, request.page ≠ page →
        isDeadlock { table with waiting := table.waiting.insert txn request } txn page =
          (table.cancelWait txn).isDeadlock txn page := by
  intro table
  refine ⟨rfl, isDeadlock_iff_circle, ?_⟩
  intro request elsewhere
  exact isDeadlock_of_waits_elsewhere elsewhere

end LockTable

end TableStore
