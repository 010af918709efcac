import Mathlib.Logic.Relation
import TableStore.Proofs.Locks

/-!
# What the search for deadlocks finds

A transaction waits for those that hold the page it was refused, in a mode that
conflicts with its request.  The search takes the steps that lead on from a
transaction away once it has used them, and still finds everything that can be
reached: of a way on which a transaction comes twice, the part behind its last
visit does without its steps.  So a request is a deadlock exactly if waiting leads
from its transaction back to itself.
-/

set_option autoImplicit false

namespace TableStore

namespace WaitGraph

variable {graph : WaitGraph} {txn other target : TxnId} {starts : List TxnId}

def Leads (graph : WaitGraph) (txn other : TxnId) : Prop :=
  ∃ next, graph.get? txn = some next ∧ other ∈ next

theorem Leads.of_erase {node : TxnId} (leads : Leads (graph.erase node) txn other) :
    txn ≠ node ∧ Leads graph txn other := by
  obtain ⟨next, found, member⟩ := leads
  rw [SortedMap.get?_erase] at found
  split at found
  · cases found
  · next different => exact ⟨different, next, found, member⟩

theorem Leads.erase {node : TxnId} (leads : Leads graph txn other) (different : txn ≠ node) :
    Leads (graph.erase node) txn other := by
  obtain ⟨next, found, member⟩ := leads
  refine ⟨next, ?_, member⟩
  rw [SortedMap.get?_erase, if_neg different]
  exact found

theorem reach_of_erase {node : TxnId}
    (way : Relation.ReflTransGen (Leads (graph.erase node)) txn target) :
    Relation.ReflTransGen (Leads graph) txn target :=
  Relation.ReflTransGen.mono (fun _ _ leads => leads.of_erase.2) _ _ way

/-- A way does without the steps of a node, or its part behind the last visit to
the node does. -/
theorem reach_without {node : TxnId} (way : Relation.ReflTransGen (Leads graph) txn target) :
    Relation.ReflTransGen (Leads (graph.erase node)) txn target ∨
      ∃ next, graph.get? node = some next ∧
        ∃ start ∈ next, Relation.ReflTransGen (Leads (graph.erase node)) start target := by
  induction way using Relation.ReflTransGen.head_induction_on with
  | refl => exact .inl .refl
  | head first rest ih =>
      rename_i from_ via
      rcases ih with without | behind
      · by_cases here : from_ = node
        · subst here
          obtain ⟨next, found, member⟩ := first
          exact .inr ⟨next, found, via, member, without⟩
        · exact .inl (.head (first.erase here) without)
      · exact .inr behind

theorem eq_of_reach (stuck : graph.get? txn = none)
    (way : Relation.ReflTransGen (Leads graph) txn target) : txn = target := by
  cases way.cases_head with
  | inl same => exact same
  | inr further =>
      obtain ⟨via, ⟨next, found, -⟩, -⟩ := further
      cases stuck.symm.trans found

/-- The search finds exactly what can be reached. -/
theorem reaches_iff (graph : WaitGraph) (target : TxnId) (starts : List TxnId) :
    reaches graph target starts = true ↔
      ∃ start ∈ starts, Relation.ReflTransGen (Leads graph) start target := by
  fun_induction reaches graph target starts with
  | case1 graph => simp
  | case2 graph starts => simpa using Or.inl Relation.ReflTransGen.refl
  | case3 graph txn starts different stuck ih =>
      simp only [ih, List.mem_cons, exists_eq_or_imp]
      constructor
      · intro found
        exact .inr found
      · rintro (way | found)
        · exact absurd (eq_of_reach stuck way) different
        · exact found
  | case4 graph txn starts different next found smaller ih =>
      simp only [ih, List.mem_cons, exists_eq_or_imp]
      constructor
      · rintro ⟨start, member, way⟩
        rcases List.mem_append.mp member with led | listed
        · exact .inl (.head ⟨next, found, led⟩ (reach_of_erase way))
        · exact .inr ⟨start, listed, reach_of_erase way⟩
      · have behind (start : TxnId) (way : Relation.ReflTransGen (Leads graph) start target) :
            Relation.ReflTransGen (Leads (graph.erase txn)) start target ∨
              ∃ led ∈ next, Relation.ReflTransGen (Leads (graph.erase txn)) led target := by
          rcases reach_without way with without | ⟨steps, known, led, member, without⟩
          · exact .inl without
          · cases found.symm.trans known
            exact .inr ⟨led, member, without⟩
        rintro (way | ⟨start, listed, way⟩)
        · rcases behind txn way with without | ⟨led, member, without⟩
          · have gone : (graph.erase txn).get? txn = none := by
              rw [SortedMap.get?_erase, if_pos rfl]
            exact absurd (eq_of_reach gone without) different
          · exact ⟨led, List.mem_append_left starts member, without⟩
        · rcases behind start way with without | ⟨led, member, without⟩
          · exact ⟨start, List.mem_append_right next listed, without⟩
          · exact ⟨led, List.mem_append_left starts member, without⟩

end WaitGraph

namespace LockTable

variable {table : LockTable} {txn other : TxnId} {page : PageId} {mode : LockMode}

theorem mem_blockers_iff :
    other ∈ table.blockers txn page mode ↔
      other ≠ txn ∧ ∃ held, table.mode? other page = some held ∧ held.compatible mode = false := by
  unfold blockers
  rw [mode?_eq, modeIn]
  cases table.locks.get? page with
  | none => simp
  | some lock =>
      have holds : (∃ held, lock.modeOf? other = some held ∧ held.compatible mode = false) ↔
          other ∈ lock.holders ∧ lock.mode.compatible mode = false := by
        unfold Lock.modeOf?
        by_cases member : other ∈ lock.holders <;> simp [member]
      rw [Option.bind_some, holds]
      by_cases compatible : lock.mode.compatible mode = true
      · simp [Lock.blockers, compatible]
      · simp [Lock.blockers, compatible, and_comm]

/-- The first transaction was refused a page that the second one, a different one,
holds in a mode in conflict with the request. -/
def WaitsFor (table : LockTable) (txn other : TxnId) : Prop :=
  ∃ request, table.waiting.get? txn = some request ∧ other ≠ txn ∧
    ∃ held, table.mode? other request.page = some held ∧ held.compatible request.mode = false

theorem leads_waitGraph : table.waitGraph.Leads txn other ↔ table.WaitsFor txn other := by
  unfold WaitGraph.Leads waitGraph
  rw [SortedMap.get?_map]
  constructor
  · rintro ⟨next, found, member⟩
    obtain ⟨request, waits, rfl⟩ := Option.map_eq_some_iff.mp found
    exact ⟨request, waits, mem_blockers_iff.mp member⟩
  · rintro ⟨request, waits, blocks⟩
    exact ⟨_, by rw [waits]; rfl, mem_blockers_iff.mpr blocks⟩

theorem reach_waitGraph :
    Relation.ReflTransGen table.waitGraph.Leads txn other ↔
      Relation.ReflTransGen table.WaitsFor txn other := by
  have same : table.waitGraph.Leads = table.WaitsFor := by
    funext txn other
    exact propext leads_waitGraph
  rw [same]

/-- A refused request is found to be a deadlock exactly if waiting leads from its
transaction back to itself. -/
theorem isDeadlock_iff {request : LockRequest} (waits : table.waiting.get? txn = some request) :
    table.isDeadlock txn request.page = true ↔ Relation.TransGen table.WaitsFor txn txn := by
  have mode : table.requestedMode txn request.page = request.mode := by
    simp only [requestedMode, waits, if_true]
  have steps : table.waitGraph.get? txn = some (table.blockers txn request.page request.mode) := by
    rw [waitGraph, SortedMap.get?_map, waits]
    rfl
  unfold isDeadlock
  rw [mode, WaitGraph.reaches_iff]
  constructor
  · rintro ⟨blocker, member, way⟩
    have first : table.WaitsFor txn blocker := ⟨request, waits, mem_blockers_iff.mp member⟩
    exact .head' first (reach_waitGraph.mp (WaitGraph.reach_of_erase way))
  · intro circle
    obtain ⟨blocker, ⟨known, found, blocks⟩, way⟩ := Relation.TransGen.head'_iff.mp circle
    cases waits.symm.trans found
    rcases WaitGraph.reach_without (reach_waitGraph.mpr way) with
      without | ⟨next, led, start, member, without⟩
    · exact ⟨blocker, mem_blockers_iff.mpr blocks, without⟩
    · cases steps.symm.trans led
      exact ⟨start, member, without⟩

end LockTable

end TableStore
