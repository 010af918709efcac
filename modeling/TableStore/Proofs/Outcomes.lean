import TableStore.Proofs.Runs

/-!
# What operations end with

A run is seen from outside by what its operations end with: the handle, the row
with its place, the page or the rows, or the error.  An operation ends in its last
step, or when it begins, if it cannot begin.
-/

set_option autoImplicit false

namespace TableStore

inductive Outcome where
  | fetched (result : Except StoreError Handle)
  | inserted (result : Except StoreError Inserted)
  | deleted (result : Except StoreError PageId)
  | scanned (table : TableId) (result : Scanned)

def Call.refusal? (txn : TxnId) (store : Store) : Call → Option Outcome
  | .fetch _ _ => none
  | .insert id row =>
      match store.catalog.table id with
      | .error error => some (.inserted (.error error))
      | .ok table =>
          match (Insertion.start table txn row store).1 with
          | .error error => some (.inserted (.error error))
          | .ok _ => none
  | .delete row =>
      match row.location with
      | none => some (.deleted (.error (.rowNotFound .unplaced)))
      | some location =>
          match store.catalog.table location.page.table with
          | .error error => some (.deleted (.error error))
          | .ok table =>
              match Deletion.start table txn row store with
              | .error error => some (.deleted (.error error))
              | .ok _ => none
  | .scan id =>
      match store.catalog.table id with
      | .error error => some (.scanned id ⟨[], some error⟩)
      | .ok _ => none

def Operation.outcome? (store : Store) : Operation → Option Outcome
  | .fetch request =>
      match (store.attempt request).1 with
      | .finished result => some (.fetched result)
      | .waiting _ => none
  | .insertion task =>
      match (task.step store).1 with
      | .finished result => some (.inserted result)
      | _ => none
  | .deletion task =>
      match (task.resume store).1 with
      | .finished result => some (.deleted result)
      | .waiting _ => none
  | .scan task =>
      match (task.step store).1 with
      | .finished result => some (.scanned task.seek.cursor.table.id result)
      | _ => none

namespace System

variable (system : System)

def outcome? : Action → Option (TxnId × Outcome)
  | .call txn call =>
      match system.pending.get? txn with
      | none => (call.refusal? txn system.store).map (txn, ·)
      | some _ => none
  | .advance txn =>
      match system.pending.get? txn with
      | none => none
      | some operation => (operation.outcome? system.store).map (txn, ·)
  | _ => none

/-- The outcomes of a run, in the order in which its operations end. -/
def outcomes (system : System) : List Action → List (TxnId × Outcome)
  | [] => []
  | action :: actions =>
      (system.outcome? action).toList ++ (system.perform action).outcomes actions

theorem outcomes_append {system : System} {first second : List Action} :
    system.outcomes (first ++ second) =
      system.outcomes first ++ (system.run first).outcomes second := by
  induction first generalizing system with
  | nil => rfl
  | cons action first ih =>
      rw [List.cons_append, outcomes, outcomes, ih, List.append_assoc]
      rfl

end System

end TableStore
