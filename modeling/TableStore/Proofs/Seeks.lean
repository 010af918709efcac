import TableStore.CommandLine
import TableStore.Proofs.Inventories

/-!
# Seeks

A cursor of a transaction that is alone comes from each page with rows to the next
one, over pages without rows.  Whoever looks for a place in this way finds the row
there, or that the place is free.
-/

set_option autoImplicit false

namespace TableStore

theorem Inventory.find?_list (inventory : Inventory) (place : Location) :
    inventory.list.find? (fun entry => decide (entry.1 = some place)) =
      (inventory.get? place).map fun values => (some place, values) := by
  rw [list, SortedMap.get?]
  induction inventory.entries with
  | nil => rfl
  | cons first rest ih =>
      rw [List.map_cons, List.find?_cons, SortedMap.find?]
      by_cases here : place = first.1
      · simp only [here, decide_true, if_true, Option.map_some]
      · have other : ¬some first.1 = some place := fun same => here (Option.some.inj same).symm
        simp only [here, other, decide_false, if_false]
        exact ih

namespace Store

variable {store middle : Store} {txn : TxnId} {tables : Tables} {table : Table} {number : Nat}
  {place : Location} {inventory : Inventory}

/-- What a seek has come to from a page on: rows and the pages behind them, or the
end of a table without further rows. -/
inductive Sighted (tables : Tables) (table : Table) (txn : TxnId) (left number : Nat) :
    Sought → Prop
  | rows {rows : List Row} {rest next : Nat} (full : rows ≠ []) (less : rest < left)
      (counted : next + rest = number + left)
      (split : (tables.rowsFrom table left number).1 =
        rows.map Row.entry ++ (tables.rowsFrom table rest next).1) :
      Sighted tables table txn left number ⟨.ok true, ⟨table, txn, UInt32.ofNat next, rows, true⟩⟩
  | nothing {cursor : Cursor} (blank : (tables.rowsFrom table left number).1 = []) :
      Sighted tables table txn left number ⟨.ok false, cursor⟩

section

variable (begun : Serial store txn [] tables)
  (registered : store.catalog.tables.get? table.id = some table)
  (readable : tables.Readable table)

include begun registered readable

theorem Passed.seek (left : Nat) {number : Nat} {middle : Store}
    (passed : Passed txn store tables middle [] tables)
    (counted : number + left = tables.count table.id) {limit : Nat} (enough : 2 * left + 1 ≤ limit) :
    ∃ sought after, Step.repeat Seek.step limit
          ⟨⟨table, txn, UInt32.ofNat number, [], true⟩, none⟩ middle = (.finished sought, after) ∧
      Sighted tables table txn left number sought ∧ Passed txn store tables after [] tables := by
  have chosen := passed.choose begun registered readable.sized counted
  obtain ⟨limit, rfl⟩ : ∃ rest, limit = rest + 1 := ⟨limit - 1, by omega⟩
  cases left with
  | zero =>
      rw [if_neg (by omega)] at chosen
      refine ⟨⟨.ok false, ⟨table, txn, UInt32.ofNat number, [], true⟩⟩, middle, ?_, .nothing rfl,
        passed⟩
      simp only [Step.repeat, chosen]
  | succ left =>
      rw [if_pos (by omega)] at chosen
      obtain ⟨limit, rfl⟩ : ∃ rest, limit = rest + 1 := ⟨limit - 1, by omega⟩
      obtain ⟨contents, seen, -⟩ := readable.page number (by omega)
      obtain ⟨rows, got, taken, entries, reached⟩ := passed.take seen
      have first : (tables.rowsFrom table (left + 1) number).1 =
          rows.map Row.entry ++ (tables.rowsFrom table left (number + 1)).1 := by
        rw [Tables.rowsFrom, entries]
        simp only [seen]
      simp only [Step.repeat, chosen, taken]
      by_cases empty : rows = []
      · subst empty
        obtain ⟨sought, after, run, sighted, later⟩ := seek left reached
          (show number + 1 + left = _ by omega) (show 2 * left + 1 ≤ limit by omega)
        refine ⟨sought, after, run, ?_, later⟩
        cases sighted with
        | rows full less same split =>
            exact .rows full (by omega) (by omega) (first.trans split)
        | nothing blank => exact .nothing (first.trans blank)
      · obtain ⟨limit, rfl⟩ : ∃ rest, limit = rest + 1 := ⟨limit - 1, by omega⟩
        refine ⟨⟨.ok true, ⟨table, txn, UInt32.ofNat (number + 1), rows, true⟩⟩, got, ?_, .rows empty (Nat.lt_succ_self left) (by omega) first, reached⟩
        rcases choose_cases ⟨table, txn, UInt32.ofNat (number + 1), rows, true⟩ got with
          ⟨-, ended⟩ | ⟨wrong, -⟩
        · simp only [Step.repeat, Seek.step, ended]
        · exact absurd wrong empty

/-- A search that begins at a page finds the first row behind it that is at the
place. -/
theorem Passed.findRow (place : Location) (fuel : Nat) {left number : Nat} {middle : Store}
    (passed : Passed txn store tables middle [] tables)
    (counted : number + left = tables.count table.id) (enough : left < fuel) :
    ∃ found after, CommandLine.findRow place fuel ⟨table, txn, UInt32.ofNat number, [], true⟩
          middle = (.ok found, after) ∧
      found.map Row.entry = (tables.rowsFrom table left number).1.find?
        (fun entry => decide (entry.1 = some place)) ∧
      Passed txn store tables after [] tables := by
  induction fuel generalizing left number middle with
  | zero => omega
  | succ fuel ih =>
      have known : middle.catalog.tables.get? table.id = some table :=
        passed.ages.catalog ▸ registered
      have limit := wholePages_le_stepLimit middle table
      rw [passed.serial.count _ _ known] at limit
      obtain ⟨sought, got, run, sighted, reached⟩ := passed.seek begun registered readable left
        counted (show 2 * left + 1 ≤ middle.stepLimit by omega)
      rw [CommandLine.findRow]
      simp only [Seek.run, if_true, Seek.resume, run]
      cases sighted with
      | nothing blank =>
          refine ⟨none, got, rfl, ?_, reached⟩
          rw [blank]
          rfl
      | @rows rows rest next full less same split =>
          have here : (rows.map Row.entry).find? (fun entry => decide (entry.1 = some place)) =
              (rows.find? fun row => decide (row.location = some place)).map Row.entry :=
            List.find?_map
          rw [split, List.find?_append, here]
          cases found : rows.find? fun row => decide (row.location = some place) with
          | some row =>
              simp only [found]
              exact ⟨some row, got, rfl, rfl, reached⟩
          | none =>
              simp only [found, Option.map_none, Option.none_or]
              exact ih reached (by omega) (by omega)

end

/-- Whoever looks for a place finds the row there, or that the place is free. -/
theorem Serial.findRow (begun : Serial store txn [] tables)
    (registered : store.catalog.tables.get? table.id = some table)
    (holds : tables.Holds table inventory) (place : Location) :
    ∃ found after, CommandLine.findRow place store.stepLimit { table, txn } store =
        (.ok found, after) ∧
      found.map Row.entry = (inventory.get? place).map (fun values => (some place, values)) ∧
      Passed txn store tables after [] tables := by
  have limit := wholePages_le_stepLimit store table
  rw [begun.count _ _ registered] at limit
  have rows := congrArg Prod.fst (holds.scan (begun.small registered))
  rw [Tables.scan, if_neg (Nat.ne_of_gt holds.sized)] at rows
  have found := begun.passed.findRow begun registered holds.toReadable place store.stepLimit
    (show 0 + tables.count table.id = _ by omega) (show tables.count table.id < _ by omega)
  rw [rows, Inventory.find?_list] at found
  exact found

end Store

end TableStore
