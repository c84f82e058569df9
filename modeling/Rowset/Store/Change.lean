import Rowset.Store.Query

/-!
# Changes

Inserts, upserts and updates. Each gives a new store together with the number of rows it wrote; one
that fails gives no store, so nothing of it remains.
-/

namespace Rowset

open Rowset.Sql

/-- Columns of a table with the parameters that they are set from, names resolved. -/
def TableDef.settings? (d : TableDef) (settings : Settings String) : Option (Settings Nat) :=
  settings.mapM fun (column, p) => (d.column? column).map fun index => (index, p)

/-- The values that are set. -/
def cellChanges (binding : Binding) (settings : Settings Nat) : CellChanges :=
  settings.map fun (index, p) => (index, binding p)

/-- An insert with its names resolved. -/
structure InsertPlan where
  table : Table
  values : Settings Nat
  /-- What is set instead when the row is there already. -/
  onConflict : Option (Settings Nat)

/-- An update with its names resolved. -/
structure UpdatePlan where
  table : Table
  settings : Settings Nat
  condition : Condition Nat

/-- Resolves the names of an insert. Only conflicts of keys can be absorbed. -/
def Sql.InsertCommand.plan? (s : Store) (i : InsertCommand) : Option InsertPlan := do
  let table ← s.table? i.table
  let d := table.definition
  return {
    table
    values := ← d.settings? i.values
    onConflict := ← resolveOptional?
      (fun (column, settings) => if foldCase column = d.key then d.settings? settings else none)
      i.onConflict }

def Sql.UpdateCommand.plan? (s : Store) (u : UpdateCommand) : Option UpdatePlan := do
  let table ← s.table? u.table
  let scope : Scope := [(u.table, table.definition)]
  return {
    table
    settings := ← table.definition.settings? u.settings
    condition := ← Condition.resolve?
      (fun c => (scope.resolve? c).map CellRef.column) u.condition }

namespace InsertPlan

/-- The table with the row in it. -/
def run (p : InsertPlan) (binding : Binding) : Except Violation Table :=
  let row := Table.rowOf p.table.definition (cellChanges binding p.values)
  match p.onConflict with
  | none => p.table.insert row
  | some settings => p.table.upsert row (cellChanges binding settings)

end InsertPlan

namespace UpdatePlan

/-- The table with its rows updated, and how many there were. -/
def run (p : UpdatePlan) (binding : Binding) : Except Violation (Table × Nat) :=
  p.table.update (fun row => Condition.holds binding (TableDef.cell row) p.condition)
    (cellChanges binding p.settings)

end UpdatePlan

/-- The outcome of a change as an outcome of the statement. -/
def constrained {α : Type} : Except Violation α → Except StoreError α
  | .ok a => .ok a
  | .error violation => .error (.constraint violation)

/-- Runs a statement that changes the store. -/
def Store.execute (s : Store) (statement : Statement) : Except StoreError (Store × Nat) :=
  match Sql.parse? statement.sql with
  | some (.insert i) =>
    match i.plan? s with
    | some plan => do
      let binding ← bindAll (Command.insert i).parameters statement.binds
      let table ← constrained (plan.run binding)
      return (s.replace table, 1)
    | none => .error .statement
  | some (.update u) =>
    match u.plan? s with
    | some plan => do
      let binding ← bindAll (Command.update u).parameters statement.binds
      let (table, count) ← constrained (plan.run binding)
      return (s.replace table, count)
    | none => .error .statement
  | some (.query q) =>
    match q.plan? s with
    | some _ => do
      let _ ← bindAll (Command.query q).parameters statement.binds
      .error .executeReturnedResults
    | none => .error .statement
  | none => .error .statement

end Rowset
