import Rowset.Store.Binding

/-!
# Queries

A query picks the rows of a table, or of two joined tables, that its condition is true of, puts them
in order, cuts its window out of them and reads one column.
-/

namespace Rowset

open Rowset.Sql

/-- Kinds of values are ordered before the values themselves. -/
def SqlValue.rank : SqlValue → Nat
  | .null => 0
  | .integer _ => 1
  | .real _ => 2
  | .text _ => 3
  | .blob _ => 4

/-- The order of values: integers by size, texts by their characters. -/
def SqlValue.le : SqlValue → SqlValue → Bool
  | .integer m, .integer n => m ≤ n
  | .text s, .text t => !(t < s)
  | .blob bs, .blob cs => !(cs < bs)
  | a, b => a.rank ≤ b.rank

/-- A query with its names resolved. -/
structure QueryPlan where
  tables : List Table
  join : Option (CellRef × CellRef)
  output : CellRef
  condition : Condition CellRef
  order : Option (Order CellRef)
  window : Option Window

/-- The tables that a query reads, with the names they go by. -/
def Sql.Query.sources? (s : Store) (q : Query) : Option (List (String × Table)) :=
  match s.table? q.source.table, q.join with
  | some main, none => some [(q.source.label, main)]
  | some main, some j =>
    (s.table? j.source.table).map fun t => [(q.source.label, main), (j.source.label, t)]
  | none, _ => none

def Sql.Join.resolve? (scope : Scope) (j : Join) : Option (CellRef × CellRef) := do
  return (← scope.resolve? j.left, ← scope.resolve? j.right)

def Sql.Order.resolve? (scope : Scope) (o : Order ColumnRef) : Option (Order CellRef) :=
  (scope.resolve? o.column).map fun c => ⟨c, o.descending⟩

/-- Resolves what may be missing. -/
def resolveOptional? {α β : Type} (f : α → Option β) : Option α → Option (Option β)
  | none => some none
  | some a => (f a).map some

/-- Resolves the names of a query; every one of them has to mean exactly one thing. -/
def Sql.Query.plan? (s : Store) (q : Query) : Option QueryPlan := do
  let sources ← q.sources? s
  let scope : Scope := sources.map fun (label, t) => (label, t.definition)
  return {
    tables := sources.map Prod.snd
    join := ← resolveOptional? (Join.resolve? scope) q.join
    output := ← scope.resolve? q.column
    condition := ← Condition.resolve? scope.resolve? q.condition
    order := ← resolveOptional? (Order.resolve? scope) q.order
    window := q.window }

/-- A row of each table that a query reads. -/
abbrev JoinedRow := List Row

def JoinedRow.cell (r : JoinedRow) (c : CellRef) : SqlValue :=
  TableDef.cell (r.getD c.table []) c.column

/-- All ways to take a row from each table, the first table's rows in the outer order. -/
def combine : List Table → List JoinedRow
  | [] => [[]]
  | t :: ts => t.rows.flatMap fun row => (combine ts).map (row :: ·)

namespace QueryPlan

/-- Whether a joined row agrees on the columns of the join. -/
def agrees (p : QueryPlan) (r : JoinedRow) : Bool :=
  match p.join with
  | none => true
  | some (left, right) => (JoinedRow.cell r left).equal? (JoinedRow.cell r right) == some true

/-- The name of the column that is read. -/
def outputName (p : QueryPlan) : String :=
  (((p.tables[p.output.table]?).bind fun t => t.definition.columns[p.output.column]?).map
    ColumnDef.name).getD ""

/-- The cell that holds the key of a table's row. -/
def keyCell (p : QueryPlan) (table : Nat) : CellRef :=
  ⟨table, ((p.tables[table]?.bind fun t => t.definition.indexOf? t.definition.key).getD 0)⟩

/-- Whether a cell holds a key. -/
def isKey (p : QueryPlan) (c : CellRef) : Bool := c == p.keyCell c.table

/-- Whether a cell holds a key, of its own row or of the row that it is joined with. -/
def namesRow (p : QueryPlan) (c : CellRef) : Bool :=
  p.isKey c ||
    match p.join with
    | none => false
    | some (left, right) => (c == left && p.isKey right) || (c == right && p.isKey left)

/-- Whether a query reads nothing but the keys of a single table. -/
def readsKeysOnly (p : QueryPlan) : Bool :=
  p.tables.length == 1 && p.output == p.keyCell 0 && p.condition == always

/-- The cell that a query looks rows up by: one that names a row, where the condition is nothing but
a list of the values that it may have. -/
def lookedUp? (p : QueryPlan) : Option CellRef :=
  match p.condition with
  | [.equals c _] :: others =>
    if p.namesRow c && others.all (isEqualityOf c) then some c else none
  | _ => none
where
  isEqualityOf (c : CellRef) : List (Test CellRef) → Bool
    | [.equals d _] => d == c
    | _ => false

/-- The cell whose order rows come in when none is asked for; without one, they come in the order in
which they were added. -/
def naturalOrder? (p : QueryPlan) : Option CellRef :=
  if p.readsKeysOnly then some (p.keyCell 0) else p.lookedUp?

/-- Rows by a cell, in ascending order. -/
def ascending (c : CellRef) (rows : List JoinedRow) : List JoinedRow :=
  rows.mergeSort fun r s => (JoinedRow.cell r c).le (JoinedRow.cell s c)

/-- Rows by a cell, in descending order. -/
def descending (c : CellRef) (rows : List JoinedRow) : List JoinedRow :=
  rows.mergeSort fun r s => (JoinedRow.cell s c).le (JoinedRow.cell r c)

/-- Puts rows in the order that is asked for, where rows with equal cells stay in the order in which
they were added. Keys are kept in their order, which is read from its end when it is to descend. -/
def ordered (p : QueryPlan) (o : Order CellRef) (rows : List JoinedRow) : List JoinedRow :=
  if !o.descending then ascending o.column rows
  else if o.column == p.keyCell 0 then (ascending o.column rows).reverse
  else descending o.column rows

/-- Puts rows in the order that is asked for, or else in the one that they come in. -/
def sorted (p : QueryPlan) (rows : List JoinedRow) : List JoinedRow :=
  match p.order, p.naturalOrder? with
  | some o, _ => p.ordered o rows
  | none, some c => ascending c rows
  | none, none => rows

/-- Cuts the window out of the rows. -/
def cut (p : QueryPlan) (rows : List JoinedRow) : List JoinedRow :=
  match p.window with
  | none => rows
  | some w => (rows.drop w.offset).take w.limit

/-- The rows that a query is about, before they are ordered and cut. -/
def matching (p : QueryPlan) (binding : Binding) : List JoinedRow :=
  (combine p.tables).filter fun r =>
    p.agrees r && Condition.holds binding (JoinedRow.cell r) p.condition

/-- The values of the column that is read. -/
def values (p : QueryPlan) (binding : Binding) : List SqlValue :=
  (p.cut (p.sorted (p.matching binding))).map fun r => JoinedRow.cell r p.output

end QueryPlan

/-- A value as the text that is expected under a column's name. -/
def SqlValue.asText (column : String) : SqlValue → Except StoreError String
  | .text s => .ok s
  | v => .error (.invalidColumnType v.kindName column)

/-- Runs a query and reads its column as texts; the first row without one makes it fail. -/
def Store.queryIds (s : Store) (statement : Statement) : Except StoreError (List String) :=
  match Sql.parse? statement.sql with
  | some (.query q) =>
    match q.plan? s with
    | some plan => do
      let binding ← bindAll (Command.query q).parameters statement.binds
      (plan.values binding).mapM (SqlValue.asText plan.outputName)
    | none => .error .statement
  | _ => .error .statement

end Rowset
