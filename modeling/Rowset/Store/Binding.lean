import Rowset.Sql.Parser
import Rowset.Statement.Rendering
import Rowset.Store.Catalog

/-!
# Names, parameters and truth

A statement goes through three stages, and a later one is only reached when the earlier ones went
well. Its text is read and its names are resolved against the tables. Its binds are matched with its
parameters; a parameter that gets no value is absent. Then it runs.

This module holds what queries and changes have in common: how names are resolved, how parameters
get their values, and when a condition is true.
-/

namespace Rowset

open Rowset.Sql

/-- Why a statement fails. -/
inductive StoreError where
  /-- The text is no statement, or a name in it means nothing or too much. -/
  | statement
  /-- A bind has no parameter to go to. -/
  | invalidParameterName (name : String)
  /-- A statement that was to change the store is a query. -/
  | executeReturnedResults
  /-- A change would break a rule of a table. -/
  | constraint (violation : Violation)
  /-- A row has something other than a text in the column that is read. -/
  | invalidColumnType (kind column : String)
deriving DecidableEq, Repr

/-- The words for a failure, where it has any of its own. -/
def StoreError.message? : StoreError → Option String
  | .statement | .executeReturnedResults => none
  | .invalidParameterName name => some ("Invalid parameter name: " ++ name)
  | .constraint violation => some violation.message
  | .invalidColumnType kind column =>
    some ("Invalid column type " ++ kind ++ " at index: 0, name: " ++ column)

/-! ## Names -/

/-- The table of a name. -/
def Store.table? (s : Store) (name : String) : Option Table :=
  s.tables.find? fun t => t.definition.name == foldCase name

/-- The place of a column in a table. -/
def TableDef.column? (d : TableDef) (name : String) : Option Nat := d.indexOf? (foldCase name)

/-- The tables that a statement reads, with the names they go by. -/
abbrev Scope := List (String × TableDef)

/-- The place of a cell in a scope: which table, and which of its columns. -/
structure CellRef where
  table : Nat
  column : Nat
deriving DecidableEq, Repr

/-- Whether a column may belong to the table of a name. -/
def Sql.ColumnRef.fits (column : ColumnRef) (label : String) : Bool :=
  match column.qualifier with
  | none => true
  | some qualifier => foldCase qualifier == foldCase label

/-- The cells that a column may refer to. -/
def Scope.matching (scope : Scope) (column : ColumnRef) : List CellRef :=
  scope.zipIdx.filterMap fun ((label, definition), table) =>
    if column.fits label then (definition.column? column.name).map fun c => ⟨table, c⟩ else none

/-- The cell that a column refers to; a column of two tables refers to neither. -/
def Scope.resolve? (scope : Scope) (column : ColumnRef) : Option CellRef :=
  match scope.matching column with
  | [cell] => some cell
  | _ => none

namespace Sql

variable {γ δ : Type}

def Test.resolve? (column? : γ → Option δ) : Test γ → Option (Test δ)
  | .equals c p => (column? c).map (.equals · p)
  | .isNull c => (column? c).map .isNull

def Condition.resolve? (column? : γ → Option δ) (c : Condition γ) : Option (Condition δ) :=
  c.mapM fun tests => tests.mapM (Test.resolve? column?)

end Sql

/-! ## Parameters -/

/-- The values of parameters. -/
abbrev Binding := String → SqlValue

/-- The parameter that a bind goes to. -/
def Bind.parameter (b : Bind) : String := ":" ++ b.name

/-- The value that a list of binds gives to a parameter; of two for one parameter the later. -/
def bindingOf (binds : List Bind) : Binding := fun p =>
  ((binds.reverse.find? fun b => b.parameter == p).map fun b => b.value.stored).getD .null

/-- Matches binds with the parameters of a statement. -/
def bindAll (parameters : List String) (binds : List Bind) : Except StoreError Binding :=
  match binds.find? fun b => !parameters.contains b.parameter with
  | some b => .error (.invalidParameterName b.parameter)
  | none => .ok (bindingOf binds)

/-! ## Truth -/

/-- The truth of an equality, unless a value is absent. Values of different kinds differ. -/
def SqlValue.equal? : SqlValue → SqlValue → Option Bool
  | .null, _ | _, .null => none
  | .real x, .real y => some (x.numEq y)
  | a, b => some (a == b)

/-- Conjunction: a false settles it, then an unknown. -/
def conjunction (truths : List (Option Bool)) : Option Bool :=
  if truths.contains (some false) then some false
  else if truths.contains none then none
  else some true

/-- Disjunction: a true settles it, then an unknown. -/
def disjunction (truths : List (Option Bool)) : Option Bool :=
  if truths.contains (some true) then some true
  else if truths.contains none then none
  else some false

namespace Sql

variable {γ : Type}

/-- The truth of a test, given the values of parameters and cells. -/
def Test.truth (binding : Binding) (cell : γ → SqlValue) : Test γ → Option Bool
  | .equals c p => (cell c).equal? (binding p)
  | .isNull c => some (cell c).isNull

def Condition.truth (binding : Binding) (cell : γ → SqlValue) (c : Condition γ) : Option Bool :=
  disjunction (c.map fun tests => conjunction (tests.map (Test.truth binding cell)))

/-- A condition picks a row only when it is true of it. -/
def Condition.holds (binding : Binding) (cell : γ → SqlValue) (c : Condition γ) : Bool :=
  Condition.truth binding cell c == some true

end Sql

end Rowset
