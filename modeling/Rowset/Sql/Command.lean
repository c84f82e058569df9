/-!
# Statements of the store

What the store can be asked to do: query one table, or two joined on a pair of columns; insert a
row, with or without a clause for the case that it is there already; update rows. Conditions compare
columns with parameters, and truth has three values: a comparison with an absent value is neither
true nor false.
-/

namespace Rowset.Sql

/-- A column by its name, with the name of its table's place in the query if that is given. -/
structure ColumnRef where
  qualifier : Option String
  name : String
deriving DecidableEq, Repr

/-- A test of one column, however columns are referred to. -/
inductive Test (γ : Type) where
  | equals (column : γ) (parameter : String)
  | isNull (column : γ)
deriving DecidableEq, Repr

/-- Alternatives, each a list of tests that have to hold together. -/
abbrev Condition (γ : Type) := List (List (Test γ))

/-- The condition that always holds. -/
def always {γ : Type} : Condition γ := [[]]

/-- A table and the name it goes by. -/
structure TableRef where
  table : String
  label : String
deriving DecidableEq, Repr

/-- A second table and the columns that have to agree. -/
structure Join where
  source : TableRef
  left : ColumnRef
  right : ColumnRef
deriving DecidableEq, Repr

/-- A column to order rows by. -/
structure Order (γ : Type) where
  column : γ
  descending : Bool
deriving DecidableEq, Repr

/-- How many rows to give, after leaving how many out. -/
structure Window where
  limit : Nat
  offset : Nat
deriving DecidableEq, Repr

structure Query where
  column : ColumnRef
  source : TableRef
  join : Option Join
  condition : Condition ColumnRef
  order : Option (Order ColumnRef)
  window : Option Window
deriving DecidableEq, Repr

/-- Columns with the parameters that they are set from. -/
abbrev Settings (γ : Type) := List (γ × String)

structure InsertCommand where
  table : String
  values : Settings String
  /-- The column whose conflicts are absorbed, and what is set instead. -/
  onConflict : Option (String × Settings String)
deriving DecidableEq, Repr

structure UpdateCommand where
  table : String
  settings : Settings String
  condition : Condition ColumnRef
deriving DecidableEq, Repr

inductive Command where
  | query (q : Query)
  | insert (i : InsertCommand)
  | update (u : UpdateCommand)
deriving DecidableEq, Repr

/-! ## Parameters of a statement -/

def Test.parameters {γ : Type} : Test γ → List String
  | .equals _ p => [p]
  | .isNull _ => []

def Condition.parameters {γ : Type} (c : Condition γ) : List String :=
  c.flatMap fun tests => tests.flatMap Test.parameters

def Command.parameters : Command → List String
  | .query q => Condition.parameters q.condition
  | .insert i =>
    i.values.map Prod.snd ++ (i.onConflict.map fun c => c.2.map Prod.snd).getD []
  | .update u => u.settings.map Prod.snd ++ Condition.parameters u.condition

end Rowset.Sql
