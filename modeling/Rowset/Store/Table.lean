import Rowset.Value.Stored

/-!
# Tables

A table has named columns, one of which is its key, and rows with a cell for each column. A column
may refuse to be absent and may have a default. Two rows never share a key, but absent keys are not
counted as shared.
-/

namespace Rowset

structure ColumnDef where
  name : String
  /-- Whether a row has to have a value here. -/
  notNull : Bool := false
  /-- The value of a row that does not give one. -/
  default : SqlValue := .null

/-- What is fixed about a table. -/
structure TableDef where
  name : String
  /-- The name of the column that identifies rows. -/
  key : String
  columns : List ColumnDef

/-- The cells of a row, in the order of the table's columns. -/
abbrev Row := List SqlValue

structure Table where
  definition : TableDef
  rows : List Row

/-- A rule that a change would break. -/
inductive Violation where
  /-- A row would have no value in a column that needs one. -/
  | notNull (table column : String)
  /-- Two rows would share a key. -/
  | unique (table column : String)
deriving DecidableEq, Repr

def Violation.message : Violation → String
  | .notNull table column => "NOT NULL constraint failed: " ++ table ++ "." ++ column
  | .unique table column => "UNIQUE constraint failed: " ++ table ++ "." ++ column

namespace TableDef

/-- The place of a column. -/
def indexOf? (d : TableDef) (column : String) : Option Nat :=
  d.columns.findIdx? fun c => c.name == column

/-- The cell of a row in a column; a row has no cell outside its table. -/
def cell (row : Row) (index : Nat) : SqlValue := row.getD index .null

/-- The key of a row. -/
def keyOf (d : TableDef) (row : Row) : SqlValue :=
  cell row (d.columns.findIdx fun c => c.name == d.key)

/-- The first column of a row that lacks a value it needs. -/
def missing? (d : TableDef) (row : Row) : Option String :=
  ((d.columns.zip row).find? fun (c, v) => c.notNull && v.isNull).map fun (c, _) => c.name

/-- Whether two rows share a key. -/
def sameKey (d : TableDef) (r s : Row) : Bool := !(d.keyOf r).isNull && d.keyOf r == d.keyOf s

/-- The row among others that has the same key. -/
def clash? (d : TableDef) (row : Row) (others : List Row) : Option Row :=
  others.find? (d.sameKey row)

/-- Whether a row can stand beside others; a missing value is reported before a shared key. -/
def check (d : TableDef) (row : Row) (others : List Row) : Except Violation Unit :=
  match d.missing? row with
  | some column => .error (.notNull d.name column)
  | none =>
    match d.clash? row others with
    | some _ => .error (.unique d.name d.key)
    | none => .ok ()

end TableDef

/-! ## Changes -/

/-- New values for some of a row's cells; of two for one cell the later counts. -/
abbrev CellChanges := List (Nat × SqlValue)

def Row.change (row : Row) (changes : CellChanges) : Row :=
  changes.foldl (fun r (index, value) => r.set index value) row

@[simp] theorem Row.change_nil (row : Row) : row.change [] = row := rfl

@[simp] theorem Row.length_change (row : Row) (changes : CellChanges) :
    (row.change changes).length = row.length := by
  induction changes generalizing row with
  | nil => rfl
  | cons change changes ih =>
    show (Row.change (row.set change.1 change.2) changes).length = _
    rw [ih, List.length_set]

namespace Table

/-- A row from the values given for some columns; of two for one column the first counts. -/
def rowOf (d : TableDef) (values : CellChanges) : Row :=
  d.columns.mapIdx fun index c => (values.lookup index).getD c.default

/-- Changes the rows that a test picks, one after another. Every changed row has to be able to stand
beside all the others as they are by then. -/
def changeRows (d : TableDef) (picks : Row → Bool) (changes : CellChanges) :
    List Row → List Row → Except Violation (List Row)
  | done, [] => .ok done
  | done, row :: rest =>
    if picks row then
      let changed := row.change changes
      match d.check changed (done ++ rest) with
      | .ok () => changeRows d picks changes (done ++ [changed]) rest
      | .error violation => .error violation
    else changeRows d picks changes (done ++ [row]) rest

/-- Changes the rows that a test picks, and counts them. -/
def update (t : Table) (picks : Row → Bool) (changes : CellChanges) :
    Except Violation (Table × Nat) :=
  (changeRows t.definition picks changes [] t.rows).map fun rows =>
    ({ t with rows }, t.rows.countP picks)

/-- Adds a row. -/
def insert (t : Table) (row : Row) : Except Violation Table :=
  (t.definition.check row t.rows).map fun () => { t with rows := t.rows ++ [row] }

/-- Adds a row, or changes the one that is there under its key. -/
def upsert (t : Table) (row : Row) (changes : CellChanges) : Except Violation Table :=
  match t.definition.missing? row with
  | some column => .error (.notNull t.definition.name column)
  | none =>
    if (t.definition.clash? row t.rows).isSome then
      (t.update (t.definition.sameKey row) changes).map Prod.fst
    else .ok { t with rows := t.rows ++ [row] }

end Table

end Rowset
