import Rowset.Column
import Rowset.Statement.Error
import Rowset.Statement.Template

/-!
# Inserts

An insert writes one row, every insertable column of a record, zero or not. With a conflict column
it becomes an upsert, which sets all of those columns again where the row is already there.
-/

namespace Rowset

/-- What to do when the row is already there. -/
structure OnConflict where
  column : String
  assignments : List Assignment

structure Insert where
  table : String
  values : List Assignment
  onConflict : Option OnConflict := none

namespace OnConflict

/-- A clause without a column or without assignments is left out. -/
def template (c : OnConflict) : Template :=
  if c.column = "" ∨ c.assignments.isEmpty then []
  else
    .text " on conflict(" :: .text c.column :: .text ") do update set " ::
      Template.assignments "=" ", " c.assignments

end OnConflict

namespace Insert

def columnList (values : List Assignment) : String :=
  String.intercalate ", " (values.map Assignment.column)

/-- The statement without its conflict clause. -/
def valuesTemplate (i : Insert) : Template :=
  .text "insert into " :: .text i.table :: .text " (" :: .text (columnList i.values) :: .text ")"
    :: .text " values(" :: Template.joined ", " (i.values.map fun a => [.param a.param])
    ++ [.text ")"]

def template (i : Insert) : Template :=
  i.valuesTemplate ++ (i.onConflict.map OnConflict.template).getD []

@[simp] theorem params_valuesTemplate (i : Insert) :
    i.valuesTemplate.params = i.values.map Assignment.param := by
  have each : (i.values.flatMap fun a => [a.param]) = i.values.map Assignment.param :=
    List.map_eq_flatMap.symm
  simp [valuesTemplate, List.flatMap_map, each]

end Insert

/-- An insert in preparation. -/
structure InsertDraft where
  table : String
  values : List Assignment := []
  conflict : Option String := none

namespace InsertDraft

/-- The insertable columns of a record, each bound under its own name. -/
def assignments (record : Record) : List Assignment :=
  (record.columns.filter fun c => c.opts.insertable).map fun c => .of c.name c.name c.value

/-- Appends the columns of a record. -/
def record (d : InsertDraft) (record : Record) : InsertDraft :=
  { d with values := d.values ++ assignments record }

/-- Makes the insert an upsert on a column. -/
def upsert (d : InsertDraft) (column : String) : InsertDraft := { d with conflict := some column }

/-- The finished insert. A conflict clause sets all the values that the draft has in the end. -/
def build (d : InsertDraft) : Except QueryError Insert :=
  if d.values.isEmpty then .error (.nothingToInsert d.table)
  else .ok ⟨d.table, d.values, d.conflict.map fun column => ⟨column, d.values⟩⟩

@[simp] theorem record_upsert (d : InsertDraft) (r : Record) (column : String) :
    (d.record r).upsert column = (d.upsert column).record r := rfl

end InsertDraft

end Rowset
