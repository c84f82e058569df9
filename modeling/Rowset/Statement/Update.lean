import Rowset.Column
import Rowset.Statement.Error
import Rowset.Statement.Template

/-!
# Updates

An update sets the columns that a record states and leaves the others alone: zero columns are taken
for not stated, unless they are forced or a key. Keys scope the update by the record's own values,
whatever those are.
-/

namespace Rowset

structure Update where
  table : String
  /-- The columns that are set. -/
  assignments : List Assignment
  /-- The predicates on the keys; without any, all rows are updated. -/
  keys : List Assignment := []

namespace Update

def whereTemplate (keys : List Assignment) : Template :=
  if keys.isEmpty then [] else .text " where " :: Template.assignments "=" " and " keys

def template (u : Update) : Template :=
  .text "update " :: .text u.table :: .text " set " :: Template.assignments "=" ", " u.assignments
    ++ whereTemplate u.keys

@[simp] theorem params_whereTemplate (keys : List Assignment) :
    (whereTemplate keys).params = keys.map Assignment.param := by
  unfold whereTemplate
  split
  next h => simp [List.isEmpty_iff.1 h]
  · simp

@[simp] theorem params_template (u : Update) :
    u.template.params = u.assignments.map Assignment.param ++ u.keys.map Assignment.param := by
  simp [template]

end Update

/-- An update in preparation. -/
structure UpdateDraft where
  table : String
  keys : List String := []
  columns : List Column := []

namespace UpdateDraft

/-- Scopes the update by these columns and no others. -/
def keyedBy (d : UpdateDraft) (keys : List String) : UpdateDraft := { d with keys }

/-- Appends the columns of a record. -/
def record (d : UpdateDraft) (record : Record) : UpdateDraft :=
  { d with columns := d.columns ++ record.columns }

/-- Whether a column is stated: not zero, or written in any case. -/
def isStated (keys : List String) (c : Column) : Bool :=
  !c.zero || c.opts.force || keys.contains c.name

/-- The columns that are set. -/
def stated (d : UpdateDraft) : List Column :=
  d.columns.filter fun c => c.opts.insertable && isStated d.keys c

/-- The names of the columns that could be set but are not stated. -/
def leftOut (d : UpdateDraft) : List String :=
  (d.columns.filter fun c => c.opts.insertable && !isStated d.keys c).map Column.name

/-- The predicate of a key, from the first column of that name. -/
def keyPredicate (d : UpdateDraft) (key : String) : Except QueryError Assignment :=
  match d.columns.find? fun c => c.name == key with
  | some c => .ok (.of key key c.value)
  | none => .error (.unknownKeyColumn d.table key)

/-- The finished update. An unknown key is reported before the lack of anything to set. -/
def build (d : UpdateDraft) : Except QueryError Update :=
  match d.keys.mapM d.keyPredicate with
  | .error e => .error e
  | .ok keys =>
    let assignments := d.stated.map fun c => Assignment.of c.name c.name c.value
    if assignments.isEmpty then .error (.nothingToUpdate d.table)
    else .ok ⟨d.table, assignments, keys⟩

@[simp] theorem record_keyedBy (d : UpdateDraft) (r : Record) (keys : List String) :
    (d.record r).keyedBy keys = (d.keyedBy keys).record r := rfl

end UpdateDraft

end Rowset
