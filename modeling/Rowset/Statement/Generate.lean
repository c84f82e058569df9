import Rowset.Statement.Filter
import Rowset.Statement.Insert
import Rowset.Statement.Rendering
import Rowset.Statement.Update

/-!
# From records to statements

The three statements that a record gives rise to, in a dialect: a filtered query, an insert or
upsert, and an update scoped by keys.
-/

namespace Rowset

/-- The filter that constrains a base query by a record. -/
def filterOf (base : String) (criteria : Record) (joiner : Joiner) : Filter :=
  (({ base } : Filter).joinedBy joiner).criteria criteria

/-- The draft of a record's insert. Without a key there is nothing to conflict on, and the insert
stays a plain one. -/
def insertDraftOf (table key : String) (record : Record) (upsert : Bool) : InsertDraft :=
  let plain := ({ table } : InsertDraft).record record
  if upsert && key != "" then plain.upsert key else plain

/-- The draft of a record's update. -/
def updateDraftOf (table : String) (keys : List String) (record : Record) : UpdateDraft :=
  (({ table } : UpdateDraft).keyedBy keys).record record

/-- A base query with a predicate for every column of the criteria that is not zero. -/
def filterStatement (dialect : Dialect) (base : String) (criteria : Record) (joiner : Joiner) :
    Statement :=
  (filterOf base criteria joiner).template.render dialect

/-- An insert of every insertable column, or an upsert of them on a key. -/
def insertStatement (dialect : Dialect) (table key : String) (record : Record) (upsert : Bool) :
    Except QueryError Statement :=
  (insertDraftOf table key record upsert).build.map fun i => i.template.render dialect

/-- An update of the stated columns, scoped by keys. -/
def updateStatement (dialect : Dialect) (table : String) (keys : List String) (record : Record) :
    Except QueryError Statement :=
  (updateDraftOf table keys record).build.map fun u => u.template.render dialect

end Rowset
