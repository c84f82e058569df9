/-!
# Why no statement is generated
-/

namespace Rowset

inductive QueryError where
  /-- No column is left to set: all were zero and none of them forced or a key. -/
  | nothingToUpdate (table : String)
  /-- The record has no insertable column. -/
  | nothingToInsert (table : String)
  /-- A key was asked for that the record does not map. -/
  | unknownKeyColumn (table column : String)
  /-- A text that names no joiner. -/
  | invalidJoiner (text : String)
deriving DecidableEq, Repr

def QueryError.message : QueryError → String
  | .nothingToUpdate table =>
    "Nothing to update in `" ++ table ++ "`: no column survived the zero-value filter"
  | .nothingToInsert table =>
    "Nothing to insert into `" ++ table ++ "`: record has no insertable columns"
  | .unknownKeyColumn table column =>
    "Key column `" ++ column ++ "` is not mapped by the record for `" ++ table ++ "`"
  | .invalidJoiner text => "Invalid filter joiner `" ++ text ++ "`, expected AND or OR"

end Rowset
