import Rowset.Paging.Directive

/-!
# Events

What the library reports while it works. An event holds the facts; its level, its words and its
named fields are views of it.
-/

namespace Rowset

open Rowset.Text

inductive Level where
  | trace
  | debug
  | warn
deriving DecidableEq, Repr

def Level.name : Level → String
  | .trace => "TRACE"
  | .debug => "DEBUG"
  | .warn => "WARN"

inductive Event where
  /-- Criteria put no constraint on a field. -/
  | skippedField (field : String)
  /-- An update does not state a column. -/
  | leftOutColumn (column : String)
  | renderedStatement (dialect : Dialect) (binds : List Bind)
  | generatedFilter (sql : String)
  | generatedInsert (table sql : String)
  | generatedUpdate (table sql : String)
  /-- An upsert was asked for without a key to conflict on. -/
  | upsertWithoutKey (table : String)
  | adjustedSettings (given : PageSettings)
  /-- A page request holds two tokens. -/
  | bothCursors
  | resolvedPage (resolution : Resolution)
  | executing (sql : String)
  | querying (sql : String)

namespace Event

def level : Event → Level
  | .skippedField _ | .leftOutColumn _ | .renderedStatement _ _ => .trace
  | .upsertWithoutKey _ | .adjustedSettings _ | .resolvedPage (.malformed _ _) => .warn
  | .generatedFilter _ | .generatedInsert _ _ | .generatedUpdate _ _ | .bothCursors
  | .resolvedPage _ | .executing _ | .querying _ => .debug

def message : Event → String
  | .skippedField _ => "Skipping zero-valued filter field"
  | .leftOutColumn _ => "Leaving zero-valued column out of SET"
  | .renderedStatement _ _ => "Rendered statement"
  | .generatedFilter _ => "Generated filter"
  | .generatedInsert _ _ => "Generated insert"
  | .generatedUpdate _ _ => "Generated update"
  | .upsertWithoutKey _ =>
    "Upsert requested without a conflict column; generating a plain insert"
  | .adjustedSettings given =>
    "Adjusted page settings to default=" ++ Decimal.natText given.adjusted.defaultLimit.toNat
      ++ ", max=" ++ Decimal.natText given.adjusted.maxLimit.toNat
  | .bothCursors => "Both after and before given; following after"
  | .resolvedPage (.fresh _) => "Fresh page request"
  | .resolvedPage (.followed _ _) => "Following cursor"
  | .resolvedPage (.noPage _ _ _) => "No page in this direction"
  | .resolvedPage (.beforeFirst _ _) => "Cursor points before the first row"
  | .resolvedPage (.malformed _ _) => "Ignoring malformed cursor"
  | .executing _ => "Executing"
  | .querying _ => "Querying"

/-- The facts of an event, by name. -/
def fields : Event → List (String × String)
  | .skippedField field => [("field", field)]
  | .leftOutColumn column => [("column", column)]
  | .renderedStatement dialect binds =>
    [("dialect", dialect.name), ("binds", String.intercalate ", " (binds.map Bind.display))]
  | .generatedFilter sql => [("sql", sql)]
  | .generatedInsert table sql | .generatedUpdate table sql => [("table", table), ("sql", sql)]
  | .upsertWithoutKey table => [("table", table)]
  | .adjustedSettings given =>
    [("default_limit", Decimal.natText given.defaultLimit.toNat),
      ("max_limit", Decimal.natText given.maxLimit.toNat)]
  | .bothCursors => []
  | .resolvedPage (.fresh limit) => [("limit", Decimal.natText limit.toNat)]
  | .resolvedPage (.followed direction next) => place direction next.offset next.limit
  | .resolvedPage (.noPage direction offset limit) => place direction offset limit
  | .resolvedPage (.beforeFirst offset _) => [("offset", Decimal.intText offset)]
  | .resolvedPage (.malformed error _) => [("error", error.message)]
  | .executing sql | .querying sql => [("sql", sql)]
where
  place (direction : Direction) (offset : UInt64) (limit : UInt32) : List (String × String) :=
    [("direction", direction.name), ("offset", Decimal.natText offset.toNat),
      ("limit", Decimal.natText limit.toNat)]

end Event

end Rowset
