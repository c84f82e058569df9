import Rowset.Log.Logged
import Rowset.Paging.Page
import Rowset.Store.Change
import Rowset.Store.Records

/-!
# Working with the store

Statements are run on a store one after another; a failed one leaves the store as it was. On top of
that stand two stores to begin with, one with three rewards and one with a numbered list of
categories, and paging through the latter.
-/

namespace Rowset

open Rowset.Text Logged

namespace Store

/-- Runs a change; gives the outcome and the store that is there afterwards. -/
def run (s : Store) (statement : Statement) : Logged (Except StoreError Nat × Store) := do
  report [.executing statement.sql]
  match s.execute statement with
  | .ok (s', count) => return (.ok count, s')
  | .error e => return (.error e, s)

/-- Runs a query. -/
def ask (s : Store) (statement : Statement) : Logged (Except StoreError (List String)) := do
  report [.querying statement.sql]
  return s.queryIds statement

/-- Inserts a record. -/
def insertRecord (table : String) (record : Record) (s : Store) : Logged Store := do
  match ← logInsert .named table "id" record false with
  | .ok statement => return (← s.run statement).2
  | .error _ => return s

/-- Inserts records one after another. -/
def insertRecords (table : String) (records : List Record) (s : Store) : Logged Store :=
  match records with
  | [] => return s
  | record :: records => do insertRecords table records (← insertRecord table record s)

/-- A store with three rewards of one broadcaster. -/
def withRewards : Logged Store :=
  insertRecords "rewards"
    ([Reward.new "r1" 100 true, Reward.new "r2" 0 false, Reward.new "r3" 100 false].map
      Reward.record)
    empty

/-- The category of a number, its id at least three digits long. -/
def numberedCategory (n : Nat) : Category :=
  .new (String.ofList (Decimal.padded 3 n)) ("Game " ++ Decimal.natText n)

/-- A store with so many categories. -/
def withCategories (count : Nat) : Logged Store :=
  insertRecords "categories" ((List.range count).map fun n => (numberedCategory n).record) empty

/-- The name of the category with an id. -/
def categoryName? (s : Store) (id : String) : Option String :=
  match (s.rows "categories").find? fun row => TableDef.cell row 0 == .text id with
  | some row =>
    match TableDef.cell row 1 with
    | .text name => some name
    | _ => none
  | none => none

/-- The rows of a table by ascending key. -/
def rowsByKey (s : Store) (d : TableDef) : List Row :=
  (s.rows d.name).mergeSort fun r t => (d.keyOf r).le (d.keyOf t)

/-! ## Paging through categories -/

/-- The page sizes of the list of categories. -/
def categoryPaginator : Paginator := .ofSettings { defaultLimit := 20, maxLimit := 100 }

/-- The query for all categories in order. -/
def categoryQuery : Statement := { sql := "select id from categories order by id" }

/-- Serves a page of categories. Without a page nothing is asked of the store. -/
def fetchCategories (s : Store) (request : PageRequest) :
    Logged (Page String × PageDirective) := do
  let directive ← categoryPaginator.logDirective request
  if directive.isSuppressed then return (.ofRows [] directive, directive)
  else
    match ← s.ask (categoryQuery.paginate directive) with
    | .ok ids => return (.ofRows ids directive, directive)
    | .error _ => return (.ofRows [] directive, directive)

/-- Serves the pages of a session. -/
def pageThroughCategories (s : Store) (steps : List SessionStep) :
    Logged (List (Page String × PageDirective)) :=
  (categoryPaginator.session steps).mapM fun (request, _) => s.fetchCategories request

end Store

end Rowset
