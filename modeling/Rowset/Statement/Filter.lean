import Rowset.Column
import Rowset.Statement.Error
import Rowset.Statement.Template
import Rowset.Text.Blank

/-!
# Filters

A filter is a base query and the equality predicates to append to it. Criteria are a record, of
which every column that is not zero becomes a predicate; a zero column puts no constraint. Without
any predicate the base query stays exactly as it is.
-/

namespace Rowset

open Rowset.Text

/-- The keyword between predicates. -/
inductive Joiner where
  | and
  | or
deriving DecidableEq, Repr

namespace Joiner

def keyword : Joiner → String
  | .and => "and"
  | .or => "or"

/-- Reads a joiner in any mixture of cases, blank space around it; a blank text is the default. -/
def parse (text : String) : Except QueryError Joiner :=
  let word := String.ofList ((trimmed text.toList).map Char.toLower)
  if word = "" ∨ word = "and" then .ok .and
  else if word = "or" then .ok .or
  else .error (.invalidJoiner text)

@[simp] theorem parse_keyword (j : Joiner) : parse j.keyword = .ok j := by
  cases j <;> rfl

end Joiner

structure Filter where
  base : String
  joiner : Joiner := .and
  predicates : List Assignment := []

namespace Filter

/-- The columns of criteria that put a constraint. -/
def constraints (criteria : Record) : List Column := criteria.columns.filter fun c => !c.zero

/-- The fields of criteria that put none. -/
def skippedFields (criteria : Record) : List String :=
  (criteria.columns.filter fun c => c.zero).map Column.field

/-- A column's predicate is on its filter name and bound under its field's name. -/
def predicate (c : Column) : Assignment := .of c.filterName c.field c.value

/-- Appends the predicates of further criteria. -/
def criteria (f : Filter) (record : Record) : Filter :=
  { f with predicates := f.predicates ++ (constraints record).map predicate }

def joinedBy (f : Filter) (joiner : Joiner) : Filter := { f with joiner }

@[simp] theorem predicates_criteria (f : Filter) (record : Record) :
    (f.criteria record).predicates = f.predicates ++ (constraints record).map predicate := rfl

@[simp] theorem criteria_joinedBy (f : Filter) (record : Record) (joiner : Joiner) :
    (f.criteria record).joinedBy joiner = (f.joinedBy joiner).criteria record := rfl

def template (f : Filter) : Template :=
  if f.predicates.isEmpty then [.text f.base]
  else
    .text (trimEnd f.base) :: .text " where " ::
      Template.assignments " = " (" " ++ f.joiner.keyword ++ " ") f.predicates

@[simp] theorem params_template (f : Filter) :
    f.template.params = f.predicates.map Assignment.param := by
  unfold template
  split
  next h => simp [List.isEmpty_iff.1 h]
  · simp

end Filter

end Rowset
