import Rowset.Log.Event
import Rowset.Statement.Generate

/-!
# Work with a log

A logged result is a result together with the events that were reported on the way to it. The work
itself is done by functions that know nothing of a log; the logged forms add the events and leave
the results as they are.
-/

namespace Rowset

/-- A result and the events reported on the way, in order. -/
structure Logged (α : Type) where
  value : α
  events : List Event

namespace Logged

variable {α β : Type}

instance : Monad Logged where
  pure a := ⟨a, []⟩
  bind x f := ⟨(f x.value).value, x.events ++ (f x.value).events⟩

@[simp] theorem value_pure (a : α) : (pure a : Logged α).value = a := rfl

@[simp] theorem events_pure (a : α) : (pure a : Logged α).events = [] := rfl

@[simp] theorem value_bind (x : Logged α) (f : α → Logged β) :
    (x >>= f).value = (f x.value).value := rfl

@[simp] theorem events_bind (x : Logged α) (f : α → Logged β) :
    (x >>= f).events = x.events ++ (f x.value).events := rfl

/-- Reports events. -/
def report (events : List Event) : Logged Unit := ⟨(), events⟩

end Logged

open Logged

/-! ## Statements -/

/-- Appends the predicates of further criteria. -/
def Filter.logCriteria (f : Filter) (record : Record) : Logged Filter := do
  report ((Filter.skippedFields record).map .skippedField)
  return f.criteria record

/-- Generates a filter. -/
def logFilter (dialect : Dialect) (base : String) (criteria : Record) (joiner : Joiner) :
    Logged Statement := do
  let filter ← (({ base } : Filter).joinedBy joiner).logCriteria criteria
  let statement := filter.template.render dialect
  report [.renderedStatement dialect statement.binds, .generatedFilter statement.sql]
  return statement

/-- Generates an insert or an upsert. -/
def logInsert (dialect : Dialect) (table key : String) (record : Record) (upsert : Bool) :
    Logged (Except QueryError Statement) := do
  if upsert && key == "" then report [.upsertWithoutKey table]
  let result := insertStatement dialect table key record upsert
  if let .ok statement := result then
    report [.renderedStatement dialect statement.binds, .generatedInsert table statement.sql]
  return result

/-- Finishes an update. What is left out is reported even if nothing comes of the update. -/
def UpdateDraft.logBuild (d : UpdateDraft) : Logged (Except QueryError Update) := do
  report (d.leftOut.map .leftOutColumn)
  return d.build

/-- Generates an update. -/
def logUpdate (dialect : Dialect) (table : String) (keys : List String) (record : Record) :
    Logged (Except QueryError Statement) := do
  let update ← (updateDraftOf table keys record).logBuild
  let result := update.map fun u => u.template.render dialect
  if let .ok statement := result then
    report [.renderedStatement dialect statement.binds, .generatedUpdate table statement.sql]
  return result

@[simp] theorem value_logFilter (dialect : Dialect) (base : String) (criteria : Record)
    (joiner : Joiner) : (logFilter dialect base criteria joiner).value =
      filterStatement dialect base criteria joiner := rfl

@[simp] theorem value_logInsert (dialect : Dialect) (table key : String) (record : Record)
    (upsert : Bool) : (logInsert dialect table key record upsert).value =
      insertStatement dialect table key record upsert := by
  unfold logInsert
  cases insertStatement dialect table key record upsert <;> split <;> rfl

@[simp] theorem value_logUpdate (dialect : Dialect) (table : String) (keys : List String)
    (record : Record) : (logUpdate dialect table keys record).value =
      updateStatement dialect table keys record := by
  unfold logUpdate updateStatement UpdateDraft.logBuild
  cases (updateDraftOf table keys record).build <;> rfl

/-! ## Pages -/

/-- Brings settings into range. -/
def PageSettings.logAdjusted (s : PageSettings) : Logged PageSettings := do
  if s.adjusted ≠ s then report [.adjustedSettings s]
  return s.adjusted

namespace Paginator

def logOfSettings (s : PageSettings) : Logged Paginator := do
  let adjusted ← s.logAdjusted
  return ⟨adjusted⟩

/-- Resolves a page request. -/
def logDirective (p : Paginator) (request : PageRequest) : Logged PageDirective := do
  if request.hasBothCursors then report [.bothCursors]
  report [.resolvedPage (p.resolve request)]
  return p.directive request

@[simp] theorem value_logDirective (p : Paginator) (request : PageRequest) :
    (p.logDirective request).value = p.directive request := by
  unfold logDirective
  split <;> rfl

end Paginator

end Rowset
