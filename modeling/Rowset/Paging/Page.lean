import Rowset.Json.Printer
import Rowset.Paging.Directive

/-!
# Pages

The answer to a page request: the rows, and the token to go on from them unless they are the last. A
paging session is a run of requests, each of which may take up the token of an earlier page.
-/

namespace Rowset

/-- The token beside the rows of a page. -/
structure Pagination where
  cursor : Option String := none
deriving DecidableEq, Repr

structure Page (α : Type) where
  rows : List α
  pagination : Pagination

/-- An absent token leaves no trace. -/
def Pagination.toJson (p : Pagination) : Json :=
  match p.cursor with
  | some token => .object [("cursor", .string token)]
  | none => .object []

namespace Page

variable {α : Type}

/-- Wraps the rows that came back for a directive. -/
def ofRows (rows : List α) (d : PageDirective) : Page α := ⟨rows, ⟨d.finish rows.length⟩⟩

def toJson (row : α → Json) (p : Page α) : Json :=
  .object [("data", .array (p.rows.map row)), ("pagination", p.pagination.toJson)]

end Page

/-! ## Serving rows from a numbered list -/

/-- A run of consecutive rows, by number. -/
structure RowRange where
  start : Nat
  count : Nat
deriving DecidableEq, Repr

/-- The rows that a directive cuts out of `total` rows numbered from zero. -/
def PageDirective.rowsOf (d : PageDirective) (total : Nat) : RowRange :=
  match d.offset with
  | none => ⟨0, 0⟩
  | some offset => ⟨offset.toNat, min (offset.toNat + d.limit.toNat) total - offset.toNat⟩

/-- The number of the first row, if there is one. -/
def RowRange.first? (r : RowRange) : Option Nat := if r.count = 0 then none else some r.start

/-! ## Sessions -/

/-- A request that may take its tokens from earlier steps of its session. -/
structure SessionStep where
  request : PageRequest
  /-- The step whose token replaces the one to go on after. -/
  afterStep : Option Nat := none
  beforeStep : Option Nat := none

/-- The token of an earlier step's directive. -/
def earlierToken (earlier : List PageDirective) (step : Nat) : Option String :=
  (earlier[step]?).bind PageDirective.cursor

/-- The request that a step amounts to. -/
def SessionStep.resolve (s : SessionStep) (earlier : List PageDirective) : PageRequest where
  first := s.request.first
  after := match s.afterStep with
    | some step => earlierToken earlier step
    | none => s.request.after
  before := match s.beforeStep with
    | some step => earlierToken earlier step
    | none => s.request.before

/-- The requests of a session, each with the directive that it gets. -/
def Paginator.session (p : Paginator) (steps : List SessionStep) :
    List (PageRequest × PageDirective) :=
  go [] steps
where
  go (earlier : List PageDirective) : List SessionStep → List (PageRequest × PageDirective)
    | [] => []
    | step :: steps =>
      let request := step.resolve earlier
      let directive := p.directive request
      (request, directive) :: go (earlier ++ [directive]) steps

end Rowset
