import Rowset.Paging.Request
import Rowset.Paging.Settings
import Rowset.Statement.Rendering
import Rowset.Text.Blank

/-!
# Page directives

A directive says what a list query fetches and which token goes back with the rows: a page size with
an offset, or no page at all when the request led before the first row. A page is written into a
query as a clause at its end.

A request is resolved in one step, and the resolution says why the page is the one it is. A token
that cannot be read sends the client back to the first page; one that points before the first row
does not.
-/

namespace Rowset

open Rowset.Text

structure PageDirective where
  limit : UInt32
  /-- Absent when there is no page to serve. -/
  offset : Option UInt64 := none
  /-- The token of this page. -/
  cursor : Option String := none
  /-- The clause that cuts the page out of a query's rows. -/
  sql : Option String := none
deriving DecidableEq, Repr

namespace PageDirective

/-- The clause for a page. -/
def clause (c : Cursor) : String :=
  "LIMIT " ++ Decimal.natText c.limit.toNat ++ " OFFSET " ++ Decimal.natText c.offset.toNat

/-- The page at a cursor. -/
def atCursor (c : Cursor) : PageDirective :=
  ⟨c.limit, some c.offset, some c.encode, some (clause c)⟩

/-- No page. -/
def suppressed (limit : UInt32) : PageDirective := { limit }

def isSuppressed (d : PageDirective) : Bool := d.offset.isNone

/-- A query with the page's clause at its end. -/
def apply (d : PageDirective) (query : String) : String :=
  match d.sql with
  | some clause => trimEnd query ++ " " ++ clause
  | none => query

/-- The token to offer once so many rows came back. A page that is not full is the last. -/
def finish (d : PageDirective) (returned : Nat) : Option String :=
  if returned < d.limit.toNat then none else d.cursor

@[simp] theorem isSuppressed_atCursor (c : Cursor) : (atCursor c).isSuppressed = false := rfl

@[simp] theorem isSuppressed_suppressed (limit : UInt32) :
    (suppressed limit).isSuppressed = true := rfl

end PageDirective

/-- A statement with a page's clause at its end. -/
def Statement.paginate (s : Statement) (d : PageDirective) : Statement :=
  { s with sql := d.apply s.sql }

/-- How a request came to its page. -/
inductive Resolution where
  /-- No token to follow: the first page. -/
  | fresh (limit : UInt32)
  /-- A token was followed to the page at `next`. -/
  | followed (direction : Direction) (next : Cursor)
  /-- The step from `offset` leads out of the list. -/
  | noPage (direction : Direction) (offset : UInt64) (limit : UInt32)
  /-- The token points before the first row. -/
  | beforeFirst (offset : Int) (limit : UInt32)
  /-- The token cannot be read: the first page. -/
  | malformed (error : CursorError) (limit : UInt32)
deriving DecidableEq, Repr

def Resolution.directive : Resolution → PageDirective
  | .fresh limit | .malformed _ limit => .atCursor ⟨0, limit⟩
  | .followed _ next => .atCursor next
  | .noPage _ _ limit | .beforeFirst _ limit => .suppressed limit

/-- Resolves page requests of one endpoint; its settings are consistent. -/
structure Paginator where
  settings : PageSettings := {}

namespace Paginator

def ofSettings (settings : PageSettings) : Paginator := ⟨settings.adjusted⟩

/-- Follows a token. -/
def follow (direction : Direction) (token : String) (limit : UInt32) : Resolution :=
  match Cursor.decode token with
  | .ok cursor =>
    match cursor.step? direction limit with
    | some next => .followed direction next
    | none => .noPage direction cursor.offset limit
  | .error (.negative offset) => .beforeFirst offset limit
  | .error error => .malformed error limit

def resolve (p : Paginator) (request : PageRequest) : Resolution :=
  let limit := p.settings.limitFor request.first
  match request.cursor? with
  | none => .fresh limit
  | some (direction, token) => follow direction token limit

/-- The page to serve. -/
def directive (p : Paginator) (request : PageRequest) : PageDirective :=
  (p.resolve request).directive

end Paginator

end Rowset
