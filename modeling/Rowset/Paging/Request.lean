import Rowset.Json.Written
import Rowset.Paging.Cursor

/-!
# Page requests

What a client sends to a list endpoint: the page size it asks for, and the tokens to go on after or
back before. A blank token counts as none, and the token to go on after comes first.
-/

namespace Rowset

open Rowset.Text

structure PageRequest where
  first : Option String := none
  after : Option String := none
  before : Option String := none
deriving DecidableEq, Repr

namespace PageRequest

/-- A request for the first page, of a given size. -/
def ofSize (first : UInt32) : PageRequest := { first := some (Decimal.natText first.toNat) }

def goingAfter (r : PageRequest) (token : String) : PageRequest := { r with after := some token }

def goingBefore (r : PageRequest) (token : String) : PageRequest := { r with before := some token }

/-- A token that is there and not blank. -/
def followable (token : Option String) : Option String := token.filter fun t => !isBlankText t

/-- The token to follow, and which way. -/
def cursor? (r : PageRequest) : Option (Direction × String) :=
  match followable r.after with
  | some token => some (.after, token)
  | none => (followable r.before).map fun token => (.before, token)

def hasBothCursors (r : PageRequest) : Bool :=
  (followable r.after).isSome && (followable r.before).isSome

/-- Reads a request from an object, in which any member may be missing or `null`, or from a list of
exactly three entries. -/
def parse? (text : String) : Option PageRequest := do
  let read (member : Option Json.Written) : Option (Option String) :=
    match member with
    | none => some none
    | some written => written.optionalText?
  let request (x y z : Option Json.Written) : Option PageRequest := do
    return ⟨← read x, ← read y, ← read z⟩
  match ← Json.Written.ofBytes? (Utf8.encode text.toList) with
  | .array [x, y, z] => request (some x) (some y) (some z)
  | .object members =>
    match ← Json.selectMembers? ["first", "after", "before"] members with
    | [x, y, z] => request x y z
    | _ => none
  | _ => none

end PageRequest

end Rowset
