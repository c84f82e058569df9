import Rowset.Json.Printer
import Rowset.Json.Written
import Rowset.Text.Base64Url
import Rowset.Text.Blank

/-!
# Cursors

A cursor is a place in a list: the offset of a page and the page's size. Clients carry it as an
opaque token, the base64 form of a small JSON object. Nothing else is kept, so a token is all that
it takes to go on from a page.

Reading a token is strict about what it says and lenient about how it says it: offset and size may
come in either order, with other members beside them, or as a pair.
-/

namespace Rowset

open Rowset.Text

/-- Which way a cursor is followed. -/
inductive Direction where
  | after
  | before
deriving DecidableEq, Repr

def Direction.name : Direction → String
  | .after => "After"
  | .before => "Before"

structure Cursor where
  offset : UInt64
  limit : UInt32
deriving DecidableEq, Repr

/-- Why a token gives no cursor. -/
inductive CursorError where
  /-- The token is not base64. -/
  | encoding (failure : Base64Url.Failure)
  /-- The payload is not a pair of offset and size. -/
  | format
  /-- The payload points before the first row. -/
  | negative (offset : Int)
  /-- The page size is not a positive number of 32 bits. -/
  | badLimit (limit : Int)
deriving DecidableEq, Repr

def CursorError.message : CursorError → String
  | .encoding failure => "cursor is not valid base64: " ++ failure.message
  | .format => "cursor payload is malformed"
  | .negative offset => "cursor offset " ++ Decimal.intText offset ++ " is negative"
  | .badLimit limit => "cursor limit must be positive, got " ++ Decimal.intText limit

/-- Reads two members, or a pair, by their readers. -/
def readPair? {α β : Type} (first second : String) (readFirst : Json.Written → Option α)
    (readSecond : Json.Written → Option β) : Json.Written → Option (α × β)
  | .array [x, y] => do return (← readFirst x, ← readSecond y)
  | .object members => do
    match ← Json.selectMembers? [first, second] members with
    | [some x, some y] => return (← readFirst x, ← readSecond y)
    | _ => none
  | _ => none

namespace Cursor

def toJson (c : Cursor) : Json :=
  .object [("offset", .ofUInt64 c.offset), ("limit", .ofUInt32 c.limit)]

/-- The token of a cursor. -/
def encode (c : Cursor) : String :=
  String.ofList ((Base64Url.encode (Utf8.encode c.toJson.print)).map Json.asciiChar)

/-- Reads a cursor as it is, whatever the page size. -/
def parse? (text : String) : Option Cursor := do
  let written ← Json.Written.ofBytes? (Utf8.encode text.toList)
  let (offset, limit) ← readPair? "offset" "limit" (Json.Written.integer? 0 0xffffffffffffffff)
    (Json.Written.integer? 0 0xffffffff) written
  return ⟨UInt64.ofNat offset.toNat, UInt32.ofNat limit.toNat⟩

/-- Checks a pair of signed numbers; a negative offset is reported before a bad page size. -/
def ofSigned (offset limit : Int) : Except CursorError Cursor :=
  if offset < 0 then .error (.negative offset)
  else if 1 ≤ limit ∧ limit ≤ 0xffffffff then
    .ok ⟨UInt64.ofNat offset.toNat, UInt32.ofNat limit.toNat⟩
  else .error (.badLimit limit)

/-- Reads the payload of a token. -/
def ofPayload (payload : List UInt8) : Except CursorError Cursor :=
  let signed := Json.Written.integer? (-0x8000000000000000) 0x7fffffffffffffff
  match (Json.Written.ofBytes? payload).bind (readPair? "offset" "limit" signed signed) with
  | some (offset, limit) => ofSigned offset limit
  | none => .error .format

/-- Reads a token, blank space around it. -/
def decode (token : String) : Except CursorError Cursor :=
  match Base64Url.decode (Utf8.encode (trimmed token.toList)) with
  | .ok payload => ofPayload payload
  | .error failure => .error (.encoding failure)

/-- The cursor one page of `limit` rows further on or back, unless the offset leaves its range;
going back beyond the first row does. -/
def step? (c : Cursor) (direction : Direction) (limit : UInt32) : Option Cursor :=
  match direction with
  | .after =>
    if c.offset.toNat + limit.toNat ≤ 0xffffffffffffffff then
      some ⟨c.offset + limit.toUInt64, limit⟩
    else none
  | .before =>
    if limit.toNat ≤ c.offset.toNat then some ⟨c.offset - limit.toUInt64, limit⟩ else none

end Cursor

end Rowset
