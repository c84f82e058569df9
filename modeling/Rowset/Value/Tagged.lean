import Rowset.Json.Written
import Rowset.Value.Basic

/-!
# Values as JSON

A value travels as an object with one member, whose name is the value's kind and whose value is its
content; the absent value is the bare name of its kind. The kind is part of the form, so values of
different kinds stay apart.
-/

namespace Rowset

open Rowset.Text

namespace Value

/-- An object with a single member. -/
def tagged (kind : String) (content : Json) : Json := .object [(kind, content)]

/-- The JSON form of a value. A floating-point number that is not finite loses its content. -/
def toJson : Value → Json
  | .int n => tagged "Int" (.ofInt64 n)
  | .uint n => tagged "Uint" (.ofUInt64 n)
  | .float x => tagged "Float" (.ofBinary64 x)
  | .string s => tagged "String" (.string s)
  | .boolean b => tagged "Boolean" (.bool b)
  | .json d => tagged "Json" d.value
  | .uuid u => tagged "Uuid" (.string (String.ofList u.print))
  | .bytes bs => tagged "Bytes" (.array (bs.map .ofUInt8))
  | .date d => tagged "Date" (.string (String.ofList d.print))
  | .timestamp t => tagged "Timestamp" (.string (String.ofList t.printShort))
  | .null => .string "Null"

/-- The JSON text of a value. -/
def jsonText (v : Value) : String := v.toJson.text

/-! ## Reading -/

/-- Reads the content of a value of a given kind. -/
def ofContent? (kind : String) (content : Json.Written) : Option Value :=
  match kind, content with
  | "Int", content =>
    (content.integer? (-0x8000000000000000) 0x7fffffffffffffff).map fun n => .int (Int64.ofInt n)
  | "Uint", content =>
    (content.integer? 0 0xffffffffffffffff).map fun n => .uint (UInt64.ofNat n.toNat)
  | "Float", .number n => n.number?.map fun n => .float n.toBinary64
  | "String", content => content.text?.map .string
  | "Boolean", .bool b => some (.boolean b)
  | "Json", content =>
    (content.json? (Json.depthLimit - 1)).map fun j => .json (Json.Document.ofJson j)
  | "Uuid", content => (content.text?.bind fun s => Uuid.parse? s.toList).map .uuid
  | "Bytes", .array items =>
    (items.mapM fun (item : Json.Written) =>
      (item.integer? 0 255).map fun n => UInt8.ofNat n.toNat).map .bytes
  | "Date", content => (content.text?.bind fun s => Date.parse? s.toList).map .date
  | "Timestamp", content =>
    (content.text?.bind fun s => Timestamp.parse? s.toList).map .timestamp
  | "Null", .null => some .null
  | _, _ => none

/-- Reads a value from its written form. -/
def ofWritten? : Json.Written → Option Value
  | .string units => do
    if (← Json.unitText? units) = "Null" then return .null else none
  | .object [(kind, content)] => do ofContent? (← Json.unitText? kind) content
  | _ => none

/-- Reads a value from JSON text. -/
def parse? (text : String) : Option Value :=
  (Json.Written.ofBytes? (Utf8.encode text.toList)).bind ofWritten?

end Value

end Rowset
