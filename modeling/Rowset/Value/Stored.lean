import Rowset.Value.Basic

/-!
# Values as the store keeps them

The store knows five kinds of value. Every bindable value has one stored form: booleans become the
integers zero and one, unsigned integers keep their bits, and what has no kind of its own is kept as
text.
-/

namespace Rowset

/-- A value of the store. -/
inductive SqlValue where
  | null
  | integer (n : Int64)
  | real (x : Binary64)
  | text (s : String)
  | blob (bs : List UInt8)
deriving DecidableEq

namespace SqlValue

def isNull : SqlValue → Bool
  | .null => true
  | _ => false

/-- The name of a value's kind. -/
def kindName : SqlValue → String
  | .null => "Null"
  | .integer _ => "Integer"
  | .real _ => "Real"
  | .text _ => "Text"
  | .blob _ => "Blob"

end SqlValue

/-- The stored form of a value. -/
def Value.stored : Value → SqlValue
  | .int n => .integer n
  | .uint n => .integer n.toInt64
  | .float x => .real x
  | .string s => .text s
  | .boolean b => .integer (if b then 1 else 0)
  | .json d => .text d.text
  | .uuid u => .text (String.ofList u.print)
  | .bytes bs => .blob bs
  | .date d => .text (String.ofList d.print)
  | .timestamp t => .text (String.ofList t.print)
  | .null => .null

end Rowset
