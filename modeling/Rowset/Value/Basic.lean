import Rowset.Json.Printer
import Rowset.Text.Quoted
import Rowset.Time.Timestamp
import Rowset.Value.Uuid

/-!
# Bindable values

A value is what a statement binds to a placeholder. Values of different kinds are never equal, also
where their texts agree; within a kind they are equal as what they stand for, so an undefined
floating-point result does not even equal itself.

For display a value is written as a literal: texts, documents, identifiers and times in quotes,
bytes as a quoted row of hexadecimal digits behind an `x`.
-/

namespace Rowset

open Rowset.Text

inductive Value where
  | int (n : Int64)
  | uint (n : UInt64)
  | float (x : Binary64)
  | string (s : String)
  | boolean (b : Bool)
  | json (document : Json.Document)
  | uuid (u : Uuid)
  | bytes (bs : List UInt8)
  | date (d : Date)
  | timestamp (t : Timestamp)
  | null

namespace Value

/-- Equality of values. -/
def eqv : Value → Value → Bool
  | .int m, .int n => m == n
  | .uint m, .uint n => m == n
  | .float x, .float y => x.numEq y
  | .string s, .string t => s == t
  | .boolean a, .boolean b => a == b
  | .json d, .json e => d.eqv e
  | .uuid u, .uuid v => u == v
  | .bytes bs, .bytes cs => bs == cs
  | .date d, .date e => d == e
  | .timestamp t, .timestamp u => t == u
  | .null, .null => true
  | _, _ => false

/-- Floating-point numbers on display: never with an exponent, whole numbers without a point, ties
away from zero. -/
def floatStyle : FloatStyle where
  tie := .awayFromZero
  positional _ := true
  pointZero := false
  nan := "NaN"
  infinity := "inf"

/-- A value as a literal. -/
def print : Value → List Char
  | .int n => Decimal.ofInt n.toInt
  | .uint n => Decimal.ofNat n.toNat
  | .float x => floatStyle.print x
  | .string s => Quoted.literal s.toList
  | .boolean true => ['t', 'r', 'u', 'e']
  | .boolean false => ['f', 'a', 'l', 's', 'e']
  | .json d => Quoted.literal d.value.print
  | .uuid u => Quoted.enclose u.print
  | .bytes bs => 'x' :: '\'' :: Hex.ofBytes bs ++ ['\'']
  | .date d => Quoted.enclose d.print
  | .timestamp t => Quoted.enclose t.print
  | .null => ['N', 'U', 'L', 'L']

/-- The text of the literal. -/
def display (v : Value) : String := String.ofList v.print

@[simp] theorem toList_display (v : Value) : v.display.toList = v.print := by simp [display]

end Value

end Rowset
