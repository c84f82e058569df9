import Rowset.Json.Basic
import Rowset.Number.Layout
import Rowset.Text.Hex

/-!
# Printing JSON

Values are printed without any space. Only what has to be escaped in a string is escaped. A floating
point number shows the fewest digits that identify it and always looks like one: a whole number
keeps a `.0`, and only very small or large ones show an exponent.
-/

namespace Rowset.Json

open Rowset.Text

/-- Floating-point numbers: digits around a point for magnitudes from `0.00001` to below `10 ^ 16`,
ties to the even digit, nothing for numbers that JSON does not have. -/
def numberStyle : FloatStyle where
  tie := .toEven
  positional e := decide (-5 ≤ e ∧ e ≤ 15)
  pointZero := true
  nan := "null"
  infinity := "null"

def Number.print : Number → List Char
  | .integer n _ => Decimal.ofInt n
  | .float x _ => numberStyle.print x

/-- A character inside a string literal. -/
def escape (c : Char) : List Char :=
  if c = '"' then ['\\', '"']
  else if c = '\\' then ['\\', '\\']
  else if c = '\x08' then ['\\', 'b']
  else if c = '\t' then ['\\', 't']
  else if c = '\n' then ['\\', 'n']
  else if c = '\x0c' then ['\\', 'f']
  else if c = '\r' then ['\\', 'r']
  else if c.toNat < 32 then
    ['\\', 'u', '0', '0', Hex.digit (c.toNat / 16), Hex.digit (c.toNat % 16)]
  else [c]

/-- A text as a string literal. -/
def quote (s : String) : List Char := '"' :: s.toList.flatMap escape ++ ['"']

mutual

/-- Prints a value. -/
def print : Json → List Char
  | .null => ['n', 'u', 'l', 'l']
  | .bool true => ['t', 'r', 'u', 'e']
  | .bool false => ['f', 'a', 'l', 's', 'e']
  | .number n => n.print
  | .string s => quote s
  | .array [] => ['[', ']']
  | .array (x :: xs) => '[' :: x.print ++ printItems xs
  | .object [] => ['\x7b', '\x7d']
  | .object ((k, x) :: ms) => '\x7b' :: quote k ++ ':' :: x.print ++ printMembers ms

/-- The items after the first, and the closing bracket. -/
def printItems : List Json → List Char
  | [] => [']']
  | x :: xs => ',' :: x.print ++ printItems xs

/-- The members after the first, and the closing brace. -/
def printMembers : List (String × Json) → List Char
  | [] => ['\x7d']
  | (k, x) :: ms => ',' :: quote k ++ ':' :: x.print ++ printMembers ms

end

/-- The text of a value. -/
def text (j : Json) : String := String.ofList j.print

/-- The text of a document. -/
def Document.text (d : Document) : String := d.value.text

end Rowset.Json
