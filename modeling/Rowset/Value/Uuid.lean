import Rowset.Text.Hex

/-!
# Universally unique identifiers

Sixteen bytes, written as lower-case hexadecimal digits in five groups joined by hyphens. Reading
takes either case, the bare digits, and the grouped form on its own, in braces or behind its
namespace.
-/

namespace Rowset

open Rowset.Text

structure Uuid where
  bytes : List UInt8
  length_bytes : bytes.length = 16
deriving DecidableEq

namespace Uuid

def of? (bytes : List UInt8) : Option Uuid :=
  if h : bytes.length = 16 then some ⟨bytes, h⟩ else none

/-- Groups of eight, four, four, four and twelve digits. -/
def print (u : Uuid) : List Char :=
  Hex.ofBytes (u.bytes.take 4) ++ '-' :: Hex.ofBytes ((u.bytes.drop 4).take 2)
    ++ '-' :: Hex.ofBytes ((u.bytes.drop 6).take 2)
    ++ '-' :: Hex.ofBytes ((u.bytes.drop 8).take 2) ++ '-' :: Hex.ofBytes (u.bytes.drop 10)

/-- Reads the form in five groups. -/
def parseGrouped? (cs : List Char) : Option Uuid :=
  match cs.drop 8, cs.drop 13, cs.drop 18, cs.drop 23 with
  | '-' :: _, '-' :: _, '-' :: _, '-' :: rest => do
    let digits := cs.take 8 ++ (cs.drop 9).take 4 ++ (cs.drop 14).take 4 ++ (cs.drop 19).take 4
      ++ rest
    of? (← Hex.toBytes? digits)
  | _, _, _, _ => none

/-- The namespace of the identifiers, as it may stand before one in any mixture of cases. -/
def namespaceMark : List Char := "urn:uuid:".toList

/-- Reads an identifier; the form is told by the length. -/
def parse? (cs : List Char) : Option Uuid :=
  if cs.length = 32 then (Hex.toBytes? cs).bind of?
  else if cs.length = 36 then parseGrouped? cs
  else if cs.length = 38 ∧ cs.head? = some '\x7b' ∧ cs.getLast? = some '\x7d' then
    parseGrouped? ((cs.drop 1).take 36)
  else if cs.length = 45 ∧ (cs.take 9).map Char.toLower = namespaceMark then parseGrouped? (cs.drop 9)
  else none

end Uuid

end Rowset
