import Rowset.Json.Written
import Rowset.Text.Blank
import Rowset.Text.Numeral

/-!
# Page sizes

An endpoint has a page size to fall back on and a greatest one. Settings are consistent when both
are positive and the first is no greater than the second; adjusting brings any settings into that
shape and leaves consistent ones alone. A client asks for a size in words; whatever is not a
positive number is no request, and a size above the greatest one is cut down to it.
-/

namespace Rowset

open Rowset.Text

structure PageSettings where
  defaultLimit : UInt32 := 20
  maxLimit : UInt32 := 100
deriving DecidableEq, Repr

namespace PageSettings

/-- Settings with both sizes brought into range. -/
def adjusted (s : PageSettings) : PageSettings :=
  let maxLimit := max s.maxLimit 1
  ⟨min (max s.defaultLimit 1) maxLimit, maxLimit⟩

def IsConsistent (s : PageSettings) : Prop := 1 ≤ s.defaultLimit ∧ s.defaultLimit ≤ s.maxLimit

/-- The page size that a client asks for. -/
def requestedLimit? (s : PageSettings) (first : Option String) : Option UInt32 :=
  match first with
  | none => none
  | some text =>
    match Numeral.read (trimmed text.toList) with
    | .ok n => if 0 < n then some (UInt32.ofNat (min n.toNat s.maxLimit.toNat)) else none
    | .error .tooLarge => some s.maxLimit
    | .error _ => none

/-- The page size served: the one asked for, or the one to fall back on. -/
def limitFor (s : PageSettings) (first : Option String) : UInt32 :=
  (s.requestedLimit? first).getD s.defaultLimit

/-- A size that need not be given. -/
def readSize? (fallback : UInt32) : Option Json.Written → Option UInt32
  | none => some fallback
  | some written => (written.integer? 0 0xffffffff).map fun n => UInt32.ofNat n.toNat

/-- Reads settings from an object, or from a list of up to two sizes; what is missing takes its
default. -/
def parse? (text : String) : Option PageSettings := do
  let sizes (x y : Option Json.Written) : Option PageSettings := do
    return ⟨← readSize? 20 x, ← readSize? 100 y⟩
  match ← Json.Written.ofBytes? (Utf8.encode text.toList) with
  | .array [] => sizes none none
  | .array [x] => sizes (some x) none
  | .array [x, y] => sizes (some x) (some y)
  | .object members =>
    match ← Json.selectMembers? ["default_limit", "max_limit"] members with
    | [x, y] => sizes x y
    | _ => none
  | _ => none

end PageSettings

end Rowset
