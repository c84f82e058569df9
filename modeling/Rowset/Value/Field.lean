import Rowset.Value.Basic

/-!
# Typed field values

A record field holds a value of a fixed type, which decides when the field counts as zero, that is,
as not set. Most types have a default, and the default is their zero. Documents, identifiers and
bytes have none and always count. An optional field is zero when it is absent; a present value is
deliberate, whatever it is.
-/

namespace Rowset

/-- How a type decides whether a field is zero. -/
inductive ZeroRule where
  /-- The type's default is zero. -/
  | default
  /-- Absence is zero, and nothing else. -/
  | absent
  /-- Nothing is zero. -/
  | never
deriving DecidableEq, Repr

/-- The content of a field that is not optional. -/
inductive Scalar where
  | text (s : String)
  | flag (b : Bool)
  | signed (n : Int64)
  | unsigned (n : UInt64)
  | real (x : Binary64)
  | timestamp (t : Timestamp)
  | date (d : Date)
  | document (d : Json.Document)
  | bytes (bs : List UInt8)
  | uuid (u : Uuid)

namespace Scalar

def zeroRule : Scalar → ZeroRule
  | .document _ | .bytes _ | .uuid _ => .never
  | _ => .default

def isZero : Scalar → Bool
  | .text s => s == ""
  | .flag b => !b
  | .signed n => n == 0
  | .unsigned n => n == 0
  | .real x => x.isZero
  | .timestamp t => t == .epoch
  | .date d => d == .epoch
  | .document _ | .bytes _ | .uuid _ => false

def toValue : Scalar → Value
  | .text s => .string s
  | .flag b => .boolean b
  | .signed n => .int n
  | .unsigned n => .uint n
  | .real x => .float x
  | .timestamp t => .timestamp t
  | .date d => .date d
  | .document d => .json d
  | .bytes bs => .bytes bs
  | .uuid u => .uuid u

end Scalar

/-- The content of a field: of a plain type, or of an optional one, where the type inside may be
optional again. -/
inductive FieldValue where
  | plain (content : Scalar)
  | present (content : FieldValue)
  | absent

namespace FieldValue

def zeroRule : FieldValue → ZeroRule
  | .plain content => content.zeroRule
  | .present _ | .absent => .absent

def isZero : FieldValue → Bool
  | .plain content => content.isZero
  | .present _ => false
  | .absent => true

/-- The value that is bound for a field; an absent one is null. -/
def toValue : FieldValue → Value
  | .plain content => content.toValue
  | .present content => content.toValue
  | .absent => .null

def ofOption {α : Type} (scalar : α → Scalar) : Option α → FieldValue
  | some a => .present (.plain (scalar a))
  | none => .absent

/-- No field of a type without a zero is ever zero. -/
theorem isZero_eq_false_of_never {v : FieldValue} (h : v.zeroRule = .never) :
    v.isZero = false := by
  cases v with
  | plain content => cases content <;> simp_all [zeroRule, isZero, Scalar.zeroRule, Scalar.isZero]
  | present content => rfl
  | absent => simp [zeroRule] at h

end FieldValue

end Rowset
