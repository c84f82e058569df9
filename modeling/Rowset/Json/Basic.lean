import Rowset.Number.Binary64

/-!
# JSON documents

A JSON value is raw when its objects list their members as written. A document is the canonical
form of a value: in every object the names ascend by code point and none occurs twice. Every raw
value has a document, in which the last of several members of one name stands for them all.

Numbers are integers as far as 64 bits reach, on either side of zero, and floating-point numbers
otherwise. An integer never equals a floating-point number.
-/

namespace Rowset

namespace Json

/-- A JSON number. -/
inductive Number where
  | integer (n : Int) (bounds : -0x8000000000000000 ≤ n ∧ n ≤ 0xffffffffffffffff)
  | float (x : Binary64) (finite : x.isFinite = true)
deriving DecidableEq

namespace Number

/-- Numbers are equal within their kind; floating-point numbers as numbers. -/
def eqv : Number → Number → Bool
  | .integer m _, .integer n _ => m == n
  | .float x _, .float y _ => x.numEq y
  | _, _ => false

/-- The number as a floating-point number, rounded if it has too many bits. -/
def toBinary64 : Number → Binary64
  | .integer n _ => .ofInt n
  | .float x _ => x

end Number

end Json

/-- A raw JSON value. -/
inductive Json where
  | null
  | bool (b : Bool)
  | number (n : Json.Number)
  | string (s : String)
  | array (items : List Json)
  | object (members : List (String × Json))

namespace Json

/-! ## Numbers of a value -/

/-- A natural number as a JSON number. -/
def ofUInt64 (n : UInt64) : Json :=
  .number (.integer n.toNat ⟨by omega, by have := n.toNat_lt; omega⟩)

def ofInt64 (n : Int64) : Json :=
  .number (.integer n.toInt ⟨by have := n.le_toInt; omega, by have := n.toInt_lt; omega⟩)

def ofUInt32 (n : UInt32) : Json :=
  .number (.integer n.toNat ⟨by omega, by have := n.toNat_lt; omega⟩)

def ofUInt8 (n : UInt8) : Json :=
  .number (.integer n.toNat ⟨by omega, by have := n.toNat_lt; omega⟩)

/-- A floating-point number; one that is not finite has no JSON form but `null`. -/
def ofBinary64 (x : Binary64) : Json :=
  if h : x.isFinite = true then .number (.float x h) else .null

/-! ## Equality -/

mutual

/-- Equality of values, member by member; numbers are compared as numbers of their kind. -/
def eqv : Json → Json → Bool
  | .null, .null => true
  | .bool a, .bool b => a == b
  | .number m, .number n => m.eqv n
  | .string s, .string t => s == t
  | .array xs, .array ys => eqvItems xs ys
  | .object ms, .object ns => eqvMembers ms ns
  | _, _ => false

def eqvItems : List Json → List Json → Bool
  | [], [] => true
  | x :: xs, y :: ys => x.eqv y && eqvItems xs ys
  | _, _ => false

def eqvMembers : List (String × Json) → List (String × Json) → Bool
  | [], [] => true
  | (k, x) :: ms, (l, y) :: ns => k == l && x.eqv y && eqvMembers ms ns
  | _, _ => false

end

/-! ## Depth -/

mutual

/-- How many arrays and objects enclose one another at most. -/
def depth : Json → Nat
  | .array xs => depthItems xs + 1
  | .object ms => depthMembers ms + 1
  | _ => 0

def depthItems : List Json → Nat
  | [] => 0
  | x :: xs => max x.depth (depthItems xs)

def depthMembers : List (String × Json) → Nat
  | [] => 0
  | (_, x) :: ms => max x.depth (depthMembers ms)

end

/-! ## Canonical form -/

/-- Whether names ascend strictly. -/
def Ascending (members : List (String × Json)) : Prop :=
  members.Pairwise fun m n => m.1 < n.1

mutual

/-- Whether the names of every object within a value ascend. -/
def Canonical : Json → Prop
  | .array xs => CanonicalItems xs
  | .object ms => Ascending ms ∧ CanonicalMembers ms
  | _ => True

def CanonicalItems : List Json → Prop
  | [] => True
  | x :: xs => x.Canonical ∧ CanonicalItems xs

def CanonicalMembers : List (String × Json) → Prop
  | [] => True
  | (_, x) :: ms => x.Canonical ∧ CanonicalMembers ms

end

/-- Puts a member into its place among ascending names, unless its name is there already. -/
def place (name : String) (value : Json) : List (String × Json) → List (String × Json)
  | [] => [(name, value)]
  | (k, v) :: rest =>
    if name < k then (name, value) :: (k, v) :: rest
    else if name = k then (k, v) :: rest
    else (k, v) :: place name value rest

mutual

/-- The canonical form of a value: the last member of a name is the one that counts. -/
def normalize : Json → Json
  | .null => .null
  | .bool b => .bool b
  | .number n => .number n
  | .string s => .string s
  | .array xs => .array (normalizeItems xs)
  | .object ms => .object (normalizeMembers ms)

def normalizeItems : List Json → List Json
  | [] => []
  | x :: xs => x.normalize :: normalizeItems xs

def normalizeMembers : List (String × Json) → List (String × Json)
  | [] => []
  | (k, x) :: ms => place k x.normalize (normalizeMembers ms)

end

theorem mem_place {name : String} {value : Json} {ms : List (String × Json)} {m : String × Json}
    (h : m ∈ place name value ms) : m = (name, value) ∨ m ∈ ms := by
  induction ms with
  | nil => simpa [place] using h
  | cons n rest ih =>
    simp only [place] at h
    split at h
    · simpa using h
    · split at h
      · exact .inr h
      · rcases List.mem_cons.1 h with rfl | h
        · exact .inr List.mem_cons_self
        · exact (ih h).imp_right (List.mem_cons_of_mem _)

theorem ascending_place {name : String} {value : Json} {ms : List (String × Json)}
    (h : Ascending ms) : Ascending (place name value ms) := by
  induction ms with
  | nil => simp [place, Ascending]
  | cons m rest ih =>
    obtain ⟨k, v⟩ := m
    have hrest := List.pairwise_cons.1 h
    simp only [place]
    split
    next lt =>
      refine List.pairwise_cons.2 ⟨fun n hn => ?_, h⟩
      rcases List.mem_cons.1 hn with rfl | hn
      · exact lt
      · exact String.lt_trans lt (hrest.1 n hn)
    next nlt =>
      split
      · exact h
      next ne =>
        refine List.pairwise_cons.2 ⟨fun n hn => ?_, ih hrest.2⟩
        rcases mem_place hn with rfl | hn
        · exact Decidable.byContradiction fun nlt' =>
            ne (String.le_antisymm (String.not_lt.1 nlt') (String.not_lt.1 nlt))
        · exact hrest.1 n hn

theorem canonicalMembers_place {name : String} {value : Json} {ms : List (String × Json)}
    (hv : value.Canonical) (h : CanonicalMembers ms) :
    CanonicalMembers (place name value ms) := by
  induction ms with
  | nil => exact ⟨hv, trivial⟩
  | cons m rest ih =>
    simp only [place]
    split
    · exact ⟨hv, h⟩
    · split
      · exact h
      · exact ⟨h.1, ih h.2⟩

mutual

theorem canonical_normalize : (j : Json) → j.normalize.Canonical
  | .null | .bool _ | .number _ | .string _ => trivial
  | .array xs => canonicalItems_normalizeItems xs
  | .object ms => ⟨ascending_normalizeMembers ms, canonicalMembers_normalizeMembers ms⟩

theorem canonicalItems_normalizeItems : (xs : List Json) → CanonicalItems (normalizeItems xs)
  | [] => trivial
  | x :: xs => ⟨canonical_normalize x, canonicalItems_normalizeItems xs⟩

theorem ascending_normalizeMembers : (ms : List (String × Json)) → Ascending (normalizeMembers ms)
  | [] => List.Pairwise.nil
  | (_, _) :: ms => ascending_place (ascending_normalizeMembers ms)

theorem canonicalMembers_normalizeMembers :
    (ms : List (String × Json)) → CanonicalMembers (normalizeMembers ms)
  | [] => trivial
  | (_, x) :: ms =>
    canonicalMembers_place (canonical_normalize x) (canonicalMembers_normalizeMembers ms)

end

/-- A JSON value in canonical form. -/
structure Document where
  value : Json
  canonical : value.Canonical

namespace Document

/-- The document of a raw value. -/
def ofJson (j : Json) : Document := ⟨j.normalize, canonical_normalize j⟩

def eqv (a b : Document) : Bool := a.value.eqv b.value

end Document

end Json

end Rowset
