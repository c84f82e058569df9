import Rowset.Value.Basic

/-!
# Values that equal themselves

Equality of values is not reflexive, since an undefined floating-point number does not equal itself.
It is the only exception: the numbers of documents are always finite, so every document equals
itself, however deep its numbers lie.
-/

namespace Rowset

/-! ## Numbers -/

namespace Binary64

theorem isNaN_of_isFinite {x : Binary64} (h : x.isFinite = true) : x.isNaN = false := by
  rw [isFinite, bne_iff_ne] at h
  rw [isNaN, beq_eq_false_iff_ne.2 h, Bool.false_and]

theorem numEq_self_iff (x : Binary64) : x.numEq x = true ↔ x.isNaN = false := by
  refine ⟨fun same => ?_, numEq_self⟩
  simp only [numEq, Bool.and_eq_true, Bool.not_eq_true'] at same
  exact same.1.1

end Binary64

/-! ## Documents -/

namespace Json

theorem Number.eqv_self (n : Number) : n.eqv n = true := by
  cases n with
  | integer n _ => exact beq_self_eq_true n
  | float x finite => exact Binary64.numEq_self (Binary64.isNaN_of_isFinite finite)

mutual

theorem eqv_self : (j : Json) → j.eqv j = true
  | .null => rfl
  | .bool b => beq_self_eq_true b
  | .number n => n.eqv_self
  | .string s => beq_self_eq_true s
  | .array xs => eqvItems_self xs
  | .object ms => eqvMembers_self ms

theorem eqvItems_self : (xs : List Json) → eqvItems xs xs = true
  | [] => rfl
  | x :: xs => by rw [eqvItems, x.eqv_self, eqvItems_self xs, Bool.and_self]

theorem eqvMembers_self : (ms : List (String × Json)) → eqvMembers ms ms = true
  | [] => rfl
  | (k, x) :: ms => by
    rw [eqvMembers, beq_self_eq_true, x.eqv_self, eqvMembers_self ms, Bool.and_self, Bool.and_self]

end

end Json

/-! ## Values -/

namespace Value

/-- Not an undefined floating-point number. -/
def Defined (v : Value) : Prop := ∀ x, v = .float x → x.isNaN = false

theorem defined_float {x : Binary64} : (float x).Defined ↔ x.isNaN = false := by
  constructor
  · intro h
    exact h x rfl
  · rintro h _ ⟨⟩
    exact h

/-- A value equals itself exactly if it is defined. -/
theorem eqv_self_iff (v : Value) : v.eqv v = true ↔ v.Defined := by
  cases v with
  | float x => rw [defined_float, eqv, Binary64.numEq_self_iff]
  | json d => exact iff_of_true d.value.eqv_self nofun
  | null => exact iff_of_true rfl nofun
  | int n => exact iff_of_true (beq_self_eq_true n) nofun
  | uint n => exact iff_of_true (beq_self_eq_true n) nofun
  | string s => exact iff_of_true (beq_self_eq_true s) nofun
  | boolean b => exact iff_of_true (beq_self_eq_true b) nofun
  | uuid u => exact iff_of_true (beq_self_eq_true u) nofun
  | bytes bs => exact iff_of_true (beq_self_eq_true bs) nofun
  | date d => exact iff_of_true (beq_self_eq_true d) nofun
  | timestamp t => exact iff_of_true (beq_self_eq_true t) nofun

end Value

end Rowset
