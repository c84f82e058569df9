import Rowset.Proofs.Json.Zeros
import Rowset.Proofs.Statement.Repeats
import Rowset.Proofs.Store.Conditions
import Rowset.Proofs.Value.Stored

/-!
# What the store sees of a value

The store is given stored forms, so two things have to go together: what this library takes for one
value, and what the store takes for one. Where there are no floating-point numbers they are the same,
as far as values of one kind go, except that the store does not tell a leap second within a minute
from the second that follows. Numbers are taken for one by both when they are equal. Documents
are the exception: equality passes over the sign of a zero inside a document, and the store, which
keeps texts, does not. So a bind that is shared by equal documents may give the store another text
than the one it should be given.
-/

namespace Rowset

open Rowset.Sql

/-! ## Values without floating-point numbers -/

namespace Value

/-- Nothing else equals a value without floating-point numbers. -/
theorem FloatFree.discrete {v : Value} (h : v.FloatFree) : v.Discrete := by
  cases v with
  | float x => exact h.elim
  | json e =>
    intro u same
    cases u with
    | json d =>
      have value : d.value = e.value :=
        (Json.eq_or_opposite_of_eqv d.value same).resolve_right fun zeros => zeros.not_floatFree h
      exact congrArg json (Json.Document.value_injective value)
    | _ => cases same
  | _ => exact discrete_of_isPlain rfl

variable {v w : Value}

end Value

/-! ## Equal values -/

/-- Stored values are the same: equal numbers, or the very same value. -/
inductive SqlValue.Same : SqlValue → SqlValue → Prop
  | refl (a : SqlValue) : Same a a
  | real {x y : Binary64} : x.numEq y = true → Same (.real x) (.real y)

namespace Binary64

theorem numEq_zero (x : Binary64) (negative : Bool) : x.numEq (zero negative) = x.isZero := by
  rw [Bool.eq_iff_iff]
  constructor
  · intro same
    rcases eq_or_zeros_of_numEq same with rfl | ⟨sign, rfl, -⟩
    · exact isZero_zero negative
    · exact isZero_zero sign
  · intro zeros
    obtain ⟨sign, rfl⟩ := eq_zero_of_isZero zeros
    cases sign <;> cases negative <;> decide

/-- Equal numbers are equal to the same numbers. -/
theorem numEq_congr {x y : Binary64} (h : x.numEq y = true) (z : Binary64) :
    z.numEq x = z.numEq y := by
  rcases eq_or_zeros_of_numEq h with rfl | ⟨negative, rfl, rfl⟩
  · rfl
  · rw [numEq_zero, numEq_zero]

end Binary64

namespace SqlValue

theorem same_text_iff {s t : String} : (text s).Same (text t) ↔ s = t := by
  constructor
  · intro same
    cases same
    rfl
  · rintro rfl
    exact .refl _

/-- No comparison tells stored values apart that are the same. -/
theorem Same.equal?_eq {a b : SqlValue} (h : a.Same b) (cell : SqlValue) :
    cell.equal? a = cell.equal? b := by
  cases h with
  | refl => rfl
  | @real x y same =>
    cases cell with
    | real z => exact congrArg some (Binary64.numEq_congr same z)
    | _ => rfl

end SqlValue

namespace Value

/-- Documents in which somewhere a zero of one sign stands against a zero of the other. -/
def ZerosDiffer (v w : Value) : Prop :=
  ∃ d e, v = .json d ∧ w = .json e ∧ d.value.OppositeZeros e.value

theorem zerosDiffer_json {d e : Json.Document} :
    (json d).ZerosDiffer (json e) ↔ d.value.OppositeZeros e.value := by
  constructor
  · rintro ⟨_, _, ⟨⟩, ⟨⟩, zeros⟩
    exact zeros
  · intro zeros
    exact ⟨d, e, rfl, rfl, zeros⟩

theorem not_zerosDiffer_float (x : Binary64) (w : Value) : ¬ (float x).ZerosDiffer w := by
  rintro ⟨d, e, document, -⟩
  cases document

theorem not_zerosDiffer_self (v : Value) : ¬ v.ZerosDiffer v := by
  rintro ⟨d, e, rfl, same, zeros⟩
  exact zeros.ne (congrArg Json.Document.value (json.inj same))

variable {v w : Value}

/-- What is stored for equal values is the same, except where zeros differ. -/
theorem same_stored_iff (h : v.eqv w = true) : v.stored.Same w.stored ↔ ¬ v.ZerosDiffer w := by
  cases w with
  | float y =>
    cases v with
    | float x => exact iff_of_true (.real h) (not_zerosDiffer_float x _)
    | _ => cases h
  | json e =>
    cases v with
    | json d =>
      rw [stored, stored, SqlValue.same_text_iff, zerosDiffer_json]
      exact Json.Document.text_eq_iff h
    | _ => cases h
  | _ =>
    obtain rfl := discrete_of_isPlain rfl v h
    exact iff_of_true (.refl _) (not_zerosDiffer_self _)

/-- No comparison tells the stored forms of equal values apart, except where zeros differ: then the
one is found by itself and not by the other. -/
theorem equal?_stored_eq_iff (h : v.eqv w = true) :
    (∀ cell : SqlValue, cell.equal? v.stored = cell.equal? w.stored) ↔ ¬ v.ZerosDiffer w := by
  constructor
  · rintro alike ⟨d, e, rfl, rfl, zeros⟩
    have own : (SqlValue.text d.text).equal? (.text d.text) = some true :=
      (SqlValue.equal?_eq_some_true_iff rfl).2 rfl
    have other : (SqlValue.text d.text).equal? (.text e.text) = some true :=
      (alike (.text d.text)).symm.trans own
    have texts : d.text = e.text := SqlValue.text.inj ((SqlValue.equal?_eq_some_true_iff rfl).1 other)
    exact (Json.Document.text_eq_iff h).1 texts zeros
  · intro none cell
    exact ((same_stored_iff h).2 none).equal?_eq cell

end Value

/-! ## Shared binds -/

/-- A name that is bound to an equal value is used again, and nothing more is bound. -/
theorem shared_of_eqv {binds : List Bind} {name : String} {v w : Value}
    (bound : boundValue? binds name = some v) (h : v.eqv w = true) :
    bindName binds ⟨name, w⟩ = name ∧ Rendering.bindOnce binds name w = binds := by
  constructor
  · have usable : isUsable binds w (candidateName name 0) = true := by
      rw [candidateName_zero, isUsable, bound]
      exact h
    exact bindName_eq_candidateName (p := ⟨name, w⟩) usable fun j hj => absurd hj (Nat.not_lt_zero j)
  · obtain ⟨b, hb, hname, -⟩ := exists_mem_of_boundValue? bound
    exact Rendering.bindOnce_of_mem (mem_boundNames.2 ⟨b, hb, hname⟩) w

/-- What a bind gives is what a value that it carries would have given, unless zeros differ. -/
theorem Bind.Carries.same_stored_iff {b : Bind} {v : Value} (h : b.Carries v) :
    b.value.stored.Same v.stored ↔ ¬ b.value.ZerosDiffer v := by
  rcases h with rfl | same
  · exact iff_of_true (.refl _) (Value.not_zerosDiffer_self _)
  · exact Value.same_stored_iff same

/-- Every placeholder is given what is stored for a value that its bind carries. -/
theorem Template.exists_bind_of_occurrence (t : Template) {o : Occurrence}
    (ho : o ∈ (t.rendering .named).occurrences) :
    ∃ b ∈ (t.render .named).binds, b.name = o.name ∧ b.Carries o.param.value ∧
      bindingOf (t.render .named).binds (":" ++ o.name) = b.value.stored := by
  have sound : (t.rendering .named).Sound := Rendering.Sound.empty.append t
  obtain ⟨b, single, carries⟩ := sound.resolvesTo ho
  have bound : b ∈ (t.render .named).binds ∧ b.name = o.name := by
    have member : b ∈ (t.rendering .named).binds.filter fun c => c.name == o.name := by
      rw [single]
      exact List.mem_singleton_self b
    rw [List.mem_filter, beq_iff_eq] at member
    exact member
  exact ⟨b, bound.1, bound.2, carries, bindingOf_of_filter_name single⟩

/-- **Equal values that share a bind are stored alike exactly if no zeros differ in sign** at some
place within both, which takes documents. Equal values share a bind wherever one name asks for both.
Their stored forms are then the same, and no comparison tells them apart, exactly under this
condition. So in every statement a placeholder is given its own value, unless its bind is shared with
a document in which zeros differ. -/
theorem sharing_keeps_stored_iff {v w : Value} (h : v.eqv w = true) :
    (∀ binds name, boundValue? binds name = some v →
      bindName binds ⟨name, w⟩ = name ∧ Rendering.bindOnce binds name w = binds) ∧
      (v.stored.Same w.stored ↔ ¬ v.ZerosDiffer w) ∧
      ((∀ cell : SqlValue, cell.equal? v.stored = cell.equal? w.stored) ↔ ¬ v.ZerosDiffer w) ∧
      ∀ (t : Template), ∀ o ∈ (t.rendering .named).occurrences, ∃ b ∈ (t.render .named).binds,
        b.name = o.name ∧ b.Carries o.param.value ∧
          bindingOf (t.render .named).binds (":" ++ o.name) = b.value.stored ∧
          (b.value.stored.Same o.param.value.stored ↔ ¬ b.value.ZerosDiffer o.param.value) := by
  refine ⟨?_, Value.same_stored_iff h, Value.equal?_stored_eq_iff h, ?_⟩
  · intro binds name bound
    exact shared_of_eqv bound h
  · intro t o ho
    obtain ⟨b, hb, hname, carries, given⟩ := t.exists_bind_of_occurrence ho
    exact ⟨b, hb, hname, carries, given, carries.same_stored_iff⟩

/-- The two zeros as numbers of their own: one stands for the other. -/
theorem sharing_keeps_stored_of_zeros :
    let plus : Value := .float (.zero false)
    let minus : Value := .float (.zero true)
    let asked : Template := [.param ⟨"cost", plus⟩, .text " or ", .param ⟨"cost", minus⟩]
    plus.eqv minus = true ∧ plus.stored.Same minus.stored ∧
      (asked.render .named).binds = [⟨"cost", plus⟩] := by
  intro plus minus asked
  have equal : plus.eqv minus = true := by decide
  have numbers : ¬ plus.ZerosDiffer minus := Value.not_zerosDiffer_float _ _
  exact ⟨equal, (sharing_keeps_stored_iff equal).2.1.2 numbers, rfl⟩

/-- The two zeros as documents: they share a bind, and one of them is stored as the other. A
rendering that counts its binds keeps both. -/
theorem not_stored_alike_of_document_zeros :
    let plus : Value := .json ⟨.number (.float (.zero false) (by decide)), trivial⟩
    let minus : Value := .json ⟨.number (.float (.zero true) (by decide)), trivial⟩
    let asked : Template := [.param ⟨"doc", plus⟩, .text " or ", .param ⟨"doc", minus⟩]
    plus.eqv minus = true ∧ plus.stored = .text "0.0" ∧ minus.stored = .text "-0.0" ∧
      ¬ plus.stored.Same minus.stored ∧
      asked.render .named = ⟨":doc or :doc", [⟨"doc", plus⟩]⟩ ∧
      bindingOf (asked.render .named).binds ":doc" ≠ minus.stored ∧
      asked.render .positional = ⟨"? or ?", [⟨"doc", plus⟩, ⟨"doc", minus⟩]⟩ := by
  intro plus minus asked
  have first : plus.stored = .text "0.0" := by decide +kernel
  have second : minus.stored = .text "-0.0" := by decide +kernel
  have bound : bindingOf (asked.render .named).binds ":doc" = .text "0.0" := by decide +kernel
  refine ⟨by decide, first, second, ?_, rfl, ?_, rfl⟩
  · rw [first, second, SqlValue.same_text_iff]
    decide
  · rw [bound, second]
    decide

end Rowset
