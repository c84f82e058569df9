import Mathlib.Data.List.Nodup
import Mathlib.Data.List.Perm.Subperm
import Rowset.Statement.Rendering

/-!
# The name of a parameter

The candidates for a name are all different, so among one more of them than there are binds one is
free. Hence the search for a name always ends at a usable candidate, whatever the names and values
that are bound already, and every candidate before it is taken by another value.
-/

namespace Rowset

open Rowset.Text

/-! ## Candidates -/

@[simp] theorem candidateName_zero (name : String) : candidateName name 0 = name := rfl

theorem toList_candidateName_succ (name : String) (k : Nat) :
    (candidateName name (k + 1)).toList = name.toList ++ '_' :: Decimal.ofNat (k + 2) := by
  simp [candidateName]

theorem candidateName_injective (name : String) : Function.Injective (candidateName name) := by
  intro i j h
  have lists := congrArg String.toList h
  cases i with
  | zero =>
    cases j with
    | zero => rfl
    | succ j => simp [toList_candidateName_succ] at lists
  | succ i =>
    cases j with
    | zero => simp [toList_candidateName_succ] at lists
    | succ j =>
      rw [toList_candidateName_succ, toList_candidateName_succ] at lists
      have digits := (List.cons.inj (List.append_cancel_left lists)).2
      have number := Decimal.ofNat_injective digits
      omega

/-! ## Usable names -/

/-- The names that are bound. -/
def boundNames (binds : List Bind) : List String := binds.map Bind.name

theorem mem_boundNames {binds : List Bind} {name : String} :
    name ∈ boundNames binds ↔ ∃ b ∈ binds, b.name = name := List.mem_map

theorem isSome_find?_iff {binds : List Bind} {name : String} :
    (binds.find? fun b => b.name == name).isSome = true ↔ name ∈ boundNames binds := by
  rw [List.find?_isSome, mem_boundNames]
  simp only [beq_iff_eq]

theorem boundValue?_eq_none_iff {binds : List Bind} {name : String} :
    boundValue? binds name = none ↔ name ∉ boundNames binds := by
  simp [boundValue?, boundNames]

/-- A name is bound to the value of some bind of that name. -/
theorem exists_mem_of_boundValue? {binds : List Bind} {name : String} {v : Value}
    (h : boundValue? binds name = some v) : ∃ b ∈ binds, b.name = name ∧ b.value = v := by
  obtain ⟨b, hb, rfl⟩ := Option.map_eq_some_iff.1 h
  exact ⟨b, List.mem_of_find?_eq_some hb, by simpa using List.find?_some hb, rfl⟩

theorem isUsable_of_notMem {binds : List Bind} {name : String} (v : Value)
    (h : name ∉ boundNames binds) : isUsable binds v name = true := by
  simp [isUsable, boundValue?_eq_none_iff.2 h]

theorem mem_boundNames_of_not_isUsable {binds : List Bind} {name : String} {v : Value}
    (h : isUsable binds v name = false) : name ∈ boundNames binds := by
  by_contra free
  rw [isUsable_of_notMem v free] at h
  cases h

/-- A usable name that is bound has a bind with an equal value. -/
theorem exists_eqv_of_isUsable {binds : List Bind} {name : String} {v : Value}
    (h : isUsable binds v name = true) (bound : name ∈ boundNames binds) :
    ∃ b ∈ binds, b.name = name ∧ b.value.eqv v = true := by
  unfold isUsable at h
  split at h
  next free => exact absurd bound (boundValue?_eq_none_iff.1 free)
  next w hw =>
    obtain ⟨b, hb, hname, rfl⟩ := exists_mem_of_boundValue? hw
    exact ⟨b, hb, hname, h⟩

/-- One of the first candidates is usable: bound ones are fewer than all of these. -/
theorem exists_isUsable_candidateName (binds : List Bind) (name : String) (v : Value) :
    ∃ k ≤ binds.length, isUsable binds v (candidateName name k) = true := by
  by_contra! none
  have taken : (List.range (binds.length + 1)).map (candidateName name) ⊆ boundNames binds := by
    intro candidate h
    obtain ⟨k, hk, rfl⟩ := List.mem_map.1 h
    by_contra free
    exact none k (Nat.le_of_lt_succ (List.mem_range.1 hk)) (isUsable_of_notMem v free)
  have distinct := List.nodup_range (n := binds.length + 1) |>.map (candidateName_injective name)
  have count := (distinct.subperm taken).length_le
  simp only [boundNames, List.length_map, List.length_range] at count
  omega

/-! ## The name chosen -/

/-- The name chosen is the first usable candidate. -/
theorem exists_bindName_eq (binds : List Bind) (p : Param) :
    ∃ k ≤ binds.length, bindName binds p = candidateName p.name k ∧
      isUsable binds p.value (candidateName p.name k) = true ∧
      ∀ j < k, isUsable binds p.value (candidateName p.name j) = false := by
  obtain ⟨k, hk, usable⟩ := exists_isUsable_candidateName binds p.name p.value
  unfold bindName
  rw [List.find?_map]
  cases found : (List.range (binds.length + 1)).find?
      (isUsable binds p.value ∘ candidateName p.name) with
  | none =>
    have := List.find?_eq_none.1 found k (List.mem_range.2 (Nat.lt_succ_of_le hk))
    exact absurd usable this
  | some i =>
    obtain ⟨hi, mem, first⟩ := List.find?_range_eq_some.1 found
    exact ⟨i, Nat.le_of_lt_succ (List.mem_range.1 mem), rfl, hi, fun j hj => by simpa using first j hj⟩

/-- The first usable candidate is the name chosen. -/
theorem bindName_eq_candidateName {binds : List Bind} {p : Param} {k : Nat}
    (usable : isUsable binds p.value (candidateName p.name k) = true)
    (first : ∀ j < k, isUsable binds p.value (candidateName p.name j) = false) :
    bindName binds p = candidateName p.name k := by
  obtain ⟨i, -, chosen, usable', first'⟩ := exists_bindName_eq binds p
  rw [chosen]
  obtain below | rfl | above := Nat.lt_trichotomy i k
  · rw [first i below] at usable'
    cases usable'
  · rfl
  · rw [first' k above] at usable
    cases usable

theorem isUsable_bindName (binds : List Bind) (p : Param) :
    isUsable binds p.value (bindName binds p) = true := by
  obtain ⟨k, _, hname, usable, _⟩ := exists_bindName_eq binds p
  rwa [hname]

/-- A parameter keeps a name that is free. -/
theorem bindName_of_notMem {binds : List Bind} {p : Param} (h : p.name ∉ boundNames binds) :
    bindName binds p = p.name := by
  obtain ⟨k, _, hname, _, first⟩ := exists_bindName_eq binds p
  cases k with
  | zero => rw [hname, candidateName_zero]
  | succ k =>
    have taken := first 0 (Nat.succ_pos k)
    rw [candidateName_zero, isUsable_of_notMem p.value h] at taken
    cases taken

end Rowset
