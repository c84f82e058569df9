import Mathlib.Data.List.Nodup
import Rowset.Json.Written

/-!
# Members found by their names

The members of an object are found under the names that are asked for as long as every name in the
object is a text and none of those asked for occurs twice. They may stand in any order and have any
others beside them. If one name in the object is no text, nothing at all is found.
-/

namespace Rowset.Json

/-- What members hold under a name. -/
def valuesOf (members : List (List StringUnit × Written)) (name : String) : List Written :=
  (members.filter fun m => unitText? m.1 == some name).map Prod.snd

/-- Every name is a text. -/
def Named (members : List (List StringUnit × Written)) : Prop :=
  ∀ m ∈ members, (unitText? m.1).isSome = true

variable {members : List (List StringUnit × Written)} {units : List StringUnit} {value : Written}
  {name : String}

theorem valuesOf_cons_self (h : unitText? units = some name) :
    valuesOf ((units, value) :: members) name = value :: valuesOf members name := by
  simp [valuesOf, h]

theorem valuesOf_cons_of_ne {other : String} (h : unitText? units = some name) (ne : name ≠ other) :
    valuesOf ((units, value) :: members) other = valuesOf members other := by
  simp [valuesOf, h, ne]

theorem length_valuesOf_le_cons (m : List StringUnit × Written) (other : String) :
    (valuesOf members other).length ≤ (valuesOf (m :: members) other).length := by
  unfold valuesOf
  rw [List.length_map, List.length_map]
  exact ((List.sublist_cons_self m members).filter _).length_le

/-- One more member is found under its own name and changes nothing under others. -/
theorem map_head?_valuesOf_cons {names : List String} (distinct : names.Nodup)
    (h : unitText? units = some name) :
    (names.map fun other => (valuesOf ((units, value) :: members) other).head?) =
      if name ∈ names then
        (names.map fun other => (valuesOf members other).head?).set (names.idxOf name) (some value)
      else names.map fun other => (valuesOf members other).head? := by
  rw [← distinct.map_update]
  refine List.map_congr_left fun other _ => ?_
  by_cases same : other = name
  · subst same
    rw [valuesOf_cons_self h, Function.update_self]
    rfl
  · rw [valuesOf_cons_of_ne h (Ne.symm same), Function.update_of_ne same]

/-- Under each name the value of the one member that has it is found, if there is one. -/
theorem selectMembers?_of_named {names : List String} (distinct : names.Nodup)
    (named : Named members) (once : ∀ name ∈ names, (valuesOf members name).length ≤ 1) :
    selectMembers? names members = some (names.map fun name => (valuesOf members name).head?) := by
  induction members with
  | nil => rfl
  | cons m members ih =>
    obtain ⟨units, value⟩ := m
    obtain ⟨first, named⟩ := List.forall_mem_cons.1 named
    obtain ⟨name, text⟩ := Option.isSome_iff_exists.1 first
    have found := ih named fun other asked =>
      Nat.le_trans (length_valuesOf_le_cons (units, value) other) (once other asked)
    rw [selectMembers?, text, found, map_head?_valuesOf_cons distinct text]
    have position := List.idxOf_eq_getD_idxOf? name names
    cases place : names.idxOf? name with
    | none => simp [place, List.idxOf?_eq_none_iff.1 place]
    | some i =>
      -- The name is asked for, so no later member has it.
      obtain rfl : names.idxOf name = i := by rw [position, place, Option.getD_some]
      have asked : name ∈ names := by
        obtain ⟨within, _⟩ := List.idxOf?_eq_some_iff.1 place
        exact List.idxOf_lt_length_iff.1 within
      have single := once name asked
      rw [valuesOf_cons_self text, List.length_cons] at single
      have fresh : valuesOf members name = [] := List.eq_nil_of_length_eq_zero (by omega)
      simp [place, asked, fresh]

theorem selectMembers?_of_not_named (names : List String) (h : ¬ Named members) :
    selectMembers? names members = none := by
  induction members with
  | nil => exact absurd (fun _ none => nomatch none) h
  | cons m members ih =>
    obtain ⟨units, value⟩ := m
    rw [selectMembers?]
    cases text : unitText? units with
    | none => rfl
    | some name =>
      have rest : ¬ Named members := fun named =>
        h (List.forall_mem_cons.2 ⟨by rw [text]; rfl, named⟩)
      rw [ih rest]
      rfl

end Rowset.Json
