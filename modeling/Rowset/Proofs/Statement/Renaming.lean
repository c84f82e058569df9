import Rowset.Proofs.Statement.Soundness
import Rowset.Proofs.Value.Equality

/-!
# The search for a name, rename by rename

A name for a parameter is searched for by trying one name after another: the parameter's own, then
the own name with a number behind it that is counted up. Every rename leaves a bound name behind and
no name comes up twice, so that a usable name comes after as many renames as there are binds, at the
latest. The name at which the search ends is the one that the rendering uses.

Neither the names that are bound nor equality of values matter for this. Names may look like renamed
ones, and a value that does not even equal itself only makes the search pass over every candidate
that is bound; then there are as many renames as binds.

What does matter is that the number is a machine integer of 32 bits. The search counts to one more
than the number of binds at most, so that it finds its name wherever there are fewer than 2147483647
binds. With more it may run out of numbers. What happens then depends on the build: where arithmetic
is checked the search fails, and elsewhere it goes on with the least number, at names that are no
candidates.
-/

namespace Rowset

open Rowset.Text

variable {binds : List Bind} {p : Param}

/-! ## First binds -/

/-- The bind that a name is looked up as: none before it has the name. -/
def FirstBind (binds : List Bind) (name : String) (b : Bind) : Prop :=
  ∃ before after, binds = before ++ b :: after ∧ b.name = name ∧ name ∉ boundNames before

theorem exists_firstBind {name : String} (h : name ∈ boundNames binds) :
    ∃ b, FirstBind binds name b ∧ boundValue? binds name = some b.value := by
  obtain ⟨b, found⟩ := Option.isSome_iff_exists.1 (isSome_find?_iff.2 h)
  obtain ⟨own, before, after, split, others⟩ := List.find?_eq_some_iff_append.1 found
  refine ⟨b, ⟨before, after, split, beq_iff_eq.1 own, fun earlier => ?_⟩, ?_⟩
  · obtain ⟨c, hc, hname⟩ := mem_boundNames.1 earlier
    simpa [hname] using others c hc
  · rw [boundValue?, found, Option.map_some]

/-- A usable name is free, or its first bind has an equal value. -/
theorem free_or_firstBind_of_isUsable {name : String} {v : Value}
    (h : isUsable binds v name = true) :
    name ∉ boundNames binds ∨ ∃ b, FirstBind binds name b ∧ b.value.eqv v = true := by
  by_cases bound : name ∈ boundNames binds
  · obtain ⟨b, first, value⟩ := exists_firstBind bound
    rw [isUsable, value] at h
    exact .inr ⟨b, first, h⟩
  · exact .inl bound

/-- The first bind of an unusable name has another value. -/
theorem firstBind_of_not_isUsable {name : String} {v : Value} (h : isUsable binds v name = false) :
    ∃ b, FirstBind binds name b ∧ b.value.eqv v = false := by
  obtain ⟨b, first, value⟩ := exists_firstBind (mem_boundNames_of_not_isUsable h)
  rw [isUsable, value] at h
  exact ⟨b, first, h⟩

/-! ## Values that do not equal themselves -/

/-- One value bound under the first candidates for a name. -/
def candidateBinds (name : String) (v : Value) (count : Nat) : List Bind :=
  (List.range count).map fun k => ⟨candidateName name k, v⟩

section Undefined

variable {name : String} {v : Value} {count k : Nat}

theorem candidateName_mem_candidateBinds :
    candidateName name k ∈ boundNames (candidateBinds name v count) ↔ k < count := by
  simp [candidateBinds, boundNames, (candidateName_injective name).eq_iff]

theorem isUsable_candidateBinds (h : ¬ v.Defined) :
    isUsable (candidateBinds name v count) v (candidateName name k) = true ↔ count ≤ k := by
  constructor
  · intro usable
    by_contra below
    have bound : candidateName name k ∈ boundNames (candidateBinds name v count) :=
      candidateName_mem_candidateBinds.2 (Nat.lt_of_not_le below)
    obtain ⟨b, hb, -, equal⟩ := exists_eqv_of_isUsable usable bound
    obtain ⟨_, -, rfl⟩ := List.mem_map.1 hb
    exact h (v.eqv_self_iff.1 equal)
  · intro above
    exact isUsable_of_notMem v fun bound =>
      Nat.not_lt_of_le above (candidateName_mem_candidateBinds.1 bound)

theorem not_isUsable_candidateBinds (h : ¬ v.Defined) (below : k < count) :
    isUsable (candidateBinds name v count) v (candidateName name k) = false := by
  rw [← Bool.not_eq_true, isUsable_candidateBinds h]
  exact Nat.not_le_of_lt below

theorem bindName_candidateBinds (h : ¬ v.Defined) :
    bindName (candidateBinds name v count) ⟨name, v⟩ = candidateName name count :=
  bindName_eq_candidateName (p := ⟨name, v⟩) ((isUsable_candidateBinds h).2 (Nat.le_refl count))
    fun _ => not_isUsable_candidateBinds h

/-- A number below zero makes no candidate. -/
theorem least_notMem_candidateBinds :
    name ++ "_-2147483648" ∉ boundNames (candidateBinds name v count) := by
  intro bound
  obtain ⟨b, hb, same⟩ := mem_boundNames.1 bound
  obtain ⟨k, -, rfl⟩ := List.mem_map.1 hb
  have lists := congrArg String.toList same
  cases k with
  | zero => simp at lists
  | succ k =>
    rw [toList_candidateName_succ, String.toList_append] at lists
    have digits := (List.cons.inj (List.append_cancel_left lists)).2
    have sign : '-' ∈ Decimal.ofNat (k + 2) := digits ▸ List.mem_cons_self
    exact absurd (Decimal.isDigit_of_mem_ofNat sign) (by decide)

/-- Written again and again, the value is bound anew each time. -/
theorem binds_append_replicate (h : ¬ v.Defined) (name : String) (count : Nat) :
    (Rendering.append { dialect := .named } (List.replicate count (.param ⟨name, v⟩))).binds =
      candidateBinds name v count := by
  induction count with
  | zero => rfl
  | succ count ih =>
    have free : candidateName name count ∉ boundNames (candidateBinds name v count) :=
      fun bound => Nat.lt_irrefl count (candidateName_mem_candidateBinds.1 bound)
    rw [List.replicate_succ', Rendering.append_append, Rendering.append_cons, Rendering.append_nil,
      Rendering.part, Rendering.binds_param_of_named (Rendering.dialect_append _ _), ih,
      bindName_candidateBinds h, Rendering.bindOnce_of_notMem free]
    simp [candidateBinds, List.range_succ]

end Undefined

/-! ## Rounds -/

/-- A search for a name: the name that it is at, and the number behind that name. The parameter's own
name has none and counts as the first. -/
structure NameSearch where
  number : Int32
  name : String

namespace NameSearch

/-- A search starts at the parameter's own name. -/
def start (p : Param) : NameSearch := ⟨1, p.name⟩

/-- The number after a number. The greatest one has none where arithmetic is checked, and is followed
by the least one elsewhere. -/
def next? (checked : Bool) (number : Int32) : Option Int32 :=
  if checked && number == Int32.maxValue then none else some (number + 1)

/-- One round of a search: it returns the name that it is at, or goes on with the next one if that
name is bound to another value. Without a next number it fails. -/
def round (checked : Bool) (binds : List Bind) (p : Param) (s : NameSearch) :
    Option (String ⊕ NameSearch) :=
  match boundValue? binds s.name with
  | some bound =>
    if bound.eqv p.value then some (.inl s.name)
    else (next? checked s.number).map fun number =>
      .inr ⟨number, p.name ++ "_" ++ Decimal.intText number.toInt⟩
  | none => some (.inl s.name)

/-- A search ends after so many renames, with a name or in failure. -/
inductive Ends (checked : Bool) (binds : List Bind) (p : Param) :
    NameSearch → Nat → Option String → Prop
  | found {s : NameSearch} {name : String} :
      s.round checked binds p = some (.inl name) → Ends checked binds p s 0 (some name)
  | failed {s : NameSearch} : s.round checked binds p = none → Ends checked binds p s 0 none
  | more {s t : NameSearch} {renames : Nat} {result : Option String} :
      s.round checked binds p = some (.inr t) → Ends checked binds p t renames result →
        Ends checked binds p s (renames + 1) result

/-- How many candidates there are numbers for: 2147483647. -/
def room : Nat := 0x7fffffff

/-- The search at a candidate. -/
def atCandidate (p : Param) (k : Nat) : NameSearch := ⟨.ofNat (k + 1), candidateName p.name k⟩

variable {checked : Bool} {s t : NameSearch} {k renames : Nat} {name : String}
  {result : Option String}

/-! ## What a round does -/

theorem round_of_isUsable (h : isUsable binds p.value s.name = true) :
    s.round checked binds p = some (.inl s.name) := by
  unfold isUsable at h
  unfold round
  split at h
  next free => rw [free]
  next bound taken =>
    rw [taken]
    exact if_pos h

theorem round_of_not_isUsable (h : isUsable binds p.value s.name = false) :
    s.round checked binds p = (next? checked s.number).map fun number =>
      .inr ⟨number, p.name ++ "_" ++ Decimal.intText number.toInt⟩ := by
  unfold isUsable at h
  unfold round
  split at h
  next free => cases h
  next bound taken =>
    rw [taken]
    exact if_neg (ne_true_of_eq_false h)

theorem next?_ofNat {n : Nat} (h : n < room) :
    next? checked (.ofNat n) = some (.ofNat (n + 1)) := by
  have number : (Int32.ofNat n).toInt = n := Int32.toInt_ofNat_of_lt (Nat.lt_succ_of_lt h)
  have further : Int32.ofNat n ≠ Int32.maxValue := by
    intro last
    rw [last, Int32.toInt_maxValue] at number
    unfold room at h
    omega
  rw [next?, beq_eq_false_iff_ne.2 further, Bool.and_false, Int32.ofNat_add]
  rfl

theorem next?_maxValue :
    next? checked Int32.maxValue = if checked then none else some Int32.minValue := by
  cases checked <;> rfl

/-- The last candidate that there is a number for has the greatest number. -/
theorem number_atCandidate (h : k + 1 = room) : (atCandidate p k).number = Int32.maxValue := by
  rw [atCandidate, h]
  rfl

/-- Renames go from candidate to candidate as long as there are numbers. -/
theorem round_atCandidate (h : isUsable binds p.value (candidateName p.name k) = false)
    (within : k + 1 < room) :
    (atCandidate p k).round checked binds p = some (.inr (atCandidate p (k + 1))) := by
  have number : (Int32.ofNat (k + 2)).toInt = (k + 2 : Nat) :=
    Int32.toInt_ofNat_of_lt (Nat.succ_lt_succ within)
  have after : next? checked (atCandidate p k).number = some (.ofNat (k + 2)) := next?_ofNat within
  rw [round_of_not_isUsable h, after, Option.map_some, number]
  rfl

/-! ## How a search ends -/

/-- How a search ends is settled by its first round, or by the search that this round goes on with. -/
theorem ends_iff : Ends checked binds p s renames result ↔
    match s.round checked binds p with
    | none => renames = 0 ∧ result = none
    | some (.inl name) => renames = 0 ∧ result = some name
    | some (.inr t) => ∃ rest, renames = rest + 1 ∧ Ends checked binds p t rest result := by
  constructor
  · intro ends
    cases ends with
    | found here =>
      rw [here]
      exact ⟨rfl, rfl⟩
    | failed here =>
      rw [here]
      exact ⟨rfl, rfl⟩
    | more here ends =>
      rw [here]
      exact ⟨_, rfl, ends⟩
  · intro ends
    split at ends
    next here =>
      obtain ⟨rfl, rfl⟩ := ends
      exact .failed here
    next here =>
      obtain ⟨rfl, rfl⟩ := ends
      exact .found here
    next here =>
      obtain ⟨rest, rfl, ends⟩ := ends
      exact .more here ends

theorem ends_iff_of_found (h : s.round checked binds p = some (.inl name)) :
    Ends checked binds p s renames result ↔ renames = 0 ∧ result = some name := by
  rw [ends_iff, h]

theorem ends_iff_of_failed (h : s.round checked binds p = none) :
    Ends checked binds p s renames result ↔ renames = 0 ∧ result = none := by
  rw [ends_iff, h]

theorem ends_iff_of_renamed (h : s.round checked binds p = some (.inr t)) :
    Ends checked binds p s renames result ↔
      ∃ rest, renames = rest + 1 ∧ Ends checked binds p t rest result := by
  rw [ends_iff, h]

/-- A search leads to another one by so many renames: it ends as that one does, so much later. -/
def Leads (checked : Bool) (binds : List Bind) (p : Param) (s : NameSearch) (k : Nat)
    (t : NameSearch) : Prop :=
  ∀ renames result, Ends checked binds p s renames result ↔
    ∃ rest, renames = k + rest ∧ Ends checked binds p t rest result

theorem Leads.refl (s : NameSearch) : Leads checked binds p s 0 s := by
  intro renames result
  simp

theorem Leads.renamed {u : NameSearch} (h : Leads checked binds p s k t)
    (step : t.round checked binds p = some (.inr u)) : Leads checked binds p s (k + 1) u := by
  intro renames result
  rw [h]
  simp only [ends_iff_of_renamed step]
  constructor
  · rintro ⟨_, rfl, rest, rfl, ends⟩
    exact ⟨rest, by omega, ends⟩
  · rintro ⟨rest, rfl, ends⟩
    exact ⟨rest + 1, by omega, rest, rfl, ends⟩

/-- A search that leads to one that ends in its first round ends there. -/
theorem Leads.ends_iff {last : Option String} (h : Leads checked binds p s k t)
    (ends : ∀ renames result, Ends checked binds p t renames result ↔ renames = 0 ∧ result = last) :
    Ends checked binds p s renames result ↔ renames = k ∧ result = last := by
  rw [h]
  simp only [ends]
  constructor
  · rintro ⟨_, rfl, rfl, rfl⟩
    exact ⟨rfl, rfl⟩
  · rintro ⟨rfl, rfl⟩
    exact ⟨0, rfl, rfl, rfl⟩

/-- A search passes over unusable candidates as long as there are numbers. -/
theorem leads_start (within : k < room)
    (passed : ∀ j < k, isUsable binds p.value (candidateName p.name j) = false) :
    Leads checked binds p (start p) k (atCandidate p k) := by
  induction k with
  | zero => exact .refl (start p)
  | succ k ih =>
    have before := ih (Nat.lt_of_succ_lt within) fun j hj => passed j (Nat.lt_succ_of_lt hj)
    exact before.renamed (round_atCandidate (passed k k.lt_succ_self) within)

/-- A search that comes to a usable candidate while there are numbers ends there. -/
theorem ends_of_usable (within : k < room)
    (passed : ∀ j < k, isUsable binds p.value (candidateName p.name j) = false)
    (usable : isUsable binds p.value (candidateName p.name k) = true) :
    Ends checked binds p (start p) renames result ↔
      renames = k ∧ result = some (candidateName p.name k) := by
  have found : (atCandidate p k).round checked binds p = some (.inl (candidateName p.name k)) :=
    round_of_isUsable usable
  exact (leads_start within passed).ends_iff fun _ _ => ends_iff_of_found found

/-- The round behind the last candidate that there is a number for. -/
theorem round_last (h : isUsable binds p.value (candidateName p.name k) = false)
    (last : k + 1 = room) :
    (atCandidate p k).round checked binds p =
      if checked then none else some (.inr ⟨Int32.minValue, p.name ++ "_-2147483648"⟩) := by
  have least : "_" ++ Decimal.intText Int32.minValue.toInt = "_-2147483648" := by decide +kernel
  rw [round_of_not_isUsable h, number_atCandidate last, next?_maxValue]
  cases checked with
  | true => rfl
  | false =>
    rw [← least, ← String.append_assoc]
    rfl

/-- A search that finds no usable candidate while there are numbers fails where arithmetic is
checked, and elsewhere goes on with the least number. -/
theorem ends_of_unusable
    (passed : ∀ j < room, isUsable binds p.value (candidateName p.name j) = false) :
    (Ends true binds p (start p) renames result ↔ renames + 1 = room ∧ result = none) ∧
      Leads false binds p (start p) room ⟨Int32.minValue, p.name ++ "_-2147483648"⟩ := by
  obtain ⟨k, last⟩ : ∃ k, k + 1 = room := ⟨0x7ffffffe, rfl⟩
  have within : k < room := last ▸ k.lt_succ_self
  have before : ∀ j < k, isUsable binds p.value (candidateName p.name j) = false :=
    fun j hj => passed j (Nat.lt_trans hj within)
  have failed : (atCandidate p k).round true binds p = none := round_last (passed k within) last
  have renamed : (atCandidate p k).round false binds p =
      some (.inr ⟨Int32.minValue, p.name ++ "_-2147483648"⟩) := round_last (passed k within) last
  constructor
  · rw [(leads_start within before).ends_iff fun _ _ => ends_iff_of_failed failed, ← last,
      Nat.succ_inj]
  · rw [← last]
    exact (leads_start within before).renamed renamed

/-- **The search for a name ends at the first usable candidate**, which comes after at most as many
renames as there are binds, if there is a number for it. There is one wherever binds are fewer than
`room`. The search has no other end, and the name that it returns is the one chosen for the
parameter. That name is free, or its first bind has an equal value; every candidate before it is
bound, and its first bind has another value. Without a number for that candidate the search fails
behind the last one that has a number, or goes on with the least number, as the build has it. -/
theorem name_search_ends (binds : List Bind) (p : Param) :
    ∃ k ≤ binds.length,
      bindName binds p = candidateName p.name k ∧
      (candidateName p.name k ∉ boundNames binds ∨
        ∃ b, FirstBind binds (candidateName p.name k) b ∧ b.value.eqv p.value = true) ∧
      (∀ j < k, ∃ b, FirstBind binds (candidateName p.name j) b ∧
        b.value.eqv p.value = false) ∧
      (k < room → ∀ checked renames result, Ends checked binds p (start p) renames result ↔
        renames = k ∧ result = some (bindName binds p)) ∧
      (room ≤ k → ∀ renames result,
        (Ends true binds p (start p) renames result ↔ renames + 1 = room ∧ result = none) ∧
        (Ends false binds p (start p) renames result ↔ ∃ rest, renames = room + rest ∧
          Ends false binds p ⟨Int32.minValue, p.name ++ "_-2147483648"⟩ rest result)) := by
  obtain ⟨k, bound, chosen, usable, passed⟩ := exists_bindName_eq binds p
  refine ⟨k, bound, chosen, free_or_firstBind_of_isUsable usable,
    fun j hj => firstBind_of_not_isUsable (passed j hj), fun within => ?_, fun beyond => ?_⟩
  · intro checked renames result
    rw [chosen]
    exact ends_of_usable within passed usable
  · intro renames result
    have ends := @ends_of_unusable binds p renames result
      fun j hj => passed j (Nat.lt_of_lt_of_le hj beyond)
    exact ⟨ends.1, ends.2 renames result⟩

/-- As many undefined numbers under the first candidates as there are numbers for: the next candidate
is free, and the search does not get there. It fails, or returns a name that is no candidate. -/
theorem not_found_without_number :
    let v : Value := .float ⟨0x7ff8000000000000⟩
    let p : Param := ⟨"id", v⟩
    let binds := candidateBinds "id" v room
    binds.length = room ∧ candidateName "id" room = "id_2147483648" ∧
      isUsable binds v "id_2147483648" = true ∧
      (∀ j < room, isUsable binds v (candidateName "id" j) = false) ∧
      ∀ renames result,
        (Ends true binds p (start p) renames result ↔ renames + 1 = room ∧ result = none) ∧
        (Ends false binds p (start p) renames result ↔
          renames = room ∧ result = some "id_-2147483648") := by
  intro v p binds
  have undefined : ¬ v.Defined := by
    rw [Value.defined_float]
    decide
  have next : candidateName "id" room = "id_2147483648" := by decide +kernel
  have passed : ∀ j < room, isUsable binds v (candidateName "id" j) = false :=
    fun _ => not_isUsable_candidateBinds undefined
  have free : isUsable binds v (candidateName "id" room) = true :=
    (isUsable_candidateBinds undefined).2 (Nat.le_refl room)
  have least : isUsable binds v "id_-2147483648" = true :=
    isUsable_of_notMem v least_notMem_candidateBinds
  have found : round false binds p ⟨Int32.minValue, "id_-2147483648"⟩ =
      some (.inl "id_-2147483648") := round_of_isUsable least
  refine ⟨by simp [binds, candidateBinds], next, next ▸ free, passed, fun renames result => ?_⟩
  obtain ⟨checks, wraps⟩ := @ends_of_unusable binds p renames result passed
  exact ⟨checks, wraps.ends_iff fun _ _ => ends_iff_of_found found⟩

/-- The bound on renames is met: however often a value that does not equal itself was written under
one name, it takes as many renames as there are binds to write it again. -/
theorem ends_append_replicate {v : Value} (h : ¬ v.Defined) (name : String) {count : Nat}
    (within : count < room) (checked : Bool) :
    let r := Rendering.append { dialect := .named } (List.replicate count (.param ⟨name, v⟩))
    r.binds.length = count ∧
      Ends checked r.binds ⟨name, v⟩ (.start ⟨name, v⟩) r.binds.length
        (some (candidateName name count)) := by
  intro r
  have length : r.binds.length = count := by simp [r, binds_append_replicate h, candidateBinds]
  refine ⟨length, ?_⟩
  rw [length, binds_append_replicate h]
  exact (ends_of_usable (p := ⟨name, v⟩) within
    (fun _ => not_isUsable_candidateBinds h)
    ((isUsable_candidateBinds h).2 (Nat.le_refl count))).2 ⟨rfl, rfl⟩

end NameSearch

end Rowset
