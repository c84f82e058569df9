import Mathlib.Data.List.Induction
import Rowset.Proofs.Statement.Occurrences

/-!
# Sound renderings

A rendering with named binds is sound when no name is bound twice, the names stand in the order in
which placeholders use them first, and every placeholder's name is bound to a value that is as good
as the parameter's own. A step keeps a rendering sound, whichever name its parameter asks for: the
name chosen is free, and then the parameter's value goes under it, or it is bound to an equal value.
-/

namespace Rowset

/-- A bind carries a value if it holds that very value or one that equals it. The two differ: a
number may equal another one, and an undefined number does not equal itself. -/
def Bind.Carries (b : Bind) (v : Value) : Prop := b.value = v ∨ b.value.eqv v = true

/-- A name resolves to a value when it belongs to exactly one bind and that bind carries the
value. -/
def ResolvesTo (binds : List Bind) (v : Value) (name : String) : Prop :=
  ∃ b, (binds.filter fun b => b.name == name) = [b] ∧ b.Carries v

/-! ## Distinct names -/

theorem filter_name_eq_singleton {binds : List Bind} (distinct : (boundNames binds).Nodup)
    {b : Bind} (h : b ∈ binds) : (binds.filter fun c => c.name == b.name) = [b] := by
  induction binds with
  | nil => cases h
  | cons c binds ih =>
    obtain ⟨hc, hbinds⟩ := List.nodup_cons.1 distinct
    rcases List.mem_cons.1 h with rfl | h
    · have others : ∀ d ∈ binds, (d.name == b.name) = false := by
        intro d hd
        simp only [beq_eq_false_iff_ne]
        exact fun same => hc (mem_boundNames.2 ⟨d, hd, same⟩)
      simpa [List.filter_eq_nil_iff] using fun d hd => by simpa using others d hd
    · have ne : (c.name == b.name) = false := by
        simp only [beq_eq_false_iff_ne]
        exact fun same => hc (mem_boundNames.2 ⟨b, h, same.symm⟩)
      rw [List.filter_cons, ne]
      exact ih hbinds h

theorem eraseDups_concat_of_mem {names : List String} {name : String} (h : name ∈ names) :
    (names ++ [name]).eraseDups = names.eraseDups := by
  simp [List.eraseDups_append, List.removeAll, h]

theorem eraseDups_concat_of_notMem {names : List String} {name : String} (h : name ∉ names) :
    (names ++ [name]).eraseDups = names.eraseDups ++ [name] := by
  simp [List.eraseDups_append, List.removeAll, h, List.eraseDups_cons]

theorem nodup_eraseDups (names : List String) : names.eraseDups.Nodup := by
  induction names using List.reverseRecOn with
  | nil => simp
  | append_singleton names name ih =>
    by_cases h : name ∈ names
    · rwa [eraseDups_concat_of_mem h]
    · rw [eraseDups_concat_of_notMem h]
      exact List.nodup_append.2 ⟨ih, List.nodup_singleton _, fun a ha b hb same => by
        rw [List.mem_singleton] at hb
        exact h (hb ▸ same ▸ List.mem_eraseDups.1 ha)⟩

namespace Rendering

theorem bindOnce_of_mem {binds : List Bind} {name : String} (h : name ∈ boundNames binds)
    (v : Value) : bindOnce binds name v = binds := by
  obtain ⟨b, hb, hname⟩ := mem_boundNames.1 h
  simp only [bindOnce, ite_eq_left_iff, List.any_eq_true, beq_iff_eq]
  exact fun free => absurd ⟨b, hb, hname⟩ free

theorem bindOnce_of_notMem {binds : List Bind} {name : String} (h : name ∉ boundNames binds)
    (v : Value) : bindOnce binds name v = binds ++ [⟨name, v⟩] := by
  simp only [bindOnce, ite_eq_right_iff, List.any_eq_true, beq_iff_eq]
  rintro ⟨b, hb, hname⟩
  exact absurd (mem_boundNames.2 ⟨b, hb, hname⟩) h

/-! ## The invariant -/

/-- The names that placeholders use, in the order of the text. -/
def usedNames (r : Rendering) : List String := r.occurrences.map Occurrence.name

structure Sound (r : Rendering) : Prop where
  named : r.dialect = .named
  /-- Names are bound once, in the order of their first placeholders. -/
  names_eq : boundNames r.binds = r.usedNames.eraseDups
  /-- Placeholders use names of binds that carry their parameters' values. -/
  carried : ∀ o ∈ r.occurrences, ∃ b ∈ r.binds, b.name = o.name ∧ b.Carries o.param.value

namespace Sound

variable {r : Rendering}

theorem empty : Sound { dialect := .named } := ⟨rfl, rfl, fun _ h => nomatch h⟩

theorem distinct (h : r.Sound) : (boundNames r.binds).Nodup := h.names_eq ▸ nodup_eraseDups _

theorem mem_boundNames_iff (h : r.Sound) {name : String} :
    name ∈ boundNames r.binds ↔ name ∈ r.usedNames := by
  rw [h.names_eq, List.mem_eraseDups]

/-- The name of a placeholder resolves to the value of its parameter. -/
theorem resolvesTo (h : r.Sound) {o : Occurrence} (ho : o ∈ r.occurrences) :
    ResolvesTo r.binds o.param.value o.name := by
  obtain ⟨b, hb, hname, hcarries⟩ := h.carried o ho
  exact ⟨b, hname ▸ filter_name_eq_singleton h.distinct hb, hcarries⟩

/-- Every bind is named by a placeholder. -/
theorem exists_occurrence (h : r.Sound) {b : Bind} (hb : b ∈ r.binds) :
    ∃ o ∈ r.occurrences, o.name = b.name := by
  have used := h.mem_boundNames_iff.1 (mem_boundNames.2 ⟨b, hb, rfl⟩)
  exact List.mem_map.1 used

/-! ## Steps -/

theorem text (h : r.Sound) (s : String) : (r.text s).Sound where
  named := h.named
  names_eq := by simpa [usedNames] using h.names_eq
  carried := by simpa using h.carried

/-- A name that is bound already is usable only for an equal value, so nothing new is bound. -/
theorem param_of_mem (h : r.Sound) {p : Param} (bound : bindName r.binds p ∈ boundNames r.binds) :
    (r.param p).Sound := by
  have binds_eq : (r.param p).binds = r.binds := by
    rw [binds_param_of_named h.named, bindOnce_of_mem bound]
  refine ⟨by simpa using h.named, ?_, ?_⟩
  · rw [binds_eq, h.names_eq]
    have used := h.mem_boundNames_iff.1 bound
    simpa [usedNames, h.named] using (eraseDups_concat_of_mem used).symm
  · rw [binds_eq, forall_mem_occurrences_param, h.named]
    obtain ⟨b, hb, hname, heq⟩ := exists_eqv_of_isUsable (isUsable_bindName r.binds p) bound
    exact ⟨h.carried, b, hb, hname, .inr heq⟩

/-- A name that is free takes the parameter's own value. -/
theorem param_of_notMem (h : r.Sound) {p : Param}
    (free : bindName r.binds p ∉ boundNames r.binds) : (r.param p).Sound := by
  have binds_eq : (r.param p).binds = r.binds ++ [⟨bindName r.binds p, p.value⟩] := by
    rw [binds_param_of_named h.named, bindOnce_of_notMem free]
  refine ⟨by simpa using h.named, ?_, ?_⟩
  · have unused : bindName r.binds p ∉ r.usedNames := fun used => free (h.mem_boundNames_iff.2 used)
    rw [binds_eq]
    have names_eq := h.names_eq
    simp only [boundNames] at names_eq
    simpa [usedNames, h.named, boundNames, names_eq] using (eraseDups_concat_of_notMem unused).symm
  · rw [binds_eq, forall_mem_occurrences_param, h.named]
    refine ⟨fun o ho => ?_, _, List.mem_append_right _ (List.mem_singleton_self _), rfl, .inl rfl⟩
    obtain ⟨b, hb, hname, hcarries⟩ := h.carried o ho
    exact ⟨b, List.mem_append_left _ hb, hname, hcarries⟩

theorem param (h : r.Sound) (p : Param) : (r.param p).Sound := by
  by_cases bound : bindName r.binds p ∈ boundNames r.binds
  · exact h.param_of_mem bound
  · exact h.param_of_notMem bound

/-! ## Runs -/

theorem append (h : r.Sound) (t : Template) : (r.append t).Sound := by
  induction t generalizing r with
  | nil => exact h
  | cons part parts ih =>
    cases part with
    | text s => exact ih (h.text s)
    | param p => exact ih (h.param p)

end Sound

end Rendering

end Rowset
