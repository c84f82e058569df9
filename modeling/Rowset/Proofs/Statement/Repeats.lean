import Rowset.Proofs.Statement.Dialects
import Rowset.Proofs.Value.Equality

/-!
# Parameters written again

A name once bound keeps its value, so a candidate that was taken by another value stays taken. A
parameter that is written again therefore gets the name that it got before, however many parameters
stand in between and whatever names they ask for, and nothing more is bound. The value must equal
itself for this: an undefined number is taken for another value each time, and gets a name of its own.
Dialects that count their binds never share one, and bind every parameter again.
-/

namespace Rowset

open Rowset.Text

/-! ## Names that stay -/

variable {binds : List Bind} {p : Param} {name : String}

theorem boundValue?_append_of_mem (h : name ∈ boundNames binds) (more : List Bind) :
    boundValue? (binds ++ more) name = boundValue? binds name := by
  rw [boundValue?, boundValue?, List.find?_append, Option.or_of_isSome (isSome_find?_iff.2 h)]

theorem isUsable_append_of_mem (h : name ∈ boundNames binds) (v : Value) (more : List Bind) :
    isUsable (binds ++ more) v name = isUsable binds v name := by
  rw [isUsable, isUsable, boundValue?_append_of_mem h]

theorem isUsable_append_of_eq_false {v : Value} (h : isUsable binds v name = false)
    (more : List Bind) : isUsable (binds ++ more) v name = false := by
  rwa [isUsable_append_of_mem (mem_boundNames_of_not_isUsable h)]

/-- More binds do not change the choice as long as the name stays usable. -/
theorem bindName_append {more : List Bind}
    (h : isUsable (binds ++ more) p.value (bindName binds p) = true) :
    bindName (binds ++ more) p = bindName binds p := by
  obtain ⟨k, -, chosen, -, first⟩ := exists_bindName_eq binds p
  rw [chosen] at h ⊢
  exact bindName_eq_candidateName h fun j hj => isUsable_append_of_eq_false (first j hj) more

/-- The name of a parameter is settled: it is bound, and the parameter would get it again. -/
structure Settled (binds : List Bind) (p : Param) (name : String) : Prop where
  bound : name ∈ boundNames binds
  chosen : bindName binds p = name

namespace Settled

/-- What is settled stays so. -/
theorem append (h : Settled binds p name) (more : List Bind) : Settled (binds ++ more) p name := by
  obtain ⟨bound, rfl⟩ := h
  refine ⟨?_, bindName_append ?_⟩
  · rw [boundNames, List.map_append]
    exact List.mem_append_left _ bound
  · rw [isUsable_append_of_mem bound]
    exact isUsable_bindName binds p

/-- A defined value settles its name by being bound. -/
theorem bindOnce (binds : List Bind) (h : p.value.Defined) :
    Settled (Rendering.bindOnce binds (bindName binds p) p.value) p (bindName binds p) := by
  by_cases bound : bindName binds p ∈ boundNames binds
  · rw [Rendering.bindOnce_of_mem bound]
    exact ⟨bound, rfl⟩
  · -- The free name is now bound to the very value that asks for it.
    have value : boundValue? (binds ++ [⟨bindName binds p, p.value⟩]) (bindName binds p) =
        some p.value := by
      have free : (binds.find? fun b => b.name == bindName binds p) = none :=
        Option.map_eq_none_iff.1 (boundValue?_eq_none_iff.2 bound)
      simp [boundValue?, List.find?_append, free]
    rw [Rendering.bindOnce_of_notMem bound]
    refine ⟨?_, bindName_append ?_⟩
    · simp [boundNames]
    · rw [isUsable, value]
      exact p.value.eqv_self_iff.2 h

end Settled

/-! ## Renderings that would repeat themselves -/

namespace Rendering

variable {r : Rendering}

theorem exists_binds_param (h : r.dialect = .named) (p : Param) :
    ∃ more, (r.param p).binds = r.binds ++ more := by
  rw [binds_param_of_named h]
  by_cases bound : bindName r.binds p ∈ boundNames r.binds
  · rw [bindOnce_of_mem bound]
    exact ⟨[], (List.append_nil _).symm⟩
  · rw [bindOnce_of_notMem bound]
    exact ⟨_, rfl⟩

/-- The names of all placeholders are settled. -/
structure Steady (r : Rendering) : Prop where
  named : r.dialect = .named
  settled : ∀ o ∈ r.occurrences, Settled r.binds o.param o.name

namespace Steady

theorem empty : Steady { dialect := .named } := ⟨rfl, fun _ h => nomatch h⟩

theorem text (h : r.Steady) (s : String) : (r.text s).Steady :=
  ⟨h.named, by simpa using h.settled⟩

theorem param (h : r.Steady) {p : Param} (defined : p.value.Defined) : (r.param p).Steady := by
  refine ⟨by rw [dialect_param, h.named], forall_mem_occurrences_param.2 ⟨fun o ho => ?_, ?_⟩⟩
  · obtain ⟨more, binds_eq⟩ := exists_binds_param h.named p
    rw [binds_eq]
    exact (h.settled o ho).append more
  · rw [binds_param_of_named h.named, h.named]
    exact .bindOnce r.binds defined

theorem append (h : r.Steady) {t : Template} (defined : ∀ p ∈ t.params, p.value.Defined) :
    (r.append t).Steady := by
  induction t generalizing r with
  | nil => exact h
  | cons part parts ih =>
    cases part with
    | text s => exact ih (h.text s) defined
    | param p =>
      obtain ⟨first, rest⟩ := List.forall_mem_cons.1 defined
      exact ih (h.param first) rest

end Steady

/-- Parameters with settled names are written under these names, and nothing is bound. -/
theorem append_of_settled (h : r.dialect = .named) {t : Template} {names : List String}
    (settled : List.Forall₂ (Settled r.binds) t.params names) :
    (r.append t).binds = r.binds ∧ (r.append t).usedNames = r.usedNames ++ names := by
  induction t generalizing r names with
  | nil =>
    obtain rfl := List.forall₂_nil_left_iff.1 settled
    exact ⟨rfl, (List.append_nil _).symm⟩
  | cons part parts ih =>
    cases part with
    | text s => simpa [Rendering.part, usedNames] using ih (r := r.text s) h settled
    | param p =>
      obtain ⟨name, others, ⟨bound, chosen⟩, rest, rfl⟩ := List.forall₂_cons_left_iff.1 settled
      have binds_eq : (r.param p).binds = r.binds := by
        rw [binds_param_of_named h, chosen, bindOnce_of_mem bound]
      obtain ⟨binds, names⟩ := ih (r := r.param p) (by rwa [dialect_param]) (by rwa [binds_eq])
      refine ⟨binds.trans binds_eq, names.trans ?_⟩
      simp [usedNames, h, chosen]

end Rendering

/-! ## Templates one after another -/

namespace Template

/-- The placeholders of the first template stay in front. -/
theorem exists_placeholders_append (dialect : Dialect) (t u : Template) :
    ∃ further, further.length = u.params.length ∧
      (t ++ u).placeholders dialect = t.placeholders dialect ++ further := by
  obtain ⟨occurrences, written⟩ := (t.rendering dialect).exists_occurrences_append u
  have both : (t ++ u).placeholders dialect =
      t.placeholders dialect ++ occurrences.map (Occurrence.placeholder dialect) := by
    rw [placeholders, rendering, Rendering.append_append, ← rendering, written, List.map_append]
    rfl
  refine ⟨_, ?_, both⟩
  have lengths := congrArg List.length both
  rw [List.length_append, length_placeholders, length_placeholders, params_append,
    List.length_append] at lengths
  exact (Nat.add_left_cancel lengths).symm

variable {t u : Template} {further : List String}

theorem further_positional
    (h : (t ++ u).placeholders .positional = t.placeholders .positional ++ further) :
    further = u.params.map fun _ => "?" := by
  rw [placeholders_positional, placeholders_positional, params_append, List.map_append] at h
  exact (List.append_cancel_left h).symm

/-- The numbers of the second template go on from those of the first. -/
theorem further_numbered
    (h : (t ++ u).placeholders .numbered = t.placeholders .numbered ++ further) :
    further = (List.range u.params.length).map
      fun i => "$" ++ Decimal.natText (t.params.length + i + 1) := by
  rw [placeholders_numbered, placeholders_numbered, params_append, List.length_append,
    List.range_add, List.map_append, List.map_map] at h
  exact (List.append_cancel_left h).symm

/-- Where the second template has the parameters of the first once more, it repeats the names and
binds nothing. -/
theorem render_named_append (defined : ∀ p ∈ t.params, p.value.Defined)
    (again : u.params = t.params) :
    ((t ++ u).render .named).binds = (t.render .named).binds ∧
      (t ++ u).chosenNames = t.chosenNames ++ t.chosenNames := by
  -- The first template settles all its names, so the second one only has to look them up.
  have steady : (t.rendering .named).Steady := Rendering.Steady.empty.append defined
  have settled : List.Forall₂ (Settled (t.rendering .named).binds) u.params t.chosenNames := by
    rw [again, t.params_eq_occurrences .named, chosenNames, Rendering.usedNames,
      List.forall₂_map_left_iff, List.forall₂_map_right_iff, List.forall₂_same]
    exact steady.settled
  have both : (t ++ u).rendering .named = (t.rendering .named).append u :=
    Rendering.append_append _ t u
  obtain ⟨binds, names⟩ := Rendering.append_of_settled steady.named settled
  rw [← both] at binds names
  exact ⟨binds, names⟩

theorem further_named (defined : ∀ p ∈ t.params, p.value.Defined) (again : u.params = t.params)
    (h : (t ++ u).placeholders .named = t.placeholders .named ++ further) :
    further = t.placeholders .named := by
  obtain ⟨-, names⟩ := render_named_append defined again
  rw [placeholders_named (t ++ u), names, List.map_append, ← placeholders_named] at h
  exact (List.append_cancel_left h).symm

/-- Where binds are counted, the parameters are bound a second time. -/
theorem binds_render_append {dialect : Dialect} (h : dialect ≠ .named)
    (again : u.params = t.params) : ((t ++ u).render dialect).binds =
      (t.render dialect).binds ++ (t.render dialect).binds := by
  rw [binds_render_of_not_named _ h, binds_render_of_not_named _ h, params_append, again,
    List.map_append]

/-- How parameters are written twice: the placeholders of either time, and what is bound after the
first time and after the second. -/
def Repeats (params : List Param) (once twice : List Bind) (first second : List String) :
    Dialect → Prop
  | .named =>
    (∃ names, first = names.map (fun name => ":" ++ name) ∧
      List.Forall₂ (fun p name => ResolvesTo once p.value name) params names) ∧
    ((∀ p ∈ params, p.value.Defined) → second = first ∧ twice = once)
  | .positional =>
    first = params.map (fun _ => "?") ∧ second = first ∧
    once = params.map Param.bind ∧ twice = once ++ once
  | .numbered =>
    first = (List.range params.length).map (fun i => "$" ++ Decimal.natText (i + 1)) ∧
    second = (List.range params.length).map
      (fun i => "$" ++ Decimal.natText (params.length + i + 1)) ∧
    once = params.map Param.bind ∧ twice = once ++ once

theorem repeats_append {dialect : Dialect} (again : u.params = t.params)
    (h : (t ++ u).placeholders dialect = t.placeholders dialect ++ further) :
    Repeats t.params (t.render dialect).binds ((t ++ u).render dialect).binds
      (t.placeholders dialect) further dialect := by
  cases dialect with
  | named =>
    refine ⟨⟨t.chosenNames, t.placeholders_named, t.resolvesTo_chosenNames⟩, fun defined => ?_⟩
    exact ⟨further_named defined again h, (render_named_append defined again).1⟩
  | positional =>
    refine ⟨t.placeholders_positional, ?_, t.binds_render_of_not_named nofun,
      binds_render_append nofun again⟩
    rw [further_positional h, again, t.placeholders_positional]
  | numbered =>
    refine ⟨t.placeholders_numbered, ?_, t.binds_render_of_not_named nofun,
      binds_render_append nofun again⟩
    rw [further_numbered h, again]

end Template

end Rowset
