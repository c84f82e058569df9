import Rowset.Proofs.Sql.Texts
import Rowset.Proofs.Statement.Dialects
import Rowset.Store.Binding

/-!
# Values under their parameters

A rendering with named binds gives every assignment a placeholder, which may share its bind with
others or be renamed. Where names are words, these placeholders are parameters of the text, every
bind goes to one of them, and the store reads back from a placeholder the stored form of its own
assignment's value.
-/

namespace Rowset

open Rowset.Sql Rowset.Text

/-! ## Values that are bound for themselves alone -/

/-- A value is discrete if nothing but itself equals it, so that sharing its bind keeps it. -/
def Value.Discrete (v : Value) : Prop := ∀ w : Value, w.eqv v = true → w = v

/-- Values that are compared as what they are. Floating-point numbers and documents are not. -/
def Value.isPlain : Value → Bool
  | .float _ | .json _ => false
  | _ => true

theorem Value.discrete_of_isPlain {v : Value} (h : v.isPlain = true) : v.Discrete := by
  intro w same
  unfold eqv at same
  split at same <;> simp_all [isPlain]

theorem Value.Discrete.value_eq {v : Value} (h : v.Discrete) {b : Bind} (carries : b.Carries v) :
    b.value = v :=
  carries.elim id (h b.value)

/-! ## Parameters of the text -/

theorem isParameter_cons {name : String} : isParameter (":" ++ name) = true ↔
    name.toList ≠ [] ∧ ∀ c ∈ name.toList, isWordChar c = true := by
  simp [isParameter]

/-- A renamed parameter is a parameter still. -/
theorem isParameter_candidateName {name : String} (h : isParameter (":" ++ name) = true) (k : Nat) :
    isParameter (":" ++ candidateName name k) = true := by
  cases k with
  | zero => exact h
  | succ k =>
    obtain ⟨-, all⟩ := isParameter_cons.1 h
    rw [isParameter_cons, toList_candidateName_succ]
    refine ⟨by simp, fun c hc => ?_⟩
    rcases List.mem_append.1 hc with hc | hc
    · exact all c hc
    · rcases List.mem_cons.1 hc with rfl | hc
      · decide
      · simp [isWordChar, Decimal.isDigit_of_mem_ofNat hc]

/-- Every placeholder carries a candidate for its parameter's name. -/
theorem Rendering.exists_candidateName {r : Rendering} (named : r.dialect = .named)
    (h : ∀ o ∈ r.occurrences, ∃ k, o.name = candidateName o.param.name k) (t : Template) :
    ∀ o ∈ (r.append t).occurrences, ∃ k, o.name = candidateName o.param.name k := by
  induction t generalizing r with
  | nil => exact h
  | cons part t ih =>
    cases part with
    | text s => exact ih (r := r.text s) named (by simpa using h)
    | param p =>
      refine ih (r := r.param p) (by rwa [dialect_param]) (forall_mem_occurrences_param.2 ⟨h, ?_⟩)
      obtain ⟨k, -, name, -⟩ := exists_bindName_eq r.binds p
      rw [named]
      exact ⟨k, name⟩

/-- The value of a parameter is that of the only bind of its name. -/
theorem bindingOf_of_filter_name {binds : List Bind} {b : Bind} {name : String}
    (single : (binds.filter fun c => c.name == name) = [b]) :
    bindingOf binds (":" ++ name) = b.value.stored := by
  have same : ∀ c : Bind, (c.parameter == ":" ++ name) = (c.name == name) := by
    intro c
    rw [Bool.eq_iff_iff, beq_iff_eq, beq_iff_eq]
    exact String.append_right_inj _
  -- The last bind of a name counts, and there is only one.
  have found : (binds.reverse.find? fun c => c.parameter == ":" ++ name) = some b := by
    simp only [same]
    rw [← List.head?_filter, List.filter_reverse, single]
    rfl
  rw [bindingOf, found, Option.map_some, Option.getD_some]

/-- The value of a parameter is that of the bind that it resolves to. -/
theorem bindingOf_of_resolvesTo {binds : List Bind} {v : Value} {name : String}
    (h : ResolvesTo binds v name) (discrete : v.Discrete) :
    bindingOf binds (":" ++ name) = v.stored := by
  obtain ⟨b, single, carries⟩ := h
  rw [bindingOf_of_filter_name single, discrete.value_eq carries]

/-! ## Placed assignments -/

namespace Template

variable (t : Template) (list : List Assignment)

/-- A template's assignments with their placeholders in the rendering with named binds. -/
def placed : List Placed := list.zip (t.chosenNames.map fun name => ":" ++ name)

variable {t list} (params : t.params = list.map Assignment.param)
include params

theorem length_chosenNames : t.chosenNames.length = list.length := by
  rw [← t.resolvesTo_chosenNames.length_eq, params, List.length_map]

theorem map_fst_placed : (t.placed list).map Prod.fst = list :=
  List.map_fst_zip (by simp [length_chosenNames params])

theorem map_snd_placed : (t.placed list).map Prod.snd = t.chosenNames.map fun name => ":" ++ name :=
  List.map_snd_zip (by simp [length_chosenNames params])

theorem toList_sql_render :
    (t.render .named).sql.toList = t.filled ((t.placed list).map Prod.snd) := by
  rw [map_snd_placed params, sql_render_named]
  rfl

theorem exists_of_mem_placed {e : Placed} (h : e ∈ t.placed list) :
    ∃ o ∈ (t.rendering .named).occurrences, o.param = e.1.param ∧ ":" ++ o.name = e.2 := by
  have zip : (list.map Assignment.param).zip (t.chosenNames.map fun name => ":" ++ name) =
      (t.rendering .named).occurrences.map fun o => (o.param, ":" ++ o.name) := by
    rw [← params, t.params_eq_occurrences .named, chosenNames, Rendering.usedNames, List.map_map]
    exact List.zip_map'
  have mem : (e.1.param, e.2) ∈
      (t.rendering .named).occurrences.map fun o => (o.param, ":" ++ o.name) := by
    rw [← zip, List.zip_map_left]
    exact List.mem_map_of_mem (f := Prod.map Assignment.param id) h
  obtain ⟨o, ho, same⟩ := List.mem_map.1 mem
  exact ⟨o, ho, congrArg Prod.fst same, congrArg Prod.snd same⟩

theorem isParameter_placed (named : ∀ a ∈ list, isParameter (":" ++ a.param.name) = true)
    {e : Placed} (h : e ∈ t.placed list) : isParameter e.2 = true := by
  obtain ⟨o, ho, param, placeholder⟩ := exists_of_mem_placed params h
  obtain ⟨k, name⟩ := Rendering.exists_candidateName (r := { dialect := .named }) rfl
    (fun _ none => nomatch none) t o ho
  have mem : e.1 ∈ list := (List.of_mem_zip h).1
  rw [← placeholder, name, param]
  exact isParameter_candidateName (named _ mem) k

theorem bindingOf_placed (discrete : ∀ a ∈ list, a.param.value.Discrete) {e : Placed}
    (h : e ∈ t.placed list) : bindingOf (t.render .named).binds e.2 = e.1.param.value.stored := by
  obtain ⟨o, ho, param, placeholder⟩ := exists_of_mem_placed params h
  have sound : (t.rendering .named).Sound := Rendering.Sound.empty.append t
  have resolved := sound.resolvesTo ho
  rw [← placeholder, ← param]
  exact bindingOf_of_resolvesTo resolved (param ▸ discrete _ (List.of_mem_zip h).1)

/-- No bind is without a parameter to go to. -/
theorem bindAll_placed : bindAll ((t.placed list).map Prod.snd) (t.render .named).binds =
    .ok (bindingOf (t.render .named).binds) := by
  have sound : (t.rendering .named).Sound := Rendering.Sound.empty.append t
  have none : (t.render .named).binds.find?
      (fun b => !((t.placed list).map Prod.snd).contains b.parameter) = none := by
    refine List.find?_eq_none.2 fun b hb => ?_
    obtain ⟨o, ho, name⟩ := sound.exists_occurrence hb
    have used : b.parameter ∈ (t.placed list).map Prod.snd := by
      rw [map_snd_placed params, Bind.parameter, ← name]
      exact List.mem_map_of_mem (List.mem_map_of_mem ho)
    simpa using used
  rw [bindAll, none]

end Template

end Rowset
