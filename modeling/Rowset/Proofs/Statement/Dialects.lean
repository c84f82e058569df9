import Mathlib.Data.List.Forall2
import Rowset.Proofs.Statement.Run

/-!
# One statement in three dialects

The dialects write the same texts around the same parameters and differ in placeholders alone. Those
that count bind every parameter in turn, so that their binds are the parameters; the one that names
may share binds or rename them, but the name in a placeholder resolves to the value that the others
bind at its place. Without repeated names it has nothing to share or rename.
-/

namespace Rowset

open Rowset.Text

/-- The bind of a parameter under its own name. -/
def Param.bind (p : Param) : Bind := ⟨p.name, p.value⟩

namespace Rendering

/-! ## Counted binds -/

/-- Where binds are counted, every parameter is bound in turn. -/
theorem binds_append_of_not_named {r : Rendering} (h : r.dialect ≠ .named) (t : Template) :
    (r.append t).binds = r.binds ++ t.params.map Param.bind := by
  induction t generalizing r with
  | nil => simp
  | cons part parts ih =>
    cases part with
    | text s => exact ih (r := r.text s) h
    | param p =>
      have step := ih (r := r.param p) (by rwa [dialect_param])
      rw [binds_param_of_not_named h] at step
      simpa [Rendering.part, Param.bind] using step

/-- The number in a placeholder is that of its parameter. -/
theorem indices_append_of_not_named {r : Rendering} (h : r.dialect ≠ .named) (t : Template) :
    (r.append t).occurrences.map Occurrence.index =
      r.occurrences.map Occurrence.index ++ List.range' r.binds.length t.params.length := by
  induction t generalizing r with
  | nil => simp
  | cons part parts ih =>
    cases part with
    | text s => simpa [Rendering.part] using ih (r := r.text s) h
    | param p =>
      have step := ih (r := r.param p) (by rwa [dialect_param])
      rw [binds_param_of_not_named h] at step
      simpa [Rendering.part, List.range'_succ] using step

/-! ## Named binds -/

/-- Names that are all different, and not bound before, are bound as they are. -/
theorem binds_append_of_distinct {r : Rendering} (h : r.dialect = .named) {t : Template}
    (distinct : (boundNames r.binds ++ t.params.map Param.name).Nodup) :
    (r.append t).binds = r.binds ++ t.params.map Param.bind := by
  induction t generalizing r with
  | nil => simp
  | cons part parts ih =>
    cases part with
    | text s => exact ih (r := r.text s) h distinct
    | param p =>
      have free : p.name ∉ boundNames r.binds := fun bound =>
        (List.nodup_append.1 distinct).2.2 _ bound _ List.mem_cons_self rfl
      have binds_eq : (r.param p).binds = r.binds ++ [p.bind] := by
        rw [binds_param_of_named h, bindName_of_notMem free, bindOnce_of_notMem free]
        rfl
      have step := ih (r := r.param p) (by rwa [dialect_param])
        (by simpa [binds_eq, boundNames, Param.bind] using distinct)
      simpa [Rendering.part, binds_eq] using step

end Rendering

/-! ## Rendering a template on its own -/

namespace Template

/-- The rendering of a template on its own. -/
def rendering (dialect : Dialect) (t : Template) : Rendering :=
  ({ dialect } : Rendering).append t

variable (dialect : Dialect) (t : Template)

@[simp] theorem dialect_rendering : (t.rendering dialect).dialect = dialect := by simp [rendering]

@[simp] theorem template_rendering : (t.rendering dialect).template = t := by
  rw [rendering, Rendering.template_append]
  rfl

theorem params_eq_occurrences : t.params = (t.rendering dialect).occurrences.map Occurrence.param := by
  rw [← Rendering.params_template, template_rendering]

/-- The placeholders of a rendering, in order. -/
def placeholders : List String :=
  (t.rendering dialect).occurrences.map (Occurrence.placeholder dialect)

@[simp] theorem length_placeholders : (t.placeholders dialect).length = t.params.length := by
  rw [placeholders, t.params_eq_occurrences dialect, List.length_map, List.length_map]

theorem sql_render : (t.render dialect).sql = interleave t.texts (t.placeholders dialect) := by
  have text := (t.rendering dialect).sql_eq_interleave
  rwa [template_rendering, dialect_rendering] at text

theorem render_eq {dialect : Dialect} {t : Template} {sql : String} {binds : List Bind}
    (hsql : (t.render dialect).sql = sql) (hbinds : (t.render dialect).binds = binds) :
    t.render dialect = ⟨sql, binds⟩ := by
  subst hsql hbinds
  rfl

theorem binds_render_of_not_named {dialect : Dialect} (h : dialect ≠ .named) :
    (t.render dialect).binds = t.params.map Param.bind :=
  Rendering.binds_append_of_not_named (r := { dialect }) h t

theorem placeholders_positional : t.placeholders .positional = t.params.map fun _ => "?" := by
  rw [placeholders, t.params_eq_occurrences .positional, List.map_map]
  rfl

theorem render_positional : t.render .positional =
    ⟨interleave t.texts (t.params.map fun _ => "?"), t.params.map Param.bind⟩ := by
  apply render_eq
  · rw [sql_render, placeholders_positional]
  · exact t.binds_render_of_not_named nofun

theorem placeholders_numbered : t.placeholders .numbered =
    (List.range t.params.length).map fun i => "$" ++ Decimal.natText (i + 1) := by
  have indices : (t.rendering .numbered).occurrences.map Occurrence.index =
      List.range t.params.length := by
    rw [List.range_eq_range']
    exact Rendering.indices_append_of_not_named (r := { dialect := .numbered }) nofun t
  rw [placeholders, ← indices, List.map_map]
  rfl

theorem render_numbered : t.render .numbered =
    ⟨interleave t.texts ((List.range t.params.length).map fun i => "$" ++ Decimal.natText (i + 1)),
      t.params.map Param.bind⟩ := by
  apply render_eq
  · rw [sql_render, placeholders_numbered]
  · exact t.binds_render_of_not_named nofun

/-- The names in the placeholders of a rendering with named binds. -/
def chosenNames : List String := (t.rendering .named).usedNames

theorem placeholders_named :
    t.placeholders .named = t.chosenNames.map fun name => ":" ++ name := by
  rw [placeholders, chosenNames, Rendering.usedNames, List.map_map]
  rfl

theorem sql_render_named :
    (t.render .named).sql = interleave t.texts (t.chosenNames.map fun name => ":" ++ name) := by
  rw [sql_render, placeholders_named]

/-- The names in the placeholders resolve to the parameters' values, one by one. -/
theorem resolvesTo_chosenNames :
    List.Forall₂ (fun p name => ResolvesTo (t.render .named).binds p.value name)
      t.params t.chosenNames := by
  have sound : (t.rendering .named).Sound := Rendering.Sound.empty.append t
  rw [t.params_eq_occurrences .named, chosenNames, Rendering.usedNames, List.forall₂_map_left_iff,
    List.forall₂_map_right_iff, List.forall₂_same]
  exact fun o ho => sound.resolvesTo ho

theorem binds_render_named_of_distinct {t : Template} (distinct : (t.params.map Param.name).Nodup) :
    (t.render .named).binds = t.params.map Param.bind :=
  Rendering.binds_append_of_distinct rfl distinct

end Template

/-- A statement is the same in the three dialects but for its placeholders. Around the parameters
stand the same texts; positional and numbered placeholders come with a bind for each parameter, and
a named one with a name that resolves to its parameter's value. If no name is repeated, all three
bind the same. -/
theorem dialects_agree (s : StatementTree) :
    let texts := s.template.texts
    let render (dialect : Dialect) := s.template.render dialect
    texts.length = s.params.length + 1 ∧
      render .positional =
        ⟨interleave texts (s.params.map fun _ => "?"), s.params.map Param.bind⟩ ∧
      render .numbered =
        ⟨interleave texts
            ((List.range s.params.length).map fun i => "$" ++ Decimal.natText (i + 1)),
          s.params.map Param.bind⟩ ∧
      (∃ names, (render .named).sql = interleave texts (names.map fun name => ":" ++ name) ∧
        List.Forall₂ (fun p name => ResolvesTo (render .named).binds p.value name)
          s.params names) ∧
      ((s.params.map Param.name).Nodup → (render .named).binds = s.params.map Param.bind) := by
  rw [← s.params_template]
  refine ⟨s.template.length_texts, s.template.render_positional, s.template.render_numbered,
    ⟨s.template.chosenNames, s.template.sql_render_named, s.template.resolvesTo_chosenNames⟩,
    Template.binds_render_named_of_distinct⟩

/-- An update of a title and a cost, scoped by its key, repeats no name. -/
theorem dialects_agree_on_keyed_update :
    let s : StatementTree := .update
      { table := "rewards"
        assignments := [.of "title" "title" (.string "Hydrate"), .of "cost" "cost" (.int 0)]
        keys := [.of "id" "id" (.string "r1")] }
    (s.params.map Param.name).Nodup ∧
      (s.template.render .named).binds = s.params.map Param.bind :=
  ⟨by decide, (dialects_agree _).2.2.2.2 (by decide)⟩

end Rowset
