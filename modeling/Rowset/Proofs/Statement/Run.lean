import Rowset.Proofs.Statement.Soundness
import Rowset.Statement.Filter
import Rowset.Statement.Insert
import Rowset.Statement.Update

/-!
# Runs of a rendering

Text, parameters, assignments and whole statements may be written into one rendering, in any order
and any number. Whatever the run, named binding is sound at its end: the placeholders stand for the
parameters that were written, every one resolves to its own parameter's value, and the binds are
those that the placeholders use and no others.
-/

namespace Rowset

/-! ## Statements -/

/-- A statement of one of the three forms. -/
inductive StatementTree where
  | filter (f : Filter)
  | insert (i : Insert)
  | update (u : Update)

/-- The assignments of the conflict clause, none where the clause is left out. -/
def Insert.conflictAssignments (i : Insert) : List Assignment :=
  match i.onConflict with
  | some c => if c.column = "" then [] else c.assignments
  | none => []

namespace StatementTree

def template : StatementTree → Template
  | .filter f => f.template
  | .insert i => i.template
  | .update u => u.template

/-- The parameters in the order of rendering: predicates; values, then those of the conflict clause;
what is set, then keys. -/
def params : StatementTree → List Param
  | .filter f => f.predicates.map Assignment.param
  | .insert i => (i.values ++ i.conflictAssignments).map Assignment.param
  | .update u => (u.assignments ++ u.keys).map Assignment.param

end StatementTree

theorem OnConflict.params_template (c : OnConflict) :
    c.template.params = (if c.column = "" then [] else c.assignments).map Assignment.param := by
  unfold OnConflict.template
  by_cases noColumn : c.column = ""
  · simp [noColumn]
  · by_cases noAssignments : c.assignments = []
    · simp [noAssignments]
    · simp [noColumn, noAssignments]

theorem Insert.params_template (i : Insert) :
    i.template.params = (i.values ++ i.conflictAssignments).map Assignment.param := by
  unfold Insert.template Insert.conflictAssignments
  cases i.onConflict with
  | none => simp
  | some c => simp [OnConflict.params_template]

@[simp] theorem StatementTree.params_template (s : StatementTree) :
    s.template.params = s.params := by
  cases s with
  | filter f => exact f.params_template
  | insert i => exact i.params_template
  | update u => simp [StatementTree.template, StatementTree.params]

/-! ## Operations -/

/-- Something to write into a rendering. -/
inductive Operation where
  | text (s : String)
  | param (p : Param)
  | assignment (operator : String) (a : Assignment)
  | assignments (operator separator : String) (list : List Assignment)
  | statement (s : StatementTree)

namespace Operation

def template : Operation → Template
  | .text s => [.text s]
  | .param p => [.param p]
  | .assignment operator a => .assignment operator a
  | .assignments operator separator list => .assignments operator separator list
  | .statement s => s.template

/-- The parameters that are written, in order. -/
def params : Operation → List Param
  | .text _ => []
  | .param p => [p]
  | .assignment _ a => [a.param]
  | .assignments _ _ list => list.map Assignment.param
  | .statement s => s.params

@[simp] theorem params_template (o : Operation) : o.template.params = o.params := by
  cases o <;> simp [template, params]

end Operation

namespace Rendering

def perform (r : Rendering) : Operation → Rendering
  | .text s => r.text s
  | .param p => r.param p
  | .assignment operator a => r.append (.assignment operator a)
  | .assignments operator separator list => r.append (.assignments operator separator list)
  | .statement s => r.append s.template

def run (r : Rendering) (operations : List Operation) : Rendering := operations.foldl perform r

theorem perform_eq_append (r : Rendering) (o : Operation) : r.perform o = r.append o.template := by
  cases o <;> rfl

/-- A run renders the templates of its operations one after another. -/
theorem run_eq_append (r : Rendering) (operations : List Operation) :
    r.run operations = r.append (operations.flatMap Operation.template) := by
  induction operations generalizing r with
  | nil => rfl
  | cons o operations ih =>
    rw [List.flatMap_cons, append_append, ← perform_eq_append]
    exact ih (r.perform o)

end Rendering

theorem Template.params_flatMap_template (operations : List Operation) :
    params (operations.flatMap Operation.template) = operations.flatMap Operation.params := by
  induction operations with
  | nil => rfl
  | cons o operations ih => simp [ih]

/-- Named binding is sound in every state that a run reaches. The text is that of the operations
with a placeholder `:name` for each of their parameters; names are bound once; the name in a
placeholder resolves to its own parameter's value; every bind is named by a placeholder, and binds
stand in the order in which the placeholders first name them. -/
theorem named_binding_sound (operations : List Operation) :
    let r := Rendering.run { dialect := .named } operations
    let texts := Template.texts (operations.flatMap Operation.template)
    r.sql = interleave texts (r.usedNames.map fun name => ":" ++ name) ∧
      r.occurrences.map Occurrence.param = operations.flatMap Operation.params ∧
      (r.binds.map Bind.name).Nodup ∧
      (∀ o ∈ r.occurrences, ResolvesTo r.binds o.param.value o.name) ∧
      (∀ b ∈ r.binds, ∃ o ∈ r.occurrences, o.name = b.name) ∧
      r.binds.map Bind.name = r.usedNames.eraseDups := by
  intro r texts
  have sound : r.Sound := by
    have start := Rendering.Sound.empty.append (operations.flatMap Operation.template)
    rwa [← Rendering.run_eq_append] at start
  have written : r.template = operations.flatMap Operation.template := by
    show (Rendering.run _ operations).template = _
    rw [Rendering.run_eq_append, Rendering.template_append]
    rfl
  refine ⟨?_, ?_, sound.distinct, fun _ => sound.resolvesTo, fun _ => sound.exists_occurrence,
    sound.names_eq⟩
  · rw [r.sql_eq_interleave, written, sound.named, Rendering.usedNames, List.map_map]
    rfl
  · rw [← r.params_template, written, Template.params_flatMap_template]

end Rowset
