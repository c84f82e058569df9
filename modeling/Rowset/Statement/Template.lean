import Rowset.Value.Basic

/-!
# Statement templates

A template is a statement before anything is decided about its placeholders: pieces of fixed text
and, between them, the parameters in the order in which they will be bound. What a statement says is
settled here; how its placeholders look is settled when a template is rendered.
-/

namespace Rowset

/-- A bind parameter: the name it asks for and the value it carries. -/
structure Param where
  name : String
  value : Value

/-- A column with the parameter it is compared to or set from. -/
structure Assignment where
  column : String
  param : Param

namespace Assignment

def of (column param : String) (value : Value) : Assignment := ⟨column, ⟨param, value⟩⟩

end Assignment

/-- A piece of a template. -/
inductive Part where
  | text (s : String)
  | param (p : Param)

abbrev Template := List Part

namespace Template

/-- The parameters of a template, in order. -/
def params : Template → List Param
  | [] => []
  | .text _ :: parts => params parts
  | .param p :: parts => p :: params parts

@[simp] theorem params_nil : params [] = [] := rfl
@[simp] theorem params_text (s : String) (parts : Template) :
    params (.text s :: parts) = params parts := rfl
@[simp] theorem params_param (p : Param) (parts : Template) :
    params (.param p :: parts) = p :: params parts := rfl

@[simp] theorem params_append (s t : Template) : params (s ++ t) = params s ++ params t := by
  induction s with
  | nil => rfl
  | cons part parts ih => cases part <;> simp [ih]

/-- Templates one after another, with a separator between neighbours. -/
def joined (separator : String) : List Template → Template
  | [] => []
  | [t] => t
  | t :: u :: ts => t ++ .text separator :: joined separator (u :: ts)

@[simp] theorem params_joined (separator : String) (ts : List Template) :
    params (joined separator ts) = ts.flatMap params := by
  induction ts with
  | nil => rfl
  | cons t ts ih =>
    cases ts with
    | nil => simp [joined]
    | cons u ts => simp [joined, ih]

/-- A column, an operator and a placeholder. -/
def assignment (operator : String) (a : Assignment) : Template :=
  [.text a.column, .text operator, .param a.param]

/-- Assignments with a separator between neighbours. -/
def assignments (operator separator : String) (list : List Assignment) : Template :=
  joined separator (list.map (assignment operator))

@[simp] theorem params_assignment (operator : String) (a : Assignment) :
    params (assignment operator a) = [a.param] := rfl

@[simp] theorem params_assignments (operator separator : String) (list : List Assignment) :
    params (assignments operator separator list) = list.map Assignment.param := by
  induction list with
  | nil => rfl
  | cons a list ih => simp_all [assignments]

end Template

end Rowset
