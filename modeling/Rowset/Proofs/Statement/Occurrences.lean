import Rowset.Proofs.Statement.Names

/-!
# What a rendering has written

A rendering is seen in three ways: as the template that it has rendered so far, as the occurrences
of parameters in it, each with the name chosen for its placeholder, and as its binds. The text is
made of the first two alone: the fixed texts of the template with the placeholders of the
occurrences between them. So dialects and binds can only differ in placeholders, never in the text
around them.
-/

namespace Rowset

open Rowset.Text

/-! ## Texts and placeholders -/

/-- Texts with placeholders between them: a text, a placeholder, a text, and so on. -/
def interleave : List String → List String → String
  | [], _ => ""
  | text :: _, [] => text
  | text :: texts, placeholder :: placeholders =>
    text ++ placeholder ++ interleave texts placeholders

theorem interleave_modifyHead {texts : List String} (h : texts ≠ []) (s : String)
    (placeholders : List String) :
    interleave (texts.modifyHead (s ++ ·)) placeholders = s ++ interleave texts placeholders := by
  cases texts with
  | nil => exact absurd rfl h
  | cons text texts => cases placeholders <;> simp [interleave, String.append_assoc]

namespace Template

/-- The fixed texts of a template: before the first parameter, between neighbouring ones, and after
the last. -/
def texts : Template → List String
  | [] => [""]
  | .text s :: parts => (texts parts).modifyHead (s ++ ·)
  | .param _ :: parts => "" :: texts parts

@[simp] theorem length_texts (t : Template) : t.texts.length = t.params.length + 1 := by
  induction t with
  | nil => rfl
  | cons part parts ih => cases part <;> simp [texts, ih]

theorem texts_ne_nil (t : Template) : t.texts ≠ [] := by
  intro h
  have := t.length_texts
  simp [h] at this

end Template

/-! ## Occurrences -/

/-- A parameter in a rendered text: the name chosen for its placeholder, and how many binds there
were before. -/
structure Occurrence where
  name : String
  index : Nat
  param : Param

namespace Occurrence

def placeholder (dialect : Dialect) (o : Occurrence) : String := dialect.placeholder o.name o.index

/-- The occurrence that a parameter makes after some binds. -/
def next (dialect : Dialect) (binds : List Bind) (p : Param) : Occurrence :=
  ⟨if dialect.bindsByName then bindName binds p else p.name, binds.length, p⟩

@[simp] theorem index_next (dialect : Dialect) (binds : List Bind) (p : Param) :
    (next dialect binds p).index = binds.length := rfl

@[simp] theorem param_next (dialect : Dialect) (binds : List Bind) (p : Param) :
    (next dialect binds p).param = p := rfl

@[simp] theorem name_next_named (binds : List Bind) (p : Param) :
    (next .named binds p).name = bindName binds p := rfl

end Occurrence

namespace Piece

/-- What the piece renders. -/
def part : Piece → Part
  | .text s => .text s
  | .slot _ _ p => .param p

def occurrence? : Piece → Option Occurrence
  | .text _ => none
  | .slot name index p => some ⟨name, index, p⟩

end Piece

namespace Rendering

/-- The template rendered so far. -/
def template (r : Rendering) : Template := r.pieces.map Piece.part

/-- The occurrences of parameters written so far. -/
def occurrences (r : Rendering) : List Occurrence := r.pieces.filterMap Piece.occurrence?

/-! ## What a step writes -/

@[simp] theorem template_text (r : Rendering) (s : String) :
    (r.text s).template = r.template ++ [.text s] := by simp [template, text, Piece.part]

@[simp] theorem template_param (r : Rendering) (p : Param) :
    (r.param p).template = r.template ++ [.param p] := by
  unfold param
  split <;> simp [template, Piece.part]

@[simp] theorem occurrences_text (r : Rendering) (s : String) :
    (r.text s).occurrences = r.occurrences := by simp [occurrences, text, Piece.occurrence?]

@[simp] theorem occurrences_param (r : Rendering) (p : Param) :
    (r.param p).occurrences = r.occurrences ++ [.next r.dialect r.binds p] := by
  unfold param
  split
  next named => simp [occurrences, Piece.occurrence?, Occurrence.next, named]
  next counted => simp [occurrences, Piece.occurrence?, Occurrence.next, counted]

/-- What holds of all occurrences holds of those before and of the new one. -/
theorem forall_mem_occurrences_param {r : Rendering} {p : Param} {holds : Occurrence → Prop} :
    (∀ o ∈ (r.param p).occurrences, holds o) ↔
      (∀ o ∈ r.occurrences, holds o) ∧ holds (.next r.dialect r.binds p) := by
  rw [occurrences_param, List.forall_mem_append, List.forall_mem_singleton]

@[simp] theorem binds_text (r : Rendering) (s : String) : (r.text s).binds = r.binds := rfl

@[simp] theorem dialect_text (r : Rendering) (s : String) : (r.text s).dialect = r.dialect := rfl

@[simp] theorem dialect_param (r : Rendering) (p : Param) : (r.param p).dialect = r.dialect := by
  unfold param
  split <;> rfl

theorem binds_param_of_named {r : Rendering} (h : r.dialect = .named) (p : Param) :
    (r.param p).binds = bindOnce r.binds (bindName r.binds p) p.value := by
  simp [param, h, Dialect.bindsByName]

theorem binds_param_of_not_named {r : Rendering} (h : r.dialect ≠ .named) (p : Param) :
    (r.param p).binds = r.binds ++ [⟨p.name, p.value⟩] := by
  cases hd : r.dialect with
  | named => exact absurd hd h
  | positional => simp [param, hd, Dialect.bindsByName]
  | numbered => simp [param, hd, Dialect.bindsByName]

/-! ## What a run writes -/

@[simp] theorem template_append (r : Rendering) (t : Template) :
    (r.append t).template = r.template ++ t := by
  induction t generalizing r with
  | nil => simp
  | cons part parts ih => cases part <;> simp [Rendering.part, ih]

@[simp] theorem dialect_append (r : Rendering) (t : Template) :
    (r.append t).dialect = r.dialect := by
  induction t generalizing r with
  | nil => rfl
  | cons part parts ih => cases part <;> simp [Rendering.part, ih]

/-- What was written before stays in front. -/
theorem exists_occurrences_append (r : Rendering) (t : Template) :
    ∃ further, (r.append t).occurrences = r.occurrences ++ further := by
  induction t generalizing r with
  | nil => exact ⟨[], (List.append_nil _).symm⟩
  | cons part parts ih =>
    cases part with
    | text s =>
      obtain ⟨further, written⟩ := ih (r.text s)
      exact ⟨further, by rwa [occurrences_text] at written⟩
    | param p =>
      obtain ⟨further, written⟩ := ih (r.param p)
      rw [occurrences_param, List.append_assoc] at written
      exact ⟨_, written⟩

/-- The occurrences are those of the template's parameters, in their order. -/
theorem params_template (r : Rendering) :
    r.template.params = r.occurrences.map Occurrence.param := by
  unfold template occurrences
  induction r.pieces with
  | nil => rfl
  | cons piece pieces ih =>
    cases piece with
    | text s => exact ih
    | slot name index p => exact congrArg (p :: ·) ih

/-- The text is the template's, with the placeholders of the occurrences between. -/
theorem sql_eq_interleave (r : Rendering) :
    r.sql = interleave r.template.texts (r.occurrences.map (Occurrence.placeholder r.dialect)) := by
  unfold sql template occurrences
  induction r.pieces with
  | nil => rfl
  | cons piece pieces ih =>
    cases piece with
    | text s =>
      simp only [List.map_cons, String.join_cons, ih]
      exact (interleave_modifyHead (Template.texts_ne_nil _) s _).symm
    | slot name index p =>
      simp only [List.map_cons, String.join_cons, ih]
      simp [Piece.part, Piece.occurrence?, Template.texts, interleave, Piece.print,
        Occurrence.placeholder]

end Rendering

end Rowset
