import Rowset.Proofs.Sql.Texts
import Rowset.Proofs.Store.Parameters

/-!
# Conditions on rows

A clause of equalities holds of the rows whose cells equal the assigned values, all of them or one
as the clause's keyword has it. That is what is left of a condition once its columns are resolved
and its parameters have their values.
-/

namespace Rowset

open Rowset.Sql

namespace TableDef

/-- The place of a column that is there. -/
def place (d : TableDef) (column : String) : Nat := (d.column? column).getD 0

/-- The value of a row in a column. -/
def value (d : TableDef) (row : Row) (column : String) : SqlValue := cell row (d.place column)

/-- The column is there, and a statement can name it and a parameter for it. -/
def Serves (d : TableDef) (column param : String) : Prop :=
  isName column = true ∧ (d.column? column).isSome = true ∧ isParameter (":" ++ param) = true

instance (d : TableDef) (column param : String) : Decidable (d.Serves column param) :=
  inferInstanceAs (Decidable (_ ∧ _))

end TableDef

theorem TableDef.column?_eq {d : TableDef} {column : String}
    (h : (d.column? column).isSome = true) : d.column? column = some (d.place column) := by
  rw [place]
  exact (Option.some_get h).symm.trans (congrArg some (Option.get_eq_getD ..))

/-- A value that is present and no floating-point number: equality says just whether another value
is the same. -/
def SqlValue.isExact : SqlValue → Bool
  | .null | .real _ => false
  | _ => true

theorem SqlValue.equal?_eq_some_true_iff {a b : SqlValue} (h : b.isExact = true) :
    a.equal? b = some true ↔ a = b := by
  cases b with
  | null => cases h
  | real x => cases h
  | integer n => cases a <;> simp [equal?]
  | text s => cases a <;> simp [equal?]
  | blob bs => cases a <;> simp [equal?]

/-- A value that something equals also equals itself. -/
theorem SqlValue.equal?_self_of_equal? {a b : SqlValue} (h : a.equal? b = some true) :
    b.equal? b = some true := by
  cases b with
  | null => cases a <;> cases h
  | real x =>
    cases a with
    | real y =>
      have same : y.numEq x = true := by simpa [equal?] using h
      have number : x.isNaN = false := by
        simp only [Binary64.numEq, Bool.and_eq_true, Bool.not_eq_true'] at same
        exact same.1.2
      rw [equal?, Binary64.numEq_self number]
    | null => cases h
    | integer n | text s | blob bs => simp [equal?] at h
  | integer n | text s | blob bs => simp [equal?]

/-! ## Assignments and a table -/

namespace Assignment

variable (d : TableDef) (a : Assignment)

/-- The assignment can be written into a statement on the table and read back from it. -/
structure Fits : Prop where
  column : isName a.column = true
  known : (d.column? a.column).isSome = true
  parameter : isParameter (":" ++ a.param.name) = true
  discrete : a.param.value.Discrete

/-- What the assignment does to a cell. -/
def change : Nat × SqlValue := (d.place a.column, a.param.value.stored)

/-- Whether a row holds the value, as far as equality can tell. -/
def accepts (row : Row) : Bool := (d.value row a.column).equal? a.param.value.stored == some true

variable {d a}

theorem fits_of {column param : String} {value : Value} (serves : d.Serves column param)
    (plain : value.isPlain = true) : (Assignment.of column param value).Fits d :=
  ⟨serves.1, serves.2.1, serves.2.2, Value.discrete_of_isPlain plain⟩

theorem Fits.column?_eq (h : a.Fits d) : d.column? a.column = some (d.place a.column) :=
  TableDef.column?_eq h.known

end Assignment

/-- Whether a row holds the values of all assignments, or of one; without any, every row does. -/
def Joiner.accepts (j : Joiner) (d : TableDef) (list : List Assignment) (row : Row) : Bool :=
  match j with
  | .and => list.all fun a => a.accepts d row
  | .or => list.isEmpty || list.any fun a => a.accepts d row

/-! ## Lists of truths -/

section Lists

variable {α β : Type} {f : α → β} {p : α → Bool} {q : β → Bool} {list : List α}

theorem all_map_eq_all (h : ∀ a ∈ list, q (f a) = p a) : (list.map f).all q = list.all p := by
  rw [List.all_map, Bool.eq_iff_iff, List.all_eq_true, List.all_eq_true]
  exact forall₂_congr fun a ha => Bool.eq_iff_iff.1 (h a ha)

theorem any_map_eq_any (h : ∀ a ∈ list, q (f a) = p a) : (list.map f).any q = list.any p := by
  rw [List.any_map, Bool.eq_iff_iff, List.any_eq_true, List.any_eq_true]
  exact exists_congr fun a => and_congr_right fun ha => Bool.eq_iff_iff.1 (h a ha)

end Lists

theorem mapM_eq_pure_map {m : Type → Type} [Monad m] [LawfulMonad m] {α β : Type} {f : α → m β}
    {g : α → β} {list : List α} (h : ∀ a ∈ list, f a = pure (g a)) :
    list.mapM f = pure (list.map g) := by
  induction list with
  | nil => rfl
  | cons a list ih =>
    rw [List.mapM_cons, h a List.mem_cons_self, ih fun b hb => h b (List.mem_cons_of_mem a hb)]
    simp

/-! ## Truth -/

theorem conjunction_eq_some_true_iff {truths : List (Option Bool)} :
    conjunction truths = some true ↔ ∀ t ∈ truths, t = some true := by
  unfold conjunction
  constructor
  · intro h t ht
    split at h
    · cases h
    next noFalse =>
      split at h
      · cases h
      next noUnknown =>
        rcases t with _ | _ | _
        · exact absurd (List.contains_iff_mem.2 ht) noUnknown
        · exact absurd (List.contains_iff_mem.2 ht) noFalse
        · rfl
  · intro h
    have noFalse : ¬ truths.contains (some false) = true := fun c => by
      simpa using h _ (List.contains_iff_mem.1 c)
    have noUnknown : ¬ truths.contains none = true := fun c => by
      simpa using h _ (List.contains_iff_mem.1 c)
    rw [if_neg noFalse, if_neg noUnknown]

theorem disjunction_eq_some_true_iff {truths : List (Option Bool)} :
    disjunction truths = some true ↔ some true ∈ truths := by
  unfold disjunction
  constructor
  · intro h
    split at h
    next found => exact List.contains_iff_mem.1 found
    next => split at h <;> cases h
  · intro h
    rw [if_pos (List.contains_iff_mem.2 h)]

namespace Sql

variable {γ δ : Type} {binding : Binding} {cell : γ → SqlValue}

theorem Condition.holds_conditionOf_and (tests : List (Test γ)) :
    Condition.holds binding cell (conditionOf .and tests) =
      tests.all fun t => t.truth binding cell == some true := by
  rw [Bool.eq_iff_iff, holds, beq_iff_eq, truth, disjunction_eq_some_true_iff, conditionOf,
    List.map_singleton, List.mem_singleton, eq_comm, conjunction_eq_some_true_iff]
  simp

theorem Condition.holds_conditionOf_or (tests : List (Test γ)) :
    Condition.holds binding cell (conditionOf .or tests) =
      tests.any fun t => t.truth binding cell == some true := by
  rw [Bool.eq_iff_iff, holds, beq_iff_eq, truth, disjunction_eq_some_true_iff, conditionOf]
  simp [conjunction_eq_some_true_iff]

/-- The condition of a clause on some columns, the columns referred to in another way. -/
theorem Condition.resolve?_conditionOf {column? : ColumnRef → Option δ} (ref : String → δ)
    (j : Joiner) {es : List (String × String)}
    (known : ∀ e ∈ es, column? ⟨none, e.1⟩ = some (ref e.1)) :
    Condition.resolve? column? (conditionOf j (es.map equals)) =
      some (conditionOf j (es.map fun e => .equals (ref e.1) e.2)) := by
  have each : ∀ e ∈ es, Test.resolve? column? (equals e) = some (.equals (ref e.1) e.2) := by
    intro e he
    rw [equals, Test.resolve?, known e he]
    rfl
  cases j with
  | and => simp [resolve?, conditionOf, Function.comp_def, mapM_eq_pure_map (m := Option) each]
  | or =>
    have single : ∀ e ∈ es, ((Test.resolve? column? (equals e)).bind fun t => some [t]) =
        some [.equals (ref e.1) e.2] := by
      intro e he
      rw [each e he]
      rfl
    simp [resolve?, conditionOf, Function.comp_def, mapM_eq_pure_map (m := Option) single]

theorem Condition.parameters_whereCondition (j : Joiner) (es : List (String × String)) :
    Condition.parameters (whereCondition j es) = es.map Prod.snd := by
  unfold whereCondition
  split
  next none => simp [List.isEmpty_iff.1 none, always, parameters]
  next =>
    have each : (es.flatMap fun e => [e.2]) = es.map Prod.snd := List.map_eq_flatMap.symm
    cases j <;> simp [parameters, conditionOf, List.flatMap_map, equals, Test.parameters, each]

/-- A clause on columns whose parameters have the stored forms of assigned values holds of the rows
that the assignments accept. -/
theorem Condition.exists_resolve?_whereCondition (column? : ColumnRef → Option δ)
    (ref : String → δ) (d : TableDef) (j : Joiner) {keys : List Placed} {binding : Binding}
    (known : ∀ e ∈ keys, column? ⟨none, e.1.column⟩ = some (ref e.1.column))
    (bound : ∀ e ∈ keys, binding e.2 = e.1.param.value.stored) :
    ∃ c, Condition.resolve? column? (whereCondition j (keys.map Placed.pair)) = some c ∧
      ∀ (cell : δ → SqlValue) (row : Row), (∀ name, cell (ref name) = d.value row name) →
        Condition.holds binding cell c = j.accepts d (keys.map Prod.fst) row := by
  by_cases none : keys = []
  · subst none
    exact ⟨always, rfl, fun cell row _ => by cases j <;> rfl⟩
  · have someKeys : ¬ (keys.map Placed.pair).isEmpty = true := by simpa using none
    rw [whereCondition, if_neg someKeys, resolve?_conditionOf ref j (List.forall_mem_map.2 known)]
    refine ⟨_, rfl, fun cell row cells => ?_⟩
    have each : ∀ e ∈ keys, (Test.truth binding cell (.equals (ref e.1.column) e.2) == some true) =
        e.1.accepts d row := by
      intro e he
      rw [Test.truth, cells, bound e he]
      rfl
    rw [List.map_map]
    cases j with
    | and =>
      rw [holds_conditionOf_and, Joiner.accepts, all_map_eq_all each, List.all_map]
      rfl
    | or =>
      have members : (keys.map Prod.fst).isEmpty = false := by simpa using none
      rw [holds_conditionOf_or, Joiner.accepts, members, Bool.false_or, any_map_eq_any each,
        List.any_map]
      rfl

end Sql

end Rowset
