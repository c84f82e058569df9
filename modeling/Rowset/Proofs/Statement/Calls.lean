import Rowset.Statement.Generate
import Rowset.Store.Records

/-!
# Preparing a statement call by call

A statement is prepared in calls that each take a record or make the one setting that its kind of
statement has: the joiner of a filter, the conflict column of an insert, the keys of an update. What
is prepared after any calls depends on the columns of all records, in the order of the calls, and on
the last setting. So it makes no difference how columns are spread over calls and groups, nor where
among the records a setting is made, and what is computed from both is computed from all of them.
-/

namespace Rowset

/-! ## Calls -/

/-- A call takes a record or makes a setting. -/
inductive Call (σ : Type) where
  | record (r : Record)
  | setting (s : σ)

namespace Call

variable {σ δ : Type}

/-- The columns of all records, in the order of the calls. -/
def columns : List (Call σ) → List Column
  | [] => []
  | .record r :: calls => r.columns ++ columns calls
  | .setting _ :: calls => columns calls

/-- The last setting, if any is made. -/
def last? : List (Call σ) → Option σ
  | [] => none
  | .record _ :: calls => last? calls
  | .setting s :: calls => some ((last? calls).getD s)

/-- The same columns in the same order, and the same last setting or none in either. -/
structure Agree (calls others : List (Call σ)) : Prop where
  columns : columns calls = columns others
  setting : last? calls = last? others

/-- What one call makes of something in preparation. -/
def apply (take : δ → Record → δ) (set : δ → σ → δ) (d : δ) : Call σ → δ
  | .record r => take d r
  | .setting s => set d s

/-- What calls make of it, one after another. -/
def run (take : δ → Record → δ) (set : δ → σ → δ) (d : δ) (calls : List (Call σ)) : δ :=
  calls.foldl (apply take set) d

@[simp] theorem run_nil (take : δ → Record → δ) (set : δ → σ → δ) (d : δ) :
    run take set d [] = d := rfl

@[simp] theorem run_cons (take : δ → Record → δ) (set : δ → σ → δ) (d : δ) (call : Call σ)
    (calls : List (Call σ)) :
    run take set d (call :: calls) = run take set (apply take set d call) calls := rfl

/-- What is prepared is determined by the columns taken and the last setting made so far, and calls
keep it so. -/
structure Determines (make : List Column → Option σ → δ) (take : δ → Record → δ)
    (set : δ → σ → δ) : Prop where
  take : ∀ columns s? r, take (make columns s?) r = make (columns ++ r.columns) s?
  set : ∀ columns s? s, set (make columns s?) s = make columns (some s)

namespace Determines

variable {make : List Column → Option σ → δ} {take : δ → Record → δ} {set : δ → σ → δ}

/-- The columns and the setting after a run. -/
theorem run_make (h : Determines make take set) (calls : List (Call σ)) (taken : List Column)
    (s? : Option σ) :
    run take set (make taken s?) calls = make (taken ++ columns calls) ((last? calls).or s?) := by
  induction calls generalizing taken s? with
  | nil => rw [run_nil, columns, List.append_nil, last?, Option.none_or]
  | cons call calls ih =>
    rw [run_cons]
    cases call with
    | record r => rw [apply, h.take, ih, columns, last?, List.append_assoc]
    | setting s =>
      rw [apply, h.set, ih, columns, last?]
      cases last? calls <;> rfl

theorem run_eq (h : Determines make take set) (calls : List (Call σ)) :
    run take set (make [] none) calls = make (columns calls) (last? calls) := by
  rw [h.run_make, List.nil_append, Option.or_none]

end Determines

end Call

open Call

/-! ## Filters -/

namespace Filter

/-- The filter that calls make on a base query. -/
def ofCalls (base : String) (calls : List (Call Joiner)) : Filter :=
  run criteria joinedBy { base } calls

/-- A filter by its columns and its joiner. -/
def make (base : String) (columns : List Column) (joiner? : Option Joiner) : Filter where
  base
  joiner := joiner?.getD .and
  predicates := (columns.filter fun c => !c.zero).map predicate

theorem determines_make (base : String) : Determines (make base) criteria joinedBy where
  take columns joiner? r := by
    rw [criteria, make, constraints, ← List.map_append, ← List.filter_append]
    rfl
  set columns joiner? j := rfl

theorem ofCalls_eq (base : String) (calls : List (Call Joiner)) :
    ofCalls base calls = make base (columns calls) (last? calls) :=
  (determines_make base).run_eq calls

end Filter

/-! ## Inserts -/

namespace InsertDraft

/-- The draft that calls make for a table. -/
def ofCalls (table : String) (calls : List (Call String)) : InsertDraft :=
  run record upsert { table } calls

/-- The values of an insert of columns. -/
def valuesOf (columns : List Column) : List Assignment :=
  (columns.filter fun c => c.opts.insertable).map fun c => .of c.name c.name c.value

theorem determines_make (table : String) :
    Determines (fun columns conflict => { table, values := valuesOf columns, conflict })
      record upsert where
  take columns conflict r := by
    rw [record, assignments, valuesOf, valuesOf, ← List.map_append, ← List.filter_append]
  set columns conflict column := rfl

theorem ofCalls_eq (table : String) (calls : List (Call String)) :
    ofCalls table calls = { table, values := valuesOf (columns calls), conflict := last? calls } :=
  (determines_make table).run_eq calls

/-- A conflict clause sets everything that is inserted. -/
theorem build_ofCalls {table : String} {calls : List (Call String)} {i : Insert}
    (h : (ofCalls table calls).build = .ok i) : i.values = valuesOf (columns calls) ∧
      i.onConflict = (last? calls).map fun column => ⟨column, i.values⟩ := by
  rw [ofCalls_eq, build] at h
  split at h
  · cases h
  · cases h
    exact ⟨rfl, rfl⟩

end InsertDraft

/-! ## Updates -/

namespace UpdateDraft

/-- The draft that calls make for a table. -/
def ofCalls (table : String) (calls : List (Call (List String))) : UpdateDraft :=
  run record keyedBy { table } calls

theorem determines_make (table : String) :
    Determines (fun columns keys? => { table, keys := keys?.getD [], columns }) record keyedBy where
  take _ _ _ := rfl
  set _ _ _ := rfl

theorem ofCalls_eq (table : String) (calls : List (Call (List String))) :
    ofCalls table calls =
      { table, keys := (last? calls).getD [], columns := Call.columns calls } :=
  (determines_make table).run_eq calls

end UpdateDraft

/-! ## Calls that agree -/

/-- **Calls that agree on the columns, in their order, and on the last setting prepare the same**: the
same filter, and the same insert and the same update, or the same reason why there is none. So the
columns may be spread over calls and groups in any way, and settings may be made at any point. What
is prepared has all of the columns: a filter a predicate for every column that is not zero, an update
all of them to take its assignments and its keys from, an insert the values of all that can be
written, which an upsert sets again, those of later records too. -/
theorem prepared_by_agreeing_calls :
    (∀ (base : String) {calls others : List (Call Joiner)}, Agree calls others →
        Filter.ofCalls base calls = Filter.ofCalls base others) ∧
      (∀ (table : String) {calls others : List (Call String)}, Agree calls others →
        (InsertDraft.ofCalls table calls).build = (InsertDraft.ofCalls table others).build) ∧
      (∀ (table : String) {calls others : List (Call (List String))}, Agree calls others →
        (UpdateDraft.ofCalls table calls).build = (UpdateDraft.ofCalls table others).build) ∧
      (∀ (base : String) (calls : List (Call Joiner)),
        (Filter.ofCalls base calls).joiner = (last? calls).getD .and ∧
          (Filter.ofCalls base calls).predicates =
            ((columns calls).filter fun c => !c.zero).map Filter.predicate) ∧
      (∀ (table : String) (calls : List (Call (List String))),
        (UpdateDraft.ofCalls table calls).keys = (last? calls).getD [] ∧
          (UpdateDraft.ofCalls table calls).columns = columns calls) ∧
      ∀ (table : String) (calls : List (Call String)) (i : Insert),
        (InsertDraft.ofCalls table calls).build = .ok i →
          i.values = InsertDraft.valuesOf (columns calls) ∧
            (last? calls = none → i.onConflict = none) ∧
            ∀ key, last? calls = some key → i.onConflict = some ⟨key, i.values⟩ := by
  refine ⟨?_, ?_, ?_, ?_, ?_, ?_⟩
  · intro base calls others agree
    rw [Filter.ofCalls_eq, Filter.ofCalls_eq, agree.columns, agree.setting]
  · intro table calls others agree
    rw [InsertDraft.ofCalls_eq, InsertDraft.ofCalls_eq, agree.columns, agree.setting]
  · intro table calls others agree
    rw [UpdateDraft.ofCalls_eq, UpdateDraft.ofCalls_eq, agree.columns, agree.setting]
  · intro base calls
    rw [Filter.ofCalls_eq]
    exact ⟨rfl, rfl⟩
  · intro table calls
    rw [UpdateDraft.ofCalls_eq]
    exact ⟨rfl, rfl⟩
  · intro table calls i build
    obtain ⟨values, conflict⟩ := InsertDraft.build_ofCalls build
    refine ⟨values, ?_, ?_⟩
    · intro plain
      rw [conflict, plain]
      rfl
    · intro key upsert
      rw [conflict, upsert]
      rfl

/-- An upsert that is settled before its second record, after a conflict column that is taken back,
and one that is settled last, on a single record with a group. -/
theorem prepared_by_agreeing_calls_of_upsert :
    let id := mapped "id" { name := "id" } (.text "1")
    let title := mapped "title" { name := "title" } (.text "Hydrate")
    let early : List (Call String) :=
      [.setting "title", .record [id], .setting "id", .record [title]]
    let late : List (Call String) := [.record [.group "named" [id, title]], .setting "id"]
    let values : List Assignment :=
      [.of "id" "id" (.string "1"), .of "title" "title" (.string "Hydrate")]
    Agree early late ∧
      (InsertDraft.ofCalls "rewards" early).build = (InsertDraft.ofCalls "rewards" late).build ∧
      (InsertDraft.ofCalls "rewards" early).build = .ok ⟨"rewards", values, some ⟨"id", values⟩⟩ ∧
      ∀ i, (InsertDraft.ofCalls "rewards" early).build = .ok i →
        i.onConflict = some ⟨"id", i.values⟩ := by
  intro id title early late values
  have agree : Agree early late := ⟨rfl, rfl⟩
  obtain ⟨-, inserts, -, -, -, upserts⟩ := prepared_by_agreeing_calls
  refine ⟨agree, inserts "rewards" agree, rfl, ?_⟩
  intro i build
  obtain ⟨-, -, conflict⟩ := upserts "rewards" early i build
  exact conflict "id" rfl

end Rowset
