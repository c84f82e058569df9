import Rowset.Proofs.Statement.Upsert

/-!
# Columns beside their placeholders

A statement of a record names columns and, apart from them, writes the placeholders of their values.
The two keep step: the placeholder that belongs to a column resolves through the binds to the value
of that very column, in every dialect and also where columns share a name. An insert has a column for
each insertable field, zero or not, and a filter one predicate for each field that is not zero. What
a filter leaves out leaves no trace in it.
-/

namespace Rowset

open Rowset.Text

/-! ## Placeholders that resolve -/

/-- Whether the placeholder at a place, counted from zero, stands for a value: by its name, or by its
place among the binds. -/
def Dialect.Resolves (dialect : Dialect) (binds : List Bind) (place : Nat) (placeholder : String)
    (v : Value) : Prop :=
  match dialect with
  | .named => ∃ name, placeholder = ":" ++ name ∧ ResolvesTo binds v name
  | .positional => placeholder = "?" ∧ (binds[place]?).map Bind.value = some v
  | .numbered =>
    placeholder = "$" ++ Decimal.natText (place + 1) ∧ (binds[place]?).map Bind.value = some v

/-- There is a placeholder for every value, and each stands for the value at its own place. -/
structure Aligned (dialect : Dialect) (binds : List Bind) (values : List Value)
    (placeholders : List String) : Prop where
  length_eq : placeholders.length = values.length
  resolves : ∀ place v p, values[place]? = some v → placeholders[place]? = some p →
    dialect.Resolves binds place p v

/-- Where there is a value, there is a bind. -/
theorem Aligned.binds_ne_nil {dialect : Dialect} {binds : List Bind} {values : List Value}
    {placeholders : List String} (h : Aligned dialect binds values placeholders)
    (someValues : values ≠ []) : binds ≠ [] := by
  rintro rfl
  obtain ⟨v, values, rfl⟩ := List.exists_cons_of_ne_nil someValues
  obtain ⟨p, ps, rfl⟩ := List.exists_cons_of_length_eq_add_one h.length_eq
  have first := h.resolves 0 v p rfl rfl
  cases dialect with
  | named =>
    obtain ⟨_, _, _, single, _⟩ := first
    cases single
  | positional | numbered => cases first.2

namespace Template

/-- The placeholders of a template stand for the values of its parameters. -/
theorem aligned (dialect : Dialect) (t : Template) :
    Aligned dialect (t.render dialect).binds (t.params.map Param.value)
      (t.placeholders dialect) := by
  refine ⟨by rw [length_placeholders, List.length_map], fun place v p value placeholder => ?_⟩
  rw [List.getElem?_map] at value
  obtain ⟨q, param, rfl⟩ := Option.map_eq_some_iff.1 value
  -- Where placeholders are counted, every parameter has a bind of its own, at its own place.
  have counted : ∀ binds, binds = t.params.map Param.bind →
      (binds[place]?).map Bind.value = some q.value := by
    rintro _ rfl
    rw [List.getElem?_map, param]
    rfl
  cases dialect with
  | named =>
    rw [placeholders_named, List.getElem?_map] at placeholder
    obtain ⟨name, chosen, rfl⟩ := Option.map_eq_some_iff.1 placeholder
    obtain ⟨_, each⟩ := List.forall₂_iff_get.1 t.resolvesTo_chosenNames
    obtain ⟨inParams, rfl⟩ := List.getElem?_eq_some_iff.1 param
    obtain ⟨inNames, rfl⟩ := List.getElem?_eq_some_iff.1 chosen
    exact ⟨_, rfl, each place inParams inNames⟩
  | positional =>
    rw [placeholders_positional, List.getElem?_map, param] at placeholder
    exact ⟨(Option.some.inj placeholder).symm, counted _ (t.binds_render_of_not_named nofun)⟩
  | numbered =>
    rw [placeholders_numbered, List.getElem?_map] at placeholder
    obtain ⟨number, range, rfl⟩ := Option.map_eq_some_iff.1 placeholder
    obtain ⟨_, rfl⟩ := List.getElem?_eq_some_iff.1 range
    rw [List.getElem_range]
    exact ⟨rfl, counted _ (t.binds_render_of_not_named nofun)⟩

end Template

/-! ## Inserts -/

namespace InsertDraft

variable {record : Record}

theorem assignments_eq_nil_iff :
    assignments record = [] ↔ ∀ c ∈ record.columns, c.opts.insertable = false := by
  simp [assignments, List.filter_eq_nil_iff]

theorem insertStatement_of_nil (dialect : Dialect) (table key : String)
    (none : assignments record = []) :
    insertStatement dialect table key record false = .error (.nothingToInsert table) := by
  have built : (insertDraftOf table key record false).build = .error (.nothingToInsert table) := by
    simp [insertDraftOf, InsertDraft.record, build, none]
  rw [insertStatement, built]
  rfl

end InsertDraft

/-- **Inserts are complete and aligned.** There is nothing to insert exactly where no column is
insertable. Otherwise the statement lists the insertable columns, and the placeholders of its values
list stand for their values, one by one. An upsert without a key is the same statement. -/
theorem insert_complete (dialect : Dialect) (table key : String) (record : Record) :
    let columns := record.columns.filter fun c => c.opts.insertable
    let plain := insertStatement dialect table key record false
    insertStatement dialect table "" record true = plain ∧
      (plain = .error (.nothingToInsert table) ↔
        ∀ c ∈ record.columns, c.opts.insertable = false) ∧
      ((∃ c ∈ record.columns, c.opts.insertable = true) → ∃ statement placeholders,
        plain = .ok statement ∧
          statement.sql = "insert into " ++ table ++ " (" ++
            ", ".intercalate (columns.map Column.name) ++ ") values(" ++
            ", ".intercalate placeholders ++ ")" ∧
          Aligned dialect statement.binds (columns.map Column.value) placeholders) := by
  intro columns plain
  let list := InsertDraft.assignments record
  let t := Insert.valuesTemplate ⟨table, list, none⟩
  have params : t.params.map Param.value = columns.map Column.value := by
    rw [Insert.params_valuesTemplate, List.map_map]
    exact List.map_map
  have aligned := t.aligned dialect
  rw [params] at aligned
  refine ⟨rfl, ?_, fun insertable => ?_⟩
  · rw [← InsertDraft.assignments_eq_nil_iff]
    refine ⟨fun fails => ?_, InsertDraft.insertStatement_of_nil dialect table key⟩
    by_contra someAssignments
    have built : plain = .ok _ := InsertDraft.insertStatement_plain dialect table key someAssignments
    rw [built] at fails
    cases fails
  · have someAssignments := InsertDraft.assignments_ne_nil insertable
    have names : list.map Assignment.column = columns.map Column.name := List.map_map
    have length : (t.placeholders dialect).length = list.length := by
      rw [Template.length_placeholders, Insert.params_valuesTemplate, List.length_map]
    refine ⟨t.render dialect, t.placeholders dialect,
      InsertDraft.insertStatement_plain dialect table key someAssignments, ?_, aligned⟩
    rw [Template.sql_render, ← names]
    exact Template.interleave_valuesTemplate table length none

/-- Three columns share a name with different values, among them a zero one of a nested group; the
read-only one is left out. -/
theorem insert_complete_of_shared_name :
    let id (value : String) (zero : Bool) : Column :=
      ⟨"id", { name := "id" }, .string value, zero⟩
    let record : Record := [.column (id "a" false),
      .group "owner" [.group "account" [.column (id "" true)],
        .column ⟨"login", { name := "login", insertable := false }, .string "ann", false⟩],
      .column (id "b" false)]
    ∃ statement placeholders, insertStatement .named "users" "id" record false = .ok statement ∧
      statement.sql = "insert into users (id, id, id) values(:id, :id_2, :id_3)" ∧
      Aligned .named statement.binds [.string "a", .string "", .string "b"] placeholders := by
  intro id record
  obtain ⟨statement, placeholders, built, -, aligned⟩ :=
    (insert_complete .named "users" "id" record).2.2 ⟨_, List.mem_cons_self, rfl⟩
  have sql : (insertStatement .named "users" "id" record false).toOption.map Statement.sql =
      some "insert into users (id, id, id) values(:id, :id_2, :id_3)" := by decide +kernel
  rw [built] at sql
  exact ⟨statement, placeholders, built, Option.some.inj sql, aligned⟩

/-! ## Filters -/

namespace Filter

variable {record other : Record}

theorem constraints_eq_nil_iff : constraints record = [] ↔ ∀ c ∈ record.columns, c.zero = true := by
  simp [constraints, List.filter_eq_nil_iff]

theorem interleave_template {f : Filter} {ps : List String} (somePredicates : f.predicates ≠ [])
    (h : ps.length = f.predicates.length) :
    interleave f.template.texts ps = trimEnd f.base ++ " where " ++
      (" " ++ f.joiner.keyword ++ " ").intercalate
        (f.predicates.zipWith (fun a p => a.column ++ " = " ++ p) ps) := by
  obtain ⟨base, joiner, predicates⟩ := f
  obtain ⟨placed, rfl, rfl⟩ := Template.exists_placed h
  have present : ¬ (placed.map Prod.fst).isEmpty = true := fun none =>
    somePredicates (List.isEmpty_iff.1 none)
  apply String.toList_inj.1
  show Template.filled _ _ = _
  rw [template, if_neg present, List.zipWith_map, List.zipWith_self]
  simp only [Template.filled_text, Template.filled_assignments]
  simp [Function.comp_def]

/-- What a column that is not zero adds to a filter: the name that its value is bound under, the name
that it is compared by, and the value. -/
def constraint (c : Column) : String × String × Value := (c.field, c.filterName, c.value)

/-- Predicates say what constraints say, and no more. -/
theorem map_predicate_of_constraint
    (same : (constraints other).map constraint = (constraints record).map constraint) :
    (constraints other).map predicate = (constraints record).map predicate := by
  have each : predicate = (fun (field, name, value) => Assignment.of name field value) ∘ constraint :=
    rfl
  rw [each, ← List.map_map, same, List.map_map]

theorem filterStatement_eq (dialect : Dialect) (base : String) (record : Record)
    (joiner : Joiner) : filterStatement dialect base record joiner =
      (Filter.template ⟨base, joiner, (constraints record).map predicate⟩).render dialect := rfl

theorem filterStatement_of_nil (dialect : Dialect) (base : String) (joiner : Joiner)
    (none : constraints record = []) : filterStatement dialect base record joiner = ⟨base, []⟩ := by
  rw [filterStatement_eq, none]
  simp [template, Template.render, Rendering.statement, Rendering.part, Rendering.sql,
    Rendering.text, Piece.print]

end Filter

/-- **A filter says what its constraints say, and nothing else.** The base query stays as it is
exactly where every column is zero. Otherwise a predicate for each other column follows it, compared
to a placeholder that stands for the column's own value. Two records whose columns that are not zero
agree in field, filter name and value have the same statement, whatever else they differ in. -/
theorem filter_of_constraints (dialect : Dialect) (base : String) (record : Record)
    (joiner : Joiner) :
    let columns := record.columns.filter fun c => !c.zero
    let statement := filterStatement dialect base record joiner
    (statement = ⟨base, []⟩ ↔ ∀ c ∈ record.columns, c.zero = true) ∧
      ((∃ c ∈ record.columns, c.zero = false) → ∃ placeholders,
        statement.sql = trimEnd base ++ " where " ++ (" " ++ joiner.keyword ++ " ").intercalate
            (columns.zipWith (fun c p => c.filterName ++ " = " ++ p) placeholders) ∧
          Aligned dialect statement.binds (columns.map Column.value) placeholders) ∧
      ∀ other : Record,
        ((other.columns.filter fun c => !c.zero).map fun c => (c.field, c.filterName, c.value)) =
          (columns.map fun c => (c.field, c.filterName, c.value)) →
        filterStatement dialect base other joiner = statement := by
  intro columns statement
  let f : Filter := ⟨base, joiner, columns.map Filter.predicate⟩
  have aligned : Aligned dialect statement.binds (columns.map Column.value)
      (f.template.placeholders dialect) := by
    have values : f.template.params.map Param.value = columns.map Column.value := by
      rw [Filter.params_template, List.map_map]
      exact List.map_map
    rw [← values]
    exact f.template.aligned dialect
  refine ⟨?_, fun ⟨c, hc, constrains⟩ => ⟨f.template.placeholders dialect, ?_, aligned⟩,
    fun other same => ?_⟩
  · rw [← Filter.constraints_eq_nil_iff]
    refine ⟨fun bare => ?_, Filter.filterStatement_of_nil dialect base joiner⟩
    by_contra someConstraints
    have someValues : columns.map Column.value ≠ [] := mt List.map_eq_nil_iff.1 someConstraints
    exact aligned.binds_ne_nil someValues (congrArg Statement.binds bare)
  · have present : f.predicates ≠ [] :=
      List.ne_nil_of_mem (List.mem_map_of_mem (List.mem_filter.2 ⟨hc, by rw [constrains]; rfl⟩))
    have length : (f.template.placeholders dialect).length = f.predicates.length := by
      rw [aligned.length_eq, List.length_map, List.length_map]
    have predicates : f.predicates.zipWith (fun a p => a.column ++ " = " ++ p)
        (f.template.placeholders dialect) =
        columns.zipWith (fun c p => c.filterName ++ " = " ++ p) (f.template.placeholders dialect) :=
      List.zipWith_map_left
    rw [← predicates, ← Filter.interleave_template present length]
    exact f.template.sql_render dialect
  · rw [Filter.filterStatement_eq, Filter.map_predicate_of_constraint same]
    rfl

/-- Criteria for a reward and its owner: both bind a field `id`, and what is zero, forced, read-only
or in a group of its own makes no difference. -/
theorem filter_of_constraints_of_owner :
    let reward : Column := ⟨"id", { name := "id" }, .string "a", false⟩
    let owner : Column := ⟨"id", { name := "broadcaster_id" }, .string "b", false⟩
    let title : Column := ⟨"title", { name := "title", force := true }, .string "", true⟩
    let record : Record := [.column reward, .group "owner" [.column owner]]
    let other : Record := [.group "outer" [.group "inner" [.column title, .column
      { reward with opts := { name := "r", filterAs := some "id", insertable := false } }]],
      .column owner]
    (∃ placeholders, Aligned .numbered
      (filterStatement .numbered "select id from rewards \n" record .or).binds
      [.string "a", .string "b"] placeholders) ∧
    (filterStatement .named "select id from rewards \n" record .or).sql =
      "select id from rewards where id = :id or broadcaster_id = :id_2" ∧
    filterStatement .named "select id from rewards \n" other .or =
      filterStatement .named "select id from rewards \n" record .or := by
  intro reward owner title record other
  obtain ⟨placeholders, -, aligned⟩ :=
    (filter_of_constraints .numbered "select id from rewards \n" record .or).2.1
      ⟨reward, List.mem_cons_self, rfl⟩
  exact ⟨⟨placeholders, aligned⟩, by decide +kernel,
    (filter_of_constraints .named "select id from rewards \n" record .or).2.2 other rfl⟩

end Rowset
