import Rowset.Proofs.Store.Conditions
import Rowset.Store.Change

/-!
# Statements run on a table

What the store does with the text of a statement, said in terms of the assignments that it was
written for: each sets its column to the stored form of its value, or asks for the rows that hold
this value there. The way through text, names and binds is behind these theorems.
-/

namespace Rowset

open Rowset.Sql

/-! ## Changes -/

section Changes

variable {d : TableDef} {list : List Placed}

/-- What assignments set, by the places of their columns. -/
def TableDef.settingsOf (d : TableDef) (list : List Placed) : Settings Nat :=
  list.map fun e => (d.place e.1.column, e.2)

theorem TableDef.settings?_pairs (fits : ∀ e ∈ list, e.1.Fits d) :
    d.settings? (list.map Placed.pair) = some (d.settingsOf list) := by
  have each : ∀ e ∈ list, ((d.column? e.pair.1).map fun index => (index, e.pair.2)) =
      some (d.place e.1.column, e.2) := by
    intro e he
    rw [Placed.pair, (fits e he).column?_eq]
    rfl
  rw [settings?, List.mapM_map]
  exact mapM_eq_pure_map each

theorem cellChanges_placed {binding : Binding}
    (bound : ∀ e ∈ list, binding e.2 = e.1.param.value.stored) :
    cellChanges binding (d.settingsOf list) = (list.map Prod.fst).map fun a => a.change d := by
  simp only [cellChanges, TableDef.settingsOf, List.map_map, List.map_inj_left]
  intro e he
  exact congrArg (Prod.mk _) (bound e he)

end Changes

/-- In the scope of a single table, a column's name is that of its own column. -/
theorem Scope.resolve?_single {d : TableDef} {label name : String} {place : Nat}
    (h : d.column? name = some place) :
    Scope.resolve? [(label, d)] ⟨none, name⟩ = some ⟨0, place⟩ := by
  simp [resolve?, matching, ColumnRef.fits, h]

/-! ## Statements -/

/-- A template's assignments with their placeholders, all of which fit a table: what the text and
the binds of its rendering say about them. -/
structure Template.Placing (t : Template) (d : TableDef) (list : List Placed) : Prop where
  text : (t.render .named).sql.toList = t.filled (list.map Prod.snd)
  fits : ∀ e ∈ list, e.1.Fits d
  wellNamed : ∀ e ∈ list, e.WellNamed
  bound : ∀ e ∈ list, bindingOf (t.render .named).binds e.2 = e.1.param.value.stored
  bindAll_eq : bindAll (list.map Prod.snd) (t.render .named).binds =
    .ok (bindingOf (t.render .named).binds)

/-- The assignments of a template, in two groups, have their placeholders. -/
theorem Template.exists_placing {t : Template} {d : TableDef} (xs ys : List Assignment)
    (params : t.params = (xs ++ ys).map Assignment.param) (fits : ∀ a ∈ xs ++ ys, a.Fits d) :
    ∃ us vs : List Placed, us.map Prod.fst = xs ∧ vs.map Prod.fst = ys ∧
      t.Placing d (us ++ vs) := by
  have hfits : ∀ e ∈ t.placed (xs ++ ys), e.1.Fits d := fun _ he => fits _ (List.of_mem_zip he).1
  have placing : t.Placing d (t.placed (xs ++ ys)) :=
    { text := toList_sql_render params
      fits := hfits
      wellNamed := fun e he =>
        ⟨(hfits e he).column, isParameter_placed params (fun a ha => (fits a ha).parameter) he⟩
      bound := fun e he => bindingOf_placed params (fun a ha => (fits a ha).discrete) he
      bindAll_eq := bindAll_placed params }
  obtain ⟨us, vs, placed, hus, hvs⟩ := List.map_eq_append_iff.1 (map_fst_placed params)
  exact ⟨us, vs, hus, hvs, placed ▸ placing⟩

/-! ## Queries of one table -/

theorem QueryPlan.sorted_perm (p : QueryPlan) (rows : List JoinedRow) :
    (p.sorted rows).Perm rows := by
  unfold sorted
  split
  · unfold ordered
    split
    · exact List.mergeSort_perm ..
    · split
      · exact (List.reverse_perm _).trans (List.mergeSort_perm ..)
      · exact List.mergeSort_perm ..
  · exact List.mergeSort_perm ..
  · exact List.Perm.refl _

/-- A query of one table reads a column of the rows that its condition holds of. -/
theorem QueryPlan.perm_values (t : Table) {i : Nat} {c : Condition CellRef} {binding : Binding}
    {accepts : Row → Bool}
    (holds : ∀ row, Condition.holds binding (JoinedRow.cell [row]) c = accepts row) :
    (values ⟨[t], none, ⟨0, i⟩, c, none, none⟩ binding).Perm
      ((t.rows.filter accepts).map fun row => TableDef.cell row i) := by
  have rows : matching ⟨[t], none, ⟨0, i⟩, c, none, none⟩ binding =
      (t.rows.filter accepts).map fun row => [row] := by
    have combined : combine [t] = t.rows.map fun row => [row] := by
      rw [List.map_eq_flatMap]
      rfl
    rw [matching, combined, List.filter_map]
    simp [agrees, Function.comp_def, holds]
  have read := ((sorted_perm ⟨[t], none, ⟨0, i⟩, c, none, none⟩ _).trans (.of_eq rows)).map
    fun r => JoinedRow.cell r ⟨0, i⟩
  rw [List.map_map] at read
  exact read

theorem SqlValue.exists_texts {values : List SqlValue}
    (all : ∀ v ∈ values, ∃ text, v = .text text) :
    ∃ texts : List String, values = texts.map .text := by
  induction values with
  | nil => exact ⟨[], rfl⟩
  | cons v values ih =>
    obtain ⟨text, rfl⟩ := all v List.mem_cons_self
    obtain ⟨texts, rfl⟩ := ih fun w hw => all w (List.mem_cons_of_mem _ hw)
    exact ⟨text :: texts, rfl⟩

/-! ## Inserts -/

theorem Insert.conflictAssignments_eq {i : Insert}
    (named : ∀ c ∈ i.onConflict, isName c.column = true) :
    i.conflictAssignments = (i.onConflict.map OnConflict.assignments).getD [] := by
  unfold conflictAssignments
  cases conflict : i.onConflict with
  | none => rfl
  | some c =>
    have column : c.column ≠ "" := by
      intro blank
      have name := named c conflict
      rw [blank] at name
      exact absurd name (by decide)
    exact if_neg column

theorem PlacedConflict.exists_assigned_eq {conflict : Option OnConflict} {sets : List Placed}
    (h : sets.map Prod.fst = (conflict.map OnConflict.assignments).getD []) :
    ∃ placed : Option PlacedConflict, placed.map clause = conflict ∧ assigned placed = sets := by
  cases conflict with
  | none => exact ⟨none, rfl, (List.map_eq_nil_iff.1 h).symm⟩
  | some c => exact ⟨some ⟨c.column, sets⟩, by rw [Option.map_some, clause, h]; rfl, rfl⟩

section PlacedInsert

variable {t : Table} {name : String} {values : List Placed} {conflict : Option PlacedConflict}

/-- The names of an insert resolve where its columns fit and it absorbs conflicts of the key. -/
theorem Sql.InsertCommand.plan?_pairs {s : Store} (table : s.table? name = some t)
    (fits : ∀ e ∈ values, e.1.Fits t.definition)
    (onKey : ∀ c ∈ conflict, foldCase c.column = t.definition.key ∧
      ∀ e ∈ c.sets, e.1.Fits t.definition) :
    plan? s ⟨name, values.map Placed.pair, conflict.map PlacedConflict.pairs⟩ =
      some ⟨t, t.definition.settingsOf values,
        conflict.map fun c => t.definition.settingsOf c.sets⟩ := by
  cases conflict with
  | none => simp [plan?, table, TableDef.settings?_pairs fits, resolveOptional?]
  | some c =>
    obtain ⟨key, sets⟩ := onKey c rfl
    simp [plan?, table, TableDef.settings?_pairs fits, resolveOptional?, PlacedConflict.pairs, key,
      TableDef.settings?_pairs sets]

theorem Sql.Command.parameters_insert : Command.parameters
      (.insert ⟨name, values.map Placed.pair, conflict.map PlacedConflict.pairs⟩) =
    (values ++ PlacedConflict.assigned conflict).map Prod.snd := by
  cases conflict with
  | none => simp [parameters, Function.comp_def, Placed.pair, PlacedConflict.assigned]
  | some c =>
    simp [parameters, Function.comp_def, Placed.pair, PlacedConflict.assigned, PlacedConflict.pairs]

/-- An insert adds the row that its values make, or changes the one that is there. -/
theorem InsertPlan.run_placed {binding : Binding}
    (hvalues : ∀ e ∈ values, binding e.2 = e.1.param.value.stored)
    (hsets : ∀ e ∈ PlacedConflict.assigned conflict, binding e.2 = e.1.param.value.stored) :
    run ⟨t, t.definition.settingsOf values,
        conflict.map fun c => t.definition.settingsOf c.sets⟩ binding =
      let row := Table.rowOf t.definition
        ((values.map Prod.fst).map fun a => a.change t.definition)
      match conflict.map PlacedConflict.clause with
      | none => t.insert row
      | some c => t.upsert row (c.assignments.map fun a => a.change t.definition) := by
  rw [← cellChanges_placed hvalues]
  cases conflict with
  | none => rfl
  | some c =>
    have changes : cellChanges binding (t.definition.settingsOf c.sets) =
        (c.sets.map Prod.fst).map fun a => a.change t.definition := cellChanges_placed hsets
    exact congrArg (t.upsert _) changes

end PlacedInsert

namespace Store

variable {s : Store} {t : Table} {name : String}

/-- An update changes the rows that hold the values of its keys. -/
theorem execute_update {sets keys : List Assignment} (isName : isName name = true)
    (table : s.table? name = some t) (someSets : sets ≠ [])
    (fits : ∀ a ∈ sets ++ keys, a.Fits t.definition) :
    s.execute ((Update.template ⟨name, sets, keys⟩).render .named) =
      (constrained (t.update (Joiner.and.accepts t.definition keys)
        (sets.map fun a => a.change t.definition))).map
        fun (t', count) => (s.replace t', count) := by
  obtain ⟨sets, keys, rfl, rfl, placing⟩ := Template.exists_placing sets keys
    (t := Update.template ⟨name, sets, keys⟩) (by simp) fits
  obtain ⟨hsets, hkeys⟩ := List.forall_mem_append.1 placing.fits
  obtain ⟨bsets, bkeys⟩ := List.forall_mem_append.1 placing.bound
  have read := parse?_update isName (by simpa using someSets) placing.wellNamed
  rw [← placing.text] at read
  obtain ⟨c, resolved, holds⟩ := Condition.exists_resolve?_whereCondition
    (fun c => (Scope.resolve? [(name, t.definition)] c).map CellRef.column)
    t.definition.place t.definition .and
    (fun e he => by rw [Scope.resolve?_single (hkeys e he).column?_eq]; rfl) bkeys
  have plan : UpdateCommand.plan? s
      ⟨name, sets.map Placed.pair, whereCondition .and (keys.map Placed.pair)⟩ =
      some ⟨t, t.definition.settingsOf sets, c⟩ := by
    simp [UpdateCommand.plan?, table, TableDef.settings?_pairs hsets, resolved]
  have parameters : Command.parameters (.update
      ⟨name, sets.map Placed.pair, whereCondition .and (keys.map Placed.pair)⟩) =
      (sets ++ keys).map Prod.snd := by
    simp [Command.parameters, Condition.parameters_whereCondition, Function.comp_def, Placed.pair]
  have picks : (fun row => Condition.holds _ (TableDef.cell row) c) =
      Joiner.and.accepts t.definition (keys.map Prod.fst) :=
    funext fun row => holds _ row fun _ => rfl
  rw [execute, parse?, read]
  simp only [plan, parameters, placing.bindAll_eq]
  show (constrained (t.update _ _) >>= fun result => pure (s.replace result.1, result.2)) = _
  rw [picks, cellChanges_placed bsets]
  exact bind_pure_comp _ _

/-- An insert adds a row, or where it absorbs conflicts changes the one that is there. -/
theorem execute_insert {values : List Assignment} (conflict : Option OnConflict)
    (isName : isName name = true) (table : s.table? name = some t) (someValues : values ≠ [])
    (onKey : ∀ c ∈ conflict, Sql.isName c.column = true ∧
      foldCase c.column = t.definition.key ∧ c.assignments ≠ [])
    (fits : ∀ a ∈ values ++ ((conflict.map OnConflict.assignments).getD []), a.Fits t.definition) :
    s.execute ((Insert.template ⟨name, values, conflict⟩).render .named) =
      (constrained (
        let row := Table.rowOf t.definition (values.map fun a => a.change t.definition)
        match conflict with
        | none => t.insert row
        | some c => t.upsert row (c.assignments.map fun a => a.change t.definition))).map
        fun t' => (s.replace t', 1) := by
  have params : (Insert.template ⟨name, values, conflict⟩).params =
      (values ++ ((conflict.map OnConflict.assignments).getD [])).map Assignment.param := by
    rw [Insert.params_template, Insert.conflictAssignments_eq fun c hc => (onKey c hc).1]
  obtain ⟨values, sets, rfl, hsets, placing⟩ := Template.exists_placing values _ params fits
  obtain ⟨conflict, rfl, rfl⟩ := PlacedConflict.exists_assigned_eq hsets
  obtain ⟨fvalues, fsets⟩ := List.forall_mem_append.1 placing.fits
  obtain ⟨bvalues, bsets⟩ := List.forall_mem_append.1 placing.bound
  have clauses : ∀ c ∈ conflict, Sql.isName c.column = true ∧
      foldCase c.column = t.definition.key ∧ c.sets ≠ [] := by
    intro c hc
    obtain ⟨column, key, present⟩ := onKey c.clause (Option.mem_map_of_mem _ hc)
    exact ⟨column, key, by simpa [PlacedConflict.clause] using present⟩
  have read := parse?_insert isName (by simpa using someValues)
    (fun c hc => ⟨(clauses c hc).1, (clauses c hc).2.2⟩) placing.wellNamed
  rw [← placing.text] at read
  have resolved : ∀ c ∈ conflict, foldCase c.column = t.definition.key ∧
      ∀ e ∈ c.sets, e.1.Fits t.definition := by
    rintro c rfl
    exact ⟨(clauses c rfl).2.1, fsets⟩
  have plan := InsertCommand.plan?_pairs table fvalues resolved
  rw [execute, parse?, read]
  simp only [plan, Command.parameters_insert, placing.bindAll_eq]
  show (constrained (InsertPlan.run _ _) >>= fun t' => pure (s.replace t', 1)) = _
  rw [InsertPlan.run_placed bvalues bsets]
  exact bind_pure_comp _ _

/-- A filter on the query for a column of texts gives those of the rows that it accepts. -/
theorem queryIds_filter {base column : String} {j : Joiner} {tests : List Assignment}
    (isTable : isName name = true) (isColumn : isName column = true)
    (table : s.table? name = some t) (known : (t.definition.column? column).isSome = true)
    (query : tokens? base.toList = some (queryTokens column name j []))
    (kept : Text.trimEnd base = base) (fits : ∀ a ∈ tests, a.Fits t.definition)
    (texts : ∀ row ∈ t.rows, ∃ text, t.definition.value row column = .text text) :
    ∃ ids, s.queryIds ((Filter.template ⟨base, j, tests⟩).render .named) = .ok ids ∧
      (ids.map SqlValue.text).Perm ((t.rows.filter (j.accepts t.definition tests)).map
        fun row => t.definition.value row column) := by
  obtain ⟨tests, none, rfl, hnone, placing⟩ := Template.exists_placing tests []
    (t := Filter.template ⟨base, j, tests⟩) (by simp) (by simpa using fits)
  obtain rfl := List.map_eq_nil_iff.1 hnone
  rw [List.append_nil] at placing
  have read := parse?_filter j query kept isColumn isTable placing.wellNamed
  rw [← placing.text] at read
  obtain ⟨c, resolved, holds⟩ := Condition.exists_resolve?_whereCondition
    (Scope.resolve? [(name, t.definition)]) (fun column => ⟨0, t.definition.place column⟩)
    t.definition j
    (fun e he => Scope.resolve?_single (placing.fits e he).column?_eq) placing.bound
  have plan : Query.plan? s
      ⟨⟨Option.none, column⟩, ⟨name, name⟩, Option.none, whereCondition j (tests.map Placed.pair),
        Option.none, Option.none⟩ =
      some ⟨[t], Option.none, ⟨0, t.definition.place column⟩, c, Option.none, Option.none⟩ := by
    simp [Query.plan?, Query.sources?, table, resolved, resolveOptional?,
      Scope.resolve?_single (TableDef.column?_eq known)]
  have parameters : Command.parameters (.query
      ⟨⟨Option.none, column⟩, ⟨name, name⟩, Option.none, whereCondition j (tests.map Placed.pair),
        Option.none, Option.none⟩) = tests.map Prod.snd := by
    simp [Command.parameters, Condition.parameters_whereCondition, Function.comp_def, Placed.pair]
  have values := QueryPlan.perm_values t (i := t.definition.place column)
    fun row => holds (JoinedRow.cell [row]) row fun _ => rfl
  have picked : ∀ v ∈ (t.rows.filter (j.accepts t.definition (tests.map Prod.fst))).map
      (fun row => t.definition.value row column), ∃ text, v = .text text := by
    intro v hv
    obtain ⟨row, hrow, rfl⟩ := List.mem_map.1 hv
    exact texts row (List.mem_filter.1 hrow).1
  obtain ⟨ids, hids⟩ := SqlValue.exists_texts fun v hv => picked v (values.mem_iff.1 hv)
  refine ⟨ids, ?_, hids ▸ values⟩
  rw [queryIds, parse?, read]
  simp only [plan, parameters, placing.bindAll_eq]
  show (QueryPlan.values _ _).mapM _ = _
  rw [hids, List.mapM_map]
  exact (mapM_eq_pure_map fun _ _ => rfl).trans (congrArg Except.ok (List.map_id _))

end Store

end Rowset
