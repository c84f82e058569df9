import Rowset.Proofs.Sql.Texts
import Rowset.Proofs.Statement.Repeats
import Rowset.Statement.Generate

/-!
# Upserts and plain inserts

An upsert is the plain insert with a clause behind it that sets the same columns to the same values
once more. Bound by name, the clause uses the placeholders of the values list again and binds
nothing, also where columns share a name or a new name collides with that of a column; an undefined
number is the only value that gets a name of its own in the clause. Bound in order, the values are
bound a second time.
-/

namespace Rowset

open Rowset.Text

/-! ## Texts -/

namespace Template

variable {ps : List String}

theorem interleave_append {t u : Template} (h : ps.length = t.params.length) (qs : List String) :
    interleave (t ++ u).texts (ps ++ qs) = interleave t.texts ps ++ interleave u.texts qs := by
  apply String.toList_inj.1
  rw [String.toList_append]
  exact filled_append h qs

/-- Assignments beside as many placeholders. -/
theorem exists_placed {list : List Assignment} (h : ps.length = list.length) :
    ∃ placed : List Placed, placed.map Prod.fst = list ∧ placed.map Prod.snd = ps :=
  ⟨list.zip ps, List.map_fst_zip (Nat.le_of_eq h.symm), List.map_snd_zip (Nat.le_of_eq h)⟩

theorem interleave_valuesTemplate (table : String) {list : List Assignment}
    (h : ps.length = list.length) (conflict : Option OnConflict) :
    interleave (Insert.valuesTemplate ⟨table, list, conflict⟩).texts ps =
      "insert into " ++ table ++ " (" ++ ", ".intercalate (list.map Assignment.column) ++
        ") values(" ++ ", ".intercalate ps ++ ")" := by
  obtain ⟨placed, rfl, rfl⟩ := exists_placed h
  have count : (placed.map Prod.snd).length =
      (joined ", " (placed.map fun e => [.param e.1.param])).params.length := by
    rw [params_joined, List.flatMap_map]
    simp
  have closed := filled_append (u := [.text ")"]) count []
  rw [List.append_nil, filled_text, filled_nil, filled_parameters] at closed
  apply String.toList_inj.1
  show filled _ _ = _
  simp only [Insert.valuesTemplate, Insert.columnList, List.cons_append, filled_text,
    List.map_map, Function.comp_def, closed]
  simp [Function.comp_def]

theorem interleave_conflict {key : String} (named : key ≠ "") {list : List Assignment}
    (someSets : list ≠ []) (h : ps.length = list.length) :
    interleave (OnConflict.template ⟨key, list⟩).texts ps =
      " on conflict(" ++ key ++ ") do update set " ++
        ", ".intercalate (list.zipWith (fun a p => a.column ++ "=" ++ p) ps) := by
  obtain ⟨placed, rfl, rfl⟩ := exists_placed h
  have present : ¬ (key = "" ∨ (placed.map Prod.fst).isEmpty = true) := by
    rintro (blank | none)
    · exact named blank
    · exact someSets (List.isEmpty_iff.1 none)
  apply String.toList_inj.1
  show filled _ _ = _
  rw [OnConflict.template, if_neg present, List.zipWith_map, List.zipWith_self]
  simp only [filled_text, filled_assignments]
  simp [Function.comp_def]

end Template

/-! ## Inserts of records -/

namespace InsertDraft

variable {record : Record}

theorem assignments_ne_nil (h : ∃ c ∈ record.columns, c.opts.insertable = true) :
    assignments record ≠ [] := by
  obtain ⟨c, hc, insertable⟩ := h
  exact List.ne_nil_of_mem (List.mem_map_of_mem (List.mem_filter.2 ⟨hc, insertable⟩))

theorem insertStatement_plain (dialect : Dialect) (table key : String)
    (someAssignments : assignments record ≠ []) : insertStatement dialect table key record false =
      .ok ((Insert.valuesTemplate ⟨table, assignments record, none⟩).render dialect) := by
  have built : (insertDraftOf table key record false).build =
      .ok ⟨table, assignments record, none⟩ := by
    simp [insertDraftOf, InsertDraft.record, build, someAssignments]
  rw [insertStatement, built, Except.map, Insert.template]
  simp

theorem insertStatement_upsert (dialect : Dialect) (table : String) {key : String}
    (named : key ≠ "") (someAssignments : assignments record ≠ []) :
    insertStatement dialect table key record true =
      .ok ((Insert.valuesTemplate ⟨table, assignments record, none⟩ ++
        OnConflict.template ⟨key, assignments record⟩).render dialect) := by
  have built : (insertDraftOf table key record true).build =
      .ok ⟨table, assignments record, some ⟨key, assignments record⟩⟩ := by
    simp [insertDraftOf, InsertDraft.record, InsertDraft.upsert, build, someAssignments, named]
  rw [insertStatement, built]
  rfl

end InsertDraft

/-- **An upsert is the plain insert and a clause that sets the same columns again.** Bound by name,
and if no value is undefined, the clause has letter for letter the placeholders of the values list
and needs no binds of its own. Bound in order, all values are bound twice. -/
theorem upsert_repeats_insert (dialect : Dialect) (table key : String) (record : Record)
    (named : key ≠ "") (insertable : ∃ c ∈ record.columns, c.opts.insertable = true) :
    let columns := record.columns.filter fun c => c.opts.insertable
    ∃ (plain upsert : Statement) (values sets : List String),
      insertStatement dialect table key record false = .ok plain ∧
      insertStatement dialect table key record true = .ok upsert ∧
      plain.sql = "insert into " ++ table ++ " (" ++ ", ".intercalate (columns.map Column.name) ++
        ") values(" ++ ", ".intercalate values ++ ")" ∧
      upsert.sql = plain.sql ++ (" on conflict(" ++ key ++ ") do update set " ++
        ", ".intercalate (columns.zipWith (fun c p => c.name ++ "=" ++ p) sets)) ∧
      values.length = columns.length ∧ sets.length = columns.length ∧
      Template.Repeats (columns.map fun c => ⟨c.name, c.value⟩) plain.binds upsert.binds values sets
        dialect := by
  intro columns
  have someAssignments := InsertDraft.assignments_ne_nil insertable
  let list := InsertDraft.assignments record
  let t := Insert.valuesTemplate ⟨table, list, none⟩
  let u := OnConflict.template ⟨key, list⟩
  have length : list.length = columns.length := List.length_map _
  have params : t.params = columns.map fun c => ⟨c.name, c.value⟩ := by
    rw [Insert.params_valuesTemplate]
    exact List.map_map
  have again : u.params = t.params := by
    rw [OnConflict.params_template, if_neg named, Insert.params_valuesTemplate]
  have count : t.params.length = columns.length := by rw [params, List.length_map]
  obtain ⟨sets, number, both⟩ := Template.exists_placeholders_append dialect t u
  have hvalues : (t.placeholders dialect).length = columns.length := by
    rw [Template.length_placeholders, count]
  have hsets : sets.length = columns.length := by rw [number, again, count]
  refine ⟨t.render dialect, (t ++ u).render dialect, t.placeholders dialect, sets,
    InsertDraft.insertStatement_plain dialect table key someAssignments,
    InsertDraft.insertStatement_upsert dialect table named someAssignments, ?_, ?_, hvalues, hsets,
    ?_⟩
  · have names : list.map Assignment.column = columns.map Column.name := List.map_map
    rw [Template.sql_render, ← names]
    exact Template.interleave_valuesTemplate table (hvalues.trans length.symm) none
  · have equations : list.zipWith (fun a p => a.column ++ "=" ++ p) sets =
        columns.zipWith (fun c p => c.name ++ "=" ++ p) sets := List.zipWith_map_left
    rw [Template.sql_render, Template.sql_render, both,
      Template.interleave_append (Template.length_placeholders dialect t), ← equations,
      ← Template.interleave_conflict named someAssignments (hsets.trans length.symm)]
  · rw [← params]
    exact Template.repeats_append again both

/-- Two columns share a name, and the new name of the second is that of a third. -/
theorem upsert_repeats_insert_renamed :
    let record : Record := [.column ⟨"id", { name := "id" }, .string "a", false⟩,
      .group "owner" [.column ⟨"id", { name := "id" }, .string "b", false⟩],
      .column ⟨"id_2", { name := "id_2" }, .string "c", false⟩]
    ∃ plain upsert, insertStatement .named "users" "id" record false = .ok plain ∧
      insertStatement .named "users" "id" record true = .ok upsert ∧
      plain.sql = "insert into users (id, id, id_2) values(:id, :id_2, :id_2_2)" ∧
      upsert.sql = "insert into users (id, id, id_2) values(:id, :id_2, :id_2_2)" ++
        " on conflict(id) do update set id=:id, id=:id_2, id_2=:id_2_2" ∧
      upsert.binds = plain.binds := by
  intro record
  have defined : ∀ p ∈ (record.columns.filter fun c => c.opts.insertable).map
      (fun c => Param.mk c.name c.value), p.value.Defined := by
    simp [record, Value.Defined]
  obtain ⟨plain, upsert, values, sets, hplain, hupsert, -, -, -, -, -, again⟩ :=
    upsert_repeats_insert .named "users" "id" record (by decide) ⟨_, List.mem_cons_self, rfl⟩
  have first : (insertStatement .named "users" "id" record false).toOption.map Statement.sql =
      some "insert into users (id, id, id_2) values(:id, :id_2, :id_2_2)" := by decide +kernel
  have second : (insertStatement .named "users" "id" record true).toOption.map Statement.sql =
      some ("insert into users (id, id, id_2) values(:id, :id_2, :id_2_2)" ++
        " on conflict(id) do update set id=:id, id=:id_2, id_2=:id_2_2") := by decide +kernel
  rw [hplain] at first
  rw [hupsert] at second
  exact ⟨plain, upsert, hplain, hupsert, Option.some.inj first, Option.some.inj second,
    (again defined).2⟩

/-- An undefined number gets a second name. -/
example :
    let record : Record := [.column ⟨"x", { name := "x" }, .float ⟨0x7ff8000000000000⟩, false⟩]
    (insertStatement .named "t" "x" record true).toOption.map Statement.sql =
      some "insert into t (x) values(:x) on conflict(x) do update set x=:x_2" := by
  decide +kernel

end Rowset
