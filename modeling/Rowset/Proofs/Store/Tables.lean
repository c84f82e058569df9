import Rowset.Proofs.Store.Rows
import Rowset.Store.Binding

/-!
# Stores with sound tables

A store of the schema has its three tables under their names, and is sound when each of these is.
Putting a table in the place of the one with its name leaves the others alone, and the store as it
should be.
-/

namespace Rowset

theorem name_injOn_schema {d e : TableDef} (hd : d ∈ schema) (he : e ∈ schema)
    (h : d.name = e.name) : d = e := by
  have names : (schema.map TableDef.name).Nodup := by decide
  exact List.inj_on_of_nodup_map names hd he h

theorem foldCase_name : ∀ d ∈ schema, Sql.foldCase d.name = d.name := by decide

namespace Store

/-- The tables of the store are those of the schema, in its order. -/
def OfSchema (s : Store) : Prop := s.tables.map Table.definition = schema

/-- A store of the schema whose tables are sound. -/
structure Sound (s : Store) : Prop where
  definitions : s.tables.map Table.definition = schema
  tables : ∀ t ∈ s.tables, t.Sound

variable {s : Store} {t u : Table}

theorem rows_empty (name : String) : Store.empty.rows name = [] := by
  rw [rows]
  cases found : Store.empty.tables.find? fun t => t.definition.name == name with
  | none => rfl
  | some t =>
    obtain ⟨d, -, rfl⟩ := List.mem_map.1 (List.mem_of_find?_eq_some found)
    rfl

namespace OfSchema

theorem definition_mem (h : s.OfSchema) (ht : t ∈ s.tables) : t.definition ∈ schema := by
  rw [← h]
  exact List.mem_map_of_mem ht

/-- Every table of the schema is there. -/
theorem find?_eq (h : s.OfSchema) {d : TableDef} (hd : d ∈ schema) :
    s.tables.find? (fun t => t.definition.name == d.name) = some ⟨d, s.rows d.name⟩ := by
  rw [← h] at hd
  obtain ⟨t, ht, rfl⟩ := List.mem_map.1 hd
  have listed : (s.tables.find? fun u => u.definition.name == t.definition.name).isSome = true :=
    List.find?_isSome.2 ⟨t, ht, beq_self_eq_true _⟩
  obtain ⟨u, found⟩ := Option.isSome_iff_exists.1 listed
  have name : u.definition.name = t.definition.name := by simpa using List.find?_some found
  have same := name_injOn_schema (h.definition_mem (List.mem_of_find?_eq_some found))
    (h.definition_mem ht) name
  rw [rows, found, ← same]
  rfl

theorem table?_eq (h : s.OfSchema) {d : TableDef} (hd : d ∈ schema) :
    s.table? d.name = some ⟨d, s.rows d.name⟩ := by
  rw [table?, foldCase_name d hd]
  exact h.find?_eq hd

theorem empty : Store.empty.OfSchema := rfl

theorem replace (h : s.OfSchema) (hd : t.definition ∈ schema) : (s.replace t).OfSchema := by
  rw [OfSchema, Store.replace, List.map_map]
  refine (List.map_congr_left fun u hu => ?_).trans h
  show (if _ then t else u).definition = _
  split
  next same => exact name_injOn_schema hd (h.definition_mem hu) (beq_iff_eq.1 same).symm
  next => rfl

/-- Every table is in the place of its name. -/
theorem replace_self (h : s.OfSchema) {d : TableDef} (hd : d ∈ schema) :
    s.replace ⟨d, s.rows d.name⟩ = s := by
  have names : (s.tables.map fun t => t.definition.name).Nodup := by
    have same : (s.tables.map fun t => t.definition.name) = schema.map TableDef.name := by
      rw [← h, List.map_map]
      rfl
    rw [same]
    decide
  have kept : ∀ t ∈ s.tables,
      (if t.definition.name == d.name then (⟨d, s.rows d.name⟩ : Table) else t) = t := by
    intro t ht
    split
    next named =>
      exact List.inj_on_of_nodup_map names (List.mem_of_find?_eq_some (h.find?_eq hd)) ht
        (beq_iff_eq.1 named).symm
    next => rfl
  rw [Store.replace, List.map_congr_left kept, List.map_id']

end OfSchema

namespace Sound

theorem ofSchema (h : s.Sound) : s.OfSchema := h.definitions

theorem sound_table (h : s.Sound) {d : TableDef} (hd : d ∈ schema) :
    Table.Sound ⟨d, s.rows d.name⟩ :=
  h.tables _ (List.mem_of_find?_eq_some (h.ofSchema.find?_eq hd))

theorem table?_eq (h : s.Sound) {d : TableDef} (hd : d ∈ schema) :
    s.table? d.name = some ⟨d, s.rows d.name⟩ := h.ofSchema.table?_eq hd

theorem empty : Store.empty.Sound where
  definitions := OfSchema.empty
  tables t ht := by
    obtain ⟨d, -, rfl⟩ := List.mem_map.1 ht
    exact ⟨nofun, List.nodup_nil⟩

theorem replace (h : s.Sound) (ht : t.Sound) (hd : t.definition ∈ schema) :
    (s.replace t).Sound where
  definitions := h.ofSchema.replace hd
  tables := by
    refine List.forall_mem_map.2 fun u hu => ?_
    split
    · exact ht
    · exact h.tables u hu

end Sound

/-! ## Replaced tables -/

theorem find?_replace (name : String) :
    (s.replace t).tables.find? (fun u => u.definition.name == name) =
      (s.tables.find? fun u => u.definition.name == name).map
        fun u => if u.definition.name == t.definition.name then t else u := by
  rw [replace, List.find?_map]
  congr 2
  funext u
  show ((if _ then t else u).definition.name == name) = _
  split
  next same => rw [beq_iff_eq.1 same]
  next => rfl

theorem rows_replace (h : s.OfSchema) (hd : t.definition ∈ schema) :
    (s.replace t).rows t.definition.name = t.rows := by
  rw [rows, find?_replace, h.find?_eq hd]
  simp

theorem rows_replace_of_ne {name : String} (ne : name ≠ t.definition.name) :
    (s.replace t).rows name = s.rows name := by
  rw [rows, rows, find?_replace]
  cases found : s.tables.find? fun u => u.definition.name == name with
  | none => rfl
  | some u =>
    have other : u.definition.name = name := by simpa using List.find?_some found
    simp [other, ne]

/-- Of two tables put in the same place the later one stays. -/
theorem replace_replace (same : t.definition.name = u.definition.name) :
    (s.replace t).replace u = s.replace u := by
  simp only [replace, List.map_map]
  congr 1
  refine List.map_congr_left fun v _ => ?_
  by_cases place : v.definition.name = u.definition.name
  · simp [place, same]
  · simp [place, same]

end Store

end Rowset
