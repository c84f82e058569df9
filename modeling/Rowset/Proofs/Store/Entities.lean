import Rowset.Proofs.Statement.Drafts
import Rowset.Proofs.Store.Execution
import Rowset.Proofs.Store.Tables
import Rowset.Store.Records

/-!
# Records as rows

A category or a reward is written to the table of its kind. This module says what the statements of
a record do to rows, column by column: the row that an insert adds, the one that an upsert leaves
where the record's row is there already, and the one that an update leaves.
-/

namespace Rowset

open Rowset.Sql

theorem isName_name : ∀ d ∈ schema, isName d.name = true := by decide

theorem serves_id : ∀ d ∈ schema, d.Serves "id" "id" := by decide

/-- The key of a row is its id. -/
theorem TableDef.value_id {d : TableDef} (hd : d ∈ schema) (row : Row) :
    d.value row "id" = d.keyOf row := by
  have place : ∀ d ∈ schema, d.place "id" = d.keyPlace := by decide
  exact congrArg (cell row) (place d hd)

/-- A record of one of the tables that are written to. -/
inductive Entity where
  | category (c : Category)
  | reward (r : Reward)

/-- A flag as it is stored. -/
def SqlValue.flag (b : Bool) : SqlValue := .integer (if b then 1 else 0)

/-- A number that may be absent as it is stored. -/
def SqlValue.optional : Option Int64 → SqlValue
  | some n => .integer n
  | none => .null

namespace Value

@[simp] theorem stored_string (s : String) : (string s).stored = .text s := rfl

@[simp] theorem stored_int (n : Int64) : (int n).stored = .integer n := rfl

@[simp] theorem stored_boolean (b : Bool) : (boolean b).stored = .flag b := rfl

@[simp] theorem stored_optional (o : Option Int64) :
    (FieldValue.ofOption .signed o).toValue.stored = .optional o := by
  cases o <;> rfl

end Value

theorem Value.isPlain_optional {α : Type} {scalar : α → Scalar}
    (h : ∀ a, (scalar a).toValue.isPlain = true) {o : Option α} :
    (FieldValue.ofOption scalar o).toValue.isPlain = true := by
  cases o with
  | none => rfl
  | some a => exact h a

namespace Entity

def definition : Entity → TableDef
  | .category _ => categoriesDef
  | .reward _ => rewardsDef

def table (e : Entity) : String := e.definition.name

def id : Entity → String
  | .category c => c.id
  | .reward r => r.id

def record : Entity → Record
  | .category c => c.record
  | .reward r => r.record

/-! ## The rows of a record -/

/-- The row with all that the record may insert; artwork is at its default. -/
def fresh : Entity → Row
  | .category c => [.text c.id, .text c.name, .text ""]
  | .reward r =>
    [.text r.id, .text r.broadcasterId, .text r.title, .integer r.cost, .flag r.enabled,
      .flag r.paused, .optional r.limits.maxPerStream]

/-- The row with all that the record may insert, the artwork that was there kept. -/
def overwrite (row : Row) : Entity → Row
  | .category c => [.text c.id, .text c.name, TableDef.cell row 2]
  | .reward r => fresh (.reward r)

/-- The row with what the record states: texts that are not empty, numbers that are not zero, flags
that are set, and the limit in any case. -/
def patch (row : Row) : Entity → Row
  | .category c =>
    [TableDef.cell row 0, if c.name = "" then TableDef.cell row 1 else .text c.name,
      TableDef.cell row 2]
  | .reward r =>
    [TableDef.cell row 0,
      if r.broadcasterId = "" then TableDef.cell row 1 else .text r.broadcasterId,
      if r.title = "" then TableDef.cell row 2 else .text r.title,
      if r.cost = 0 then TableDef.cell row 3 else .integer r.cost,
      if r.enabled then .flag r.enabled else TableDef.cell row 4,
      if r.paused then .flag r.paused else TableDef.cell row 5,
      .optional r.limits.maxPerStream]

/-- Whether a row is the record's own. -/
def owns (e : Entity) (row : Row) : Bool := e.definition.keyOf row == .text e.id

/-! ## The assignments of a record -/

/-- What an insert sets. -/
def inserted (e : Entity) : List Assignment := InsertDraft.assignments e.record

/-- What an update sets. -/
def updated (e : Entity) : List Assignment :=
  (updateDraftOf e.table ["id"] e.record).stated.map fun c => .of c.name c.name c.value

/-- What the record holds under a name. -/
def held (e : Entity) (name : String) : Value := Column.held e.record.columns name

/-- What an update under some keys sets. -/
def updatedBy (e : Entity) (keys : List String) : List Assignment :=
  (updateDraftOf e.table keys e.record).stated.map fun c => .of c.name c.name c.value

/-- The predicates that keys stand for. -/
def keyedBy (e : Entity) (keys : List String) : List Assignment :=
  keys.map fun key => .of key key (e.held key)

variable (e : Entity)

theorem definition_mem : e.definition ∈ schema := by
  cases e <;> simp [definition, schema]

/-- The columns that the record may insert. -/
def columns : List Column := e.record.columns.filter fun c => c.opts.insertable

theorem columns_category (c : Category) : (category c).columns =
    [.ofField "id" { name := "id" } (.plain (.text c.id)),
      .ofField "name" { name := "category_name" } (.plain (.text c.name))] := rfl

theorem columns_reward (r : Reward) : (reward r).columns =
    [.ofField "id" { name := "id" } (.plain (.text r.id)),
      .ofField "broadcaster_id"
        (ColumnOpts.filteredAs { name := "broadcaster_id" } "r.broadcaster_id")
        (.plain (.text r.broadcasterId)),
      .ofField "title" { name := "title" } (.plain (.text r.title)),
      .ofField "cost" { name := "cost" } (.plain (.signed r.cost)),
      .ofField "enabled" { name := "is_enabled" } (.plain (.flag r.enabled)),
      .ofField "paused" { name := "is_paused" } (.plain (.flag r.paused)),
      .ofField "max_per_stream" (ColumnOpts.forced { name := "max_per_stream" })
        (.ofOption .signed r.limits.maxPerStream)] := rfl

/-- The names of these columns. -/
def names : Entity → List String
  | .category _ => ["id", "category_name"]
  | .reward _ =>
    ["id", "broadcaster_id", "title", "cost", "is_enabled", "is_paused", "max_per_stream"]

theorem map_name_columns : e.columns.map Column.name = e.names := by cases e <;> rfl

theorem serves_names : ∀ name ∈ e.names, e.definition.Serves name name := by
  have category : ∀ name ∈ (category {}).names, categoriesDef.Serves name name := by decide
  have reward : ∀ name ∈ (reward {}).names, rewardsDef.Serves name name := by decide
  cases e with
  | category c => exact category
  | reward r => exact reward

theorem place_categories : categoriesDef.place "id" = 0 ∧
    categoriesDef.place "category_name" = 1 := by
  decide

theorem place_rewards : rewardsDef.place "id" = 0 ∧ rewardsDef.place "broadcaster_id" = 1 ∧
    rewardsDef.place "title" = 2 ∧ rewardsDef.place "cost" = 3 ∧
    rewardsDef.place "is_enabled" = 4 ∧ rewardsDef.place "is_paused" = 5 ∧
    rewardsDef.place "max_per_stream" = 6 := by
  decide

/-- The columns that the record may insert are the first ones of its table. -/
theorem map_place_names : e.names.map e.definition.place = List.range e.names.length := by
  cases e with
  | category c => simp [names, definition, place_categories, List.range_succ]
  | reward r => simp [names, definition, place_rewards, List.range_succ]

theorem isPlain_columns : ∀ c ∈ e.columns, c.value.isPlain = true := by
  cases e with
  | category c =>
    simp only [columns_category, List.forall_mem_cons]
    exact ⟨rfl, rfl, List.forall_mem_nil _⟩
  | reward r =>
    simp only [columns_reward, List.forall_mem_cons]
    exact ⟨rfl, rfl, rfl, rfl, rfl, rfl, Value.isPlain_optional fun _ => rfl,
      List.forall_mem_nil _⟩

theorem fits_columns :
    ∀ c ∈ e.columns, (Assignment.of c.name c.name c.value).Fits e.definition := by
  intro c hc
  have name : c.name ∈ e.names := by
    rw [← map_name_columns]
    exact List.mem_map_of_mem hc
  exact Assignment.fits_of (e.serves_names _ name) (e.isPlain_columns c hc)

/-- Under the name of each of these columns the record holds that column's value. -/
theorem held_name {c : Column} (hc : c ∈ e.columns) : e.held c.name = c.value := by
  have distinct : (e.record.columns.map Column.name).Nodup := by
    cases e with
    | category c =>
      show ["id", "category_name", "box_art_url"].Nodup
      decide
    | reward r =>
      show ["id", "broadcaster_id", "title", "cost", "is_enabled", "is_paused", "max_per_stream",
        "broadcaster_name"].Nodup
      decide
  exact Column.held_name distinct (List.mem_filter.1 hc).1

theorem exists_column {name : String} (h : name ∈ e.names) : ∃ c ∈ e.columns, c.name = name := by
  rw [← map_name_columns] at h
  exact List.mem_map.1 h

/-- The key is the first column. -/
theorem keyPlace_definition : e.definition.keyPlace = 0 := by
  have first : ∀ d ∈ schema, d.keyPlace = 0 := by decide
  exact first _ e.definition_mem

theorem keyOf_definition (row : Row) : e.definition.keyOf row = TableDef.cell row 0 :=
  congrArg (TableDef.cell row) e.keyPlace_definition

/-! ## Changes to a row -/

theorem inserted_eq : e.inserted = e.columns.map fun c => .of c.name c.name c.value := rfl

theorem fits_inserted : ∀ a ∈ e.inserted, a.Fits e.definition := by
  rw [inserted_eq]
  exact List.forall_mem_map.2 e.fits_columns

theorem changes_category (c : Category) :
    (category c).inserted.map (fun a => a.change categoriesDef) =
      [(0, .text c.id), (1, .text c.name)] := by
  simp [inserted_eq, columns_category, Assignment.change, Assignment.of, Column.ofField,
    Column.name, FieldValue.toValue, Scalar.toValue, place_categories]

theorem changes_reward (r : Reward) :
    (reward r).inserted.map (fun a => a.change rewardsDef) =
      [(0, .text r.id), (1, .text r.broadcasterId), (2, .text r.title), (3, .integer r.cost),
        (4, .flag r.enabled), (5, .flag r.paused), (6, .optional r.limits.maxPerStream)] := by
  simp [inserted_eq, columns_reward, Assignment.change, Assignment.of, Column.ofField, Column.name,
    FieldValue.toValue, Scalar.toValue, ColumnOpts.filteredAs, ColumnOpts.forced, place_rewards]

theorem rowOf_inserted :
    Table.rowOf e.definition (e.inserted.map fun a => a.change e.definition) = e.fresh := by
  cases e with
  | category c => exact (congrArg _ (changes_category c)).trans rfl
  | reward r => exact (congrArg _ (changes_reward r)).trans rfl

/-- The row that the record is written as has the value of each of its columns. -/
theorem value_fresh {c : Column} (hc : c ∈ e.columns) :
    e.definition.value e.fresh c.name = c.value.stored := by
  cases e with
  | category d =>
    have each : ∀ c ∈ (category d).columns,
        categoriesDef.value (category d).fresh c.name = c.value.stored := by
      simp [columns_category, TableDef.value, TableDef.cell, fresh, Column.ofField, Column.name,
        FieldValue.toValue, Scalar.toValue, place_categories]
    exact each c hc
  | reward r =>
    have each : ∀ c ∈ (reward r).columns,
        rewardsDef.value (reward r).fresh c.name = c.value.stored := by
      simp [columns_reward, TableDef.value, TableDef.cell, fresh, Column.ofField, Column.name,
        FieldValue.toValue, Scalar.toValue, ColumnOpts.filteredAs, ColumnOpts.forced, place_rewards]
    exact each c hc

theorem change_inserted {row : Row} (width : row.length = e.definition.columns.length) :
    row.change (e.inserted.map fun a => a.change e.definition) = e.overwrite row := by
  have cells := TableDef.map_cell_range row
  rw [width] at cells
  cases e with
  | category c =>
    rw [← cells]
    exact (congrArg _ (changes_category c)).trans rfl
  | reward r =>
    rw [← cells]
    exact (congrArg _ (changes_reward r)).trans rfl

section Keys

variable (keys : List String)

theorem updatedBy_eq : e.updatedBy keys =
    (e.columns.filter (UpdateDraft.isStated keys)).map fun c => .of c.name c.name c.value := by
  rw [columns, List.filter_filter]
  simp only [Bool.and_comm]
  rfl

theorem updatedBy_subset {a : Assignment} (h : a ∈ e.updatedBy keys) : a ∈ e.inserted := by
  rw [updatedBy_eq] at h
  obtain ⟨c, hc, rfl⟩ := List.mem_map.1 h
  exact List.mem_map_of_mem (List.mem_filter.1 hc).1

variable {keys} (known : ∀ key ∈ keys, key ∈ e.names)
include known

/-- A column that is a key is set in any case, to the value that it is picked by. -/
theorem keyedBy_subset {a : Assignment} (h : a ∈ e.keyedBy keys) : a ∈ e.updatedBy keys := by
  obtain ⟨key, hk, rfl⟩ := List.mem_map.1 h
  obtain ⟨c, hc, rfl⟩ := e.exists_column (known key hk)
  have stated : UpdateDraft.isStated keys c = true := by simp [UpdateDraft.isStated, hk]
  rw [updatedBy_eq, e.held_name hc]
  exact List.mem_map_of_mem (List.mem_filter.2 ⟨hc, stated⟩)

theorem updatedBy_ne_nil (someKeys : keys ≠ []) : e.updatedBy keys ≠ [] := by
  obtain ⟨key, keys', rfl⟩ := List.exists_cons_of_ne_nil someKeys
  exact List.ne_nil_of_mem (e.keyedBy_subset known List.mem_cons_self)

theorem fits_keyed : ∀ a ∈ e.updatedBy keys ++ e.keyedBy keys, a.Fits e.definition := by
  have fits : ∀ a ∈ e.updatedBy keys, a.Fits e.definition :=
    fun a ha => e.fits_inserted a (e.updatedBy_subset keys ha)
  exact List.forall_mem_append.2 ⟨fits, fun a ha => fits a (e.keyedBy_subset known ha)⟩

end Keys

theorem updated_eq : e.updated =
    (e.columns.filter (UpdateDraft.isStated ["id"])).map fun c => .of c.name c.name c.value :=
  e.updatedBy_eq ["id"]

theorem updated_subset {a : Assignment} (h : a ∈ e.updated) : a ∈ e.inserted :=
  e.updatedBy_subset ["id"] h

theorem changes_updated {row : Row} :
    row.change (e.updated.map fun a => a.change e.definition) =
      row.change (e.columns.map fun c => (e.definition.place c.name,
        if UpdateDraft.isStated ["id"] c then c.value.stored
        else TableDef.cell row (e.definition.place c.name))) := by
  have distinct : (e.columns.map fun c => e.definition.place c.name).Nodup := by
    have places : e.columns.map (fun c => e.definition.place c.name) =
        (e.columns.map Column.name).map e.definition.place := by simp
    rw [places, map_name_columns, map_place_names]
    exact List.nodup_range
  have change : (fun a : Assignment => a.change e.definition) ∘
      (fun c : Column => Assignment.of c.name c.name c.value) =
      fun c => (e.definition.place c.name, c.value.stored) := rfl
  rw [updated_eq, List.map_map, change]
  exact Row.change_filter distinct

/-- An update sets the cells of the columns that are stated and leaves the others alone. -/
theorem change_updated {row : Row} (width : row.length = e.definition.columns.length)
    (own : e.owns row = true) :
    row.change (e.updated.map fun a => a.change e.definition) = e.patch row := by
  rw [changes_updated]
  -- The id is set in any case, as the key; in the record's own row it is there already.
  have key := beq_iff_eq.1 own
  rw [keyOf_definition] at key
  have cells := TableDef.map_cell_range row
  rw [width] at cells
  cases e with
  | category c =>
    have stated : Row.change [TableDef.cell row 0, TableDef.cell row 1, TableDef.cell row 2]
        ((category c).columns.map fun c => (categoriesDef.place c.name,
          if UpdateDraft.isStated ["id"] c then c.value.stored
          else TableDef.cell row (categoriesDef.place c.name))) = (category c).patch row := by
      rw [columns_category]
      simp [Column.ofField, Column.name, place_categories, UpdateDraft.isStated, patch,
        FieldValue.isZero, Scalar.isZero, Row.change, FieldValue.toValue, Scalar.toValue, key, id]
    exact (congrArg (fun r => Row.change r _) cells.symm).trans stated
  | reward r =>
    have stated : Row.change [TableDef.cell row 0, TableDef.cell row 1, TableDef.cell row 2,
        TableDef.cell row 3, TableDef.cell row 4, TableDef.cell row 5, TableDef.cell row 6]
        ((reward r).columns.map fun c => (rewardsDef.place c.name,
          if UpdateDraft.isStated ["id"] c then c.value.stored
          else TableDef.cell row (rewardsDef.place c.name))) = (reward r).patch row := by
      rw [columns_reward]
      simp [Column.ofField, Column.name, place_rewards, UpdateDraft.isStated, patch,
        FieldValue.isZero, Scalar.isZero, Row.change, FieldValue.toValue, Scalar.toValue, key, id,
        ColumnOpts.filteredAs, ColumnOpts.forced]
    exact (congrArg (fun r => Row.change r _) cells.symm).trans stated

/-! ## Rows under the record's key -/

theorem owns_iff {row : Row} : e.owns row = true ↔ e.definition.keyOf row = .text e.id :=
  beq_iff_eq

theorem admits_inserted : ∀ change ∈ e.inserted.map (fun a => a.change e.definition),
    e.definition.Admits e.id change := by
  have key {d : TableDef} {id : String} {i : Nat} : d.Admits id (i, .text id) :=
    ⟨fun _ _ _ => rfl, fun _ => rfl⟩
  have other {d : TableDef} {id : String} {i : Nat} {v : SqlValue} (first : d.keyPlace = 0)
      (present : v.isNull = false) : d.Admits id (i + 1, v) :=
    ⟨fun _ _ _ => present, fun same => absurd (same.trans first) (Nat.succ_ne_zero i)⟩
  have first := e.keyPlace_definition
  cases e with
  | category c =>
    show ∀ change ∈ (category c).inserted.map (fun a => a.change categoriesDef),
      categoriesDef.Admits c.id change
    simp only [changes_category, List.forall_mem_cons]
    exact ⟨key, other first rfl, List.forall_mem_nil _⟩
  | reward r =>
    have optional : rewardsDef.Admits r.id (6, .optional r.limits.maxPerStream) :=
      ⟨by rintro _ ⟨⟩ ⟨⟩, fun same => absurd (same.trans first) (Nat.succ_ne_zero 5)⟩
    show ∀ change ∈ (reward r).inserted.map (fun a => a.change rewardsDef),
      rewardsDef.Admits r.id change
    simp only [changes_reward, List.forall_mem_cons]
    exact ⟨key, other first rfl, other first rfl, other first rfl, other first rfl,
      other first rfl, optional, List.forall_mem_nil _⟩

theorem holds_fresh : e.definition.Holds e.id e.fresh := by
  refine ⟨?_, ?_, by rw [keyOf_definition]; cases e <;> rfl⟩
  · cases e <;> rfl
  · cases e <;> rfl

variable {e} {row : Row} {id : String}

theorem holds_overwrite (h : e.definition.Holds e.id row) :
    e.definition.Holds e.id (e.overwrite row) := by
  rw [← change_inserted e h.width]
  exact h.change e.admits_inserted

theorem holds_patch (h : e.definition.Holds e.id row) : e.definition.Holds e.id (e.patch row) := by
  rw [← change_updated e h.width (e.owns_iff.2 h.key)]
  refine h.change fun change hchange => ?_
  obtain ⟨a, ha, rfl⟩ := List.mem_map.1 hchange
  exact e.admits_inserted _ (List.mem_map_of_mem (e.updated_subset ha))

end Entity

end Rowset
