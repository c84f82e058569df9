import Rowset.Proofs.Store.Entities
import Rowset.Proofs.Store.Reachable

/-!
# Stores that records are written to

A record is inserted, inserted or else overwritten under its id, or used to update the row of its
id. Each of these runs on the record's own table in a way that can be said without any statement,
and every store that such writes lead to is sound.
-/

namespace Rowset

open Rowset.Sql

/-! ## Statements of a record -/

namespace Entity

variable (e : Entity)

theorem isName_table : isName e.table = true := isName_name _ e.definition_mem

theorem key_definition : e.definition.key = foldCase "id" := by
  have folded : foldCase "id" = "id" := by decide
  rw [folded]
  cases e <;> rfl

theorem inserted_ne_nil : e.inserted ≠ [] := by cases e <;> nofun

/-- The predicate on the record's id. -/
def ownKey : Assignment := .of "id" "id" (.string e.id)

theorem keyedBy_id : e.keyedBy ["id"] = [e.ownKey] := by cases e <;> rfl

theorem id_mem_names : ∀ key ∈ ["id"], key ∈ e.names := by cases e <;> simp [names]

/-- The rows that hold the record's id are its own. -/
theorem accepts_ownKey : Joiner.and.accepts e.definition [e.ownKey] = e.owns := by
  funext row
  have accepts : e.ownKey.accepts e.definition row = e.owns row := by
    rw [Bool.eq_iff_iff, owns_iff, ← TableDef.value_id e.definition_mem]
    exact beq_iff_eq.trans (SqlValue.equal?_eq_some_true_iff rfl)
  rw [Joiner.accepts, List.all_cons, accepts, List.all_nil, Bool.and_true]

/-- The insert of the record, or its upsert on the id. -/
def insertion (upsert : Bool) : Statement :=
  (Insert.template ⟨e.table, e.inserted,
    if upsert then some ⟨"id", e.inserted⟩ else none⟩).render .named

/-- The update under some keys. -/
def keyedUpdate (keys : List String) : Statement :=
  (Update.template ⟨e.table, e.updatedBy keys, e.keyedBy keys⟩).render .named

/-- The update of the row of the record's id. -/
def correction : Statement :=
  (Update.template ⟨e.table, e.updated, [e.ownKey]⟩).render .named

theorem keyedUpdate_id : e.keyedUpdate ["id"] = e.correction := by
  rw [keyedUpdate, keyedBy_id]
  rfl

theorem insertStatement_eq (upsert : Bool) :
    insertStatement .named e.table "id" e.record upsert = .ok (e.insertion upsert) := by
  cases e <;> cases upsert <;> rfl

/-- An update under keys that the record has columns for. -/
theorem updateStatement_keyed {keys : List String} (someKeys : keys ≠ [])
    (known : ∀ key ∈ keys, key ∈ e.names) :
    updateStatement .named e.table keys e.record = .ok (e.keyedUpdate keys) := by
  have maps : ∀ key ∈ keys, (updateDraftOf e.table keys e.record).maps key = true := by
    intro key hk
    obtain ⟨c, hc, name⟩ := e.exists_column (known key hk)
    exact List.any_eq_true.2 ⟨c, (List.mem_filter.1 hc).1, beq_iff_eq.2 name⟩
  have stated : (updateDraftOf e.table keys e.record).stated ≠ [] := by
    intro none
    exact e.updatedBy_ne_nil known someKeys (List.map_eq_nil_iff.2 none)
  have build : (updateDraftOf e.table keys e.record).build =
      .ok ⟨e.table, e.updatedBy keys, e.keyedBy keys⟩ :=
    UpdateDraft.build_eq_ok_iff.2 ⟨maps, stated, rfl⟩
  rw [updateStatement, build]
  rfl

theorem updateStatement_eq :
    updateStatement .named e.table ["id"] e.record = .ok e.correction := by
  rw [e.updateStatement_keyed (List.cons_ne_nil _ _) e.id_mem_names, keyedUpdate_id]

end Entity

/-- An update under keys changes the rows that hold the values of these keys. -/
theorem Store.OfSchema.execute_keyedUpdate {s : Store} (h : s.OfSchema) (e : Entity)
    {keys : List String} (someKeys : keys ≠ []) (known : ∀ key ∈ keys, key ∈ e.names) :
    s.execute (e.keyedUpdate keys) =
      (constrained (Table.update ⟨e.definition, s.rows e.table⟩
        (Joiner.and.accepts e.definition (e.keyedBy keys))
        ((e.updatedBy keys).map fun a => a.change e.definition))).map
        fun (t, count) => (s.replace t, count) :=
  Store.execute_update e.isName_table (h.table?_eq e.definition_mem)
    (e.updatedBy_ne_nil known someKeys) (e.fits_keyed known)

/-- What is reported depends on the rows of the record's own table alone. -/
theorem Store.OfSchema.fst_run_keyedUpdate {s : Store} (h : s.OfSchema) (e : Entity)
    {keys : List String} (someKeys : keys ≠ []) (known : ∀ key ∈ keys, key ∈ e.names) :
    (s.run (e.keyedUpdate keys)).value.1 =
      (constrained (Table.update ⟨e.definition, s.rows e.table⟩
        (Joiner.and.accepts e.definition (e.keyedBy keys))
        ((e.updatedBy keys).map fun a => a.change e.definition))).map Prod.snd := by
  rw [Store.fst_run, h.execute_keyedUpdate e someKeys known]
  cases constrained (Table.update ⟨e.definition, s.rows e.table⟩ _ _) <;> rfl

/-! ## Writes on a sound store -/

namespace Store.Sound

variable {s : Store} (h : s.Sound) (e : Entity)
include h

theorem execute_insertion : s.execute (e.insertion false) =
    (constrained (Table.insert ⟨e.definition, s.rows e.table⟩ e.fresh)).map
      fun t => (s.replace t, 1) := by
  have run := Store.execute_insert none e.isName_table
    (h.table?_eq e.definition_mem) e.inserted_ne_nil nofun (by simpa using e.fits_inserted)
  rwa [e.rowOf_inserted] at run

theorem execute_upsertion : s.execute (e.insertion true) =
    (constrained (Table.upsert ⟨e.definition, s.rows e.table⟩ e.fresh
      (e.inserted.map fun a => a.change e.definition))).map fun t => (s.replace t, 1) := by
  have run := Store.execute_insert (some ⟨"id", e.inserted⟩) e.isName_table
    (h.table?_eq e.definition_mem) e.inserted_ne_nil
    (by
      rintro _ ⟨⟩
      exact ⟨(by decide : isName "id" = true), e.key_definition.symm, e.inserted_ne_nil⟩)
    (List.forall_mem_append.2 ⟨e.fits_inserted, e.fits_inserted⟩)
  rwa [e.rowOf_inserted] at run

theorem execute_correction : s.execute e.correction =
    (constrained (Table.update ⟨e.definition, s.rows e.table⟩ e.owns
      (e.updated.map fun a => a.change e.definition))).map
      fun (t, count) => (s.replace t, count) := by
  have run := h.ofSchema.execute_keyedUpdate e (List.cons_ne_nil "id" []) e.id_mem_names
  rwa [e.keyedUpdate_id, e.keyedBy_id, e.accepts_ownKey] at run

/-! ## What a write leaves -/

theorem sound_rows : Table.Sound ⟨e.definition, s.rows e.table⟩ := h.sound_table e.definition_mem

omit h in
theorem free_iff : (∀ row ∈ s.rows e.table, e.definition.keyOf row ≠ .text e.id) ↔
    ∀ row ∈ s.rows e.table, e.owns row = false := by
  simp [Entity.owns]

/-- Under an id that is free, an insert and an upsert both add the record's row. -/
theorem insertion_of_free (free : ∀ row ∈ s.rows e.table, e.owns row = false) (upsert : Bool) :
    s.execute (e.insertion upsert) =
      .ok (s.replace ⟨e.definition, s.rows e.table ++ [e.fresh]⟩, 1) := by
  have free := (free_iff e).2 free
  cases upsert with
  | false => rw [h.execute_insertion, Table.insert_of_free e.holds_fresh free]; rfl
  | true => rw [h.execute_upsertion, Table.upsert_of_free e.holds_fresh free]; rfl

/-- Under an id that is taken, an insert fails. -/
theorem insertion_of_taken (taken : ∃ row ∈ s.rows e.table, e.owns row = true) :
    s.execute (e.insertion false) = .error (.constraint (.unique e.table "id")) := by
  simp only [e.owns_iff] at taken
  rw [h.execute_insertion, Table.insert_of_taken e.holds_fresh taken]
  cases e <;> rfl

omit h in
theorem holds_own {row : Row} {id : String} (holds : e.definition.Holds id row)
    (own : e.owns row = true) : e.definition.Holds e.id row := by
  have same : id = e.id := by simpa [holds.key] using e.owns_iff.1 own
  exact same ▸ holds

/-- The record's own row is changed in its place, the others stay. -/
theorem update_own {changes : CellChanges} {f : Row → Row}
    (changed : ∀ row, e.definition.Holds e.id row →
      row.change changes = f row ∧ e.definition.Holds e.id (f row)) :
    Table.update ⟨e.definition, s.rows e.table⟩ e.owns changes =
      .ok (⟨e.definition, (s.rows e.table).map fun row => if e.owns row then f row else row⟩,
        (s.rows e.table).countP e.owns) := by
  have own : ∀ row ∈ s.rows e.table, e.owns row = true → e.definition.Holds e.id row := by
    intro row hrow own
    obtain ⟨id, holds⟩ := (h.sound_rows e).holds row hrow
    exact holds_own e holds own
  have rows : (s.rows e.table).map (fun row => if e.owns row then row.change changes else row) =
      (s.rows e.table).map fun row => if e.owns row then f row else row := by
    refine List.map_congr_left fun row hrow => ?_
    split
    next picked => exact (changed row (own row hrow picked)).1
    next => rfl
  rw [Table.update_eq (h.sound_rows e), rows]
  intro row hrow picked
  obtain ⟨same, holds⟩ := changed row (own row hrow picked)
  exact ⟨e.id, (own row hrow picked).key, same ▸ holds⟩

/-- Under an id that is taken, an upsert overwrites the row that has it. -/
theorem upsertion_of_taken (taken : ∃ row ∈ s.rows e.table, e.owns row = true) :
    s.execute (e.insertion true) = .ok (s.replace ⟨e.definition,
      (s.rows e.table).map fun row => if e.owns row then e.overwrite row else row⟩, 1) := by
  simp only [e.owns_iff] at taken
  have picks : e.definition.sameKey e.fresh = e.owns := by
    funext row
    rw [Bool.eq_iff_iff, TableDef.sameKey_iff e.holds_fresh.key, e.owns_iff]
  rw [h.execute_upsertion, Table.upsert_of_taken e.holds_fresh taken, picks,
    h.update_own e fun row holds => ⟨e.change_inserted holds.width, e.holds_overwrite holds⟩]
  rfl

/-- An update patches the row that has the record's id. -/
theorem correction_eq : s.execute e.correction = .ok (s.replace ⟨e.definition,
    (s.rows e.table).map fun row => if e.owns row then e.patch row else row⟩,
      (s.rows e.table).countP e.owns) := by
  rw [h.execute_correction, h.update_own e fun row holds =>
    ⟨e.change_updated holds.width (e.owns_iff.2 holds.key), e.holds_patch holds⟩]
  rfl

/-- No two rows are the record's own. -/
theorem countP_owns_le_one : (s.rows e.table).countP e.owns ≤ 1 := by
  have distinct := (h.sound_rows e).distinct
  have counted : (s.rows e.table).countP e.owns =
      ((s.rows e.table).map e.definition.keyOf).count (.text e.id) := by
    rw [List.count, List.countP_map]
    rfl
  exact counted ▸ List.nodup_iff_count_le_one.1 distinct _

/-! ## Sound stores stay sound -/

theorem add_fresh (free : ∀ row ∈ s.rows e.table, e.owns row = false) :
    (s.replace ⟨e.definition, s.rows e.table ++ [e.fresh]⟩).Sound :=
  h.replace ((h.sound_rows e).append e.holds_fresh ((free_iff e).2 free)) e.definition_mem

theorem change_own {f : Row → Row}
    (holds : ∀ row, e.definition.Holds e.id row → e.definition.Holds e.id (f row)) :
    (s.replace ⟨e.definition,
      (s.rows e.table).map fun row => if e.owns row then f row else row⟩).Sound := by
  refine h.replace ((h.sound_rows e).map fun row _ id hrow => ?_) e.definition_mem
  split
  next own =>
    obtain rfl : id = e.id := by simpa [hrow.key] using e.owns_iff.1 own
    exact holds row hrow
  next => exact hrow

end Store.Sound

/-! ## Runs of writes -/

/-- A write of a record: an insert, an upsert on its id, or an update of the row of its id. -/
inductive Write where
  | insert (e : Entity)
  | upsert (e : Entity)
  | update (e : Entity)

def Write.statement : Write → Except QueryError Statement
  | .insert e => insertStatement .named e.table "id" e.record false
  | .upsert e => insertStatement .named e.table "id" e.record true
  | .update e => updateStatement .named e.table ["id"] e.record

namespace Entity

variable (e : Entity)

theorem statement_insert : (Write.insert e).statement = .ok (e.insertion false) :=
  e.insertStatement_eq false

theorem statement_upsert : (Write.upsert e).statement = .ok (e.insertion true) :=
  e.insertStatement_eq true

theorem statement_update : (Write.update e).statement = .ok e.correction := e.updateStatement_eq

end Entity

namespace Store

/-- The store after a write. -/
def perform (s : Store) (w : Write) : Store :=
  match w.statement with
  | .ok statement => (s.run statement).value.2
  | .error _ => s

/-- The store that writes lead to, one after another, from a store without rows. -/
def ofWrites (writes : List Write) : Store := writes.foldl perform empty

variable {s s' : Store} {statement : Statement}

theorem perform_of_ok {w : Write} {count : Nat} (hw : w.statement = .ok statement)
    (h : s.execute statement = .ok (s', count)) : s.perform w = s' := by
  simp only [perform, hw, run_of_ok h]

theorem perform_of_error {w : Write} {e : StoreError} (hw : w.statement = .ok statement)
    (h : s.execute statement = .error e) : s.perform w = s := by
  simp only [perform, hw, run_of_error h]

/-- Whether there is a row under the record's id. -/
theorem free_or_taken (s : Store) (e : Entity) : (∀ row ∈ s.rows e.table, e.owns row = false) ∨
    ∃ row ∈ s.rows e.table, e.owns row = true := by
  by_cases taken : ∃ row ∈ s.rows e.table, e.owns row = true
  · exact .inr taken
  · exact .inl fun row hrow => by simpa using fun own => taken ⟨row, hrow, own⟩

theorem Sound.perform (h : s.Sound) (w : Write) : (s.perform w).Sound := by
  cases w with
  | insert e =>
    rcases s.free_or_taken e with free | taken
    · rw [perform_of_ok e.statement_insert (h.insertion_of_free e free false)]
      exact h.add_fresh e free
    · rwa [perform_of_error e.statement_insert (h.insertion_of_taken e taken)]
  | upsert e =>
    rcases s.free_or_taken e with free | taken
    · rw [perform_of_ok e.statement_upsert (h.insertion_of_free e free true)]
      exact h.add_fresh e free
    · rw [perform_of_ok e.statement_upsert (h.upsertion_of_taken e taken)]
      exact h.change_own e fun row => e.holds_overwrite
  | update e =>
    rw [perform_of_ok e.statement_update (h.correction_eq e)]
    exact h.change_own e fun row => e.holds_patch

/-- Writes lead to reachable stores only. -/
theorem Reachable.perform (h : s.Reachable) (w : Write) : (s.perform w).Reachable := by
  rw [Store.perform]
  cases w.statement with
  | error e => exact h
  | ok statement => exact h.run statement

theorem reachable_ofWrites (writes : List Write) : (ofWrites writes).Reachable :=
  List.foldlRecOn writes perform .empty fun _ h w _ => h.perform w

theorem sound_ofWrites (writes : List Write) : (ofWrites writes).Sound :=
  List.foldlRecOn writes perform .empty fun _ h w _ => h.perform w

end Store

end Rowset
