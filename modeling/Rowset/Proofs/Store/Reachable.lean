import Rowset.Proofs.Store.Tables
import Rowset.Store.Session

/-!
# Stores that statements lead to

A statement that changes the store puts one of its tables in the place that it had, with other rows.
One that fails leaves the store as it was. So the tables stay those of the schema, whatever is run.
-/

namespace Rowset

open Rowset.Sql

/-! ## What a change leaves of a table -/

section Definitions

variable {ε α β : Type} {x : Except ε α}

theorem exists_of_map_eq_ok {f : α → β} {b : β} (h : x.map f = .ok b) :
    ∃ a, x = .ok a ∧ f a = b := by
  cases x with
  | error e => cases h
  | ok a => exact ⟨a, rfl, Except.ok.inj h⟩

theorem exists_of_bind_eq_ok {f : α → Except ε β} {b : β} (h : (x >>= f) = .ok b) :
    ∃ a, x = .ok a ∧ f a = .ok b := by
  cases x with
  | error e => cases h
  | ok a => exact ⟨a, rfl, h⟩

variable {t t' : Table} {row : Row} {picks : Row → Bool} {changes : CellChanges} {count : Nat}
  {binding : Binding}

theorem Table.definition_insert (h : t.insert row = .ok t') : t'.definition = t.definition := by
  obtain ⟨_, -, rfl⟩ := exists_of_map_eq_ok h
  rfl

theorem Table.definition_update (h : t.update picks changes = .ok (t', count)) :
    t'.definition = t.definition := by
  obtain ⟨rows, -, same⟩ := exists_of_map_eq_ok h
  cases same
  rfl

theorem Table.definition_upsert (h : t.upsert row changes = .ok t') :
    t'.definition = t.definition := by
  rw [upsert] at h
  split at h
  next => cases h
  next =>
    split at h
    next =>
      obtain ⟨result, updated, rfl⟩ := exists_of_map_eq_ok h
      exact definition_update updated
    next =>
      cases h
      rfl

theorem InsertPlan.definition_run {p : InsertPlan} (h : p.run binding = .ok t') :
    t'.definition = p.table.definition := by
  rw [run] at h
  cases conflict : p.onConflict with
  | none =>
    rw [conflict] at h
    exact Table.definition_insert h
  | some settings =>
    rw [conflict] at h
    exact Table.definition_upsert h

theorem UpdatePlan.definition_run {p : UpdatePlan} (h : p.run binding = .ok (t', count)) :
    t'.definition = p.table.definition := Table.definition_update h

theorem eq_ok_of_constrained_eq_ok {x : Except Violation α} {a : α} (h : constrained x = .ok a) :
    x = .ok a := by
  cases x with
  | error violation => cases h
  | ok b => exact congrArg Except.ok (Except.ok.inj h)

end Definitions

namespace Store

variable {s s' : Store} {statement : Statement} {count : Nat}

/-! ## What a statement leaves of a store -/

theorem run_of_ok (h : s.execute statement = .ok (s', count)) :
    (s.run statement).value = (.ok count, s') := by
  rw [run, Logged.value_bind, h]
  rfl

/-- A statement that fails leaves the store as it was. -/
theorem run_of_error {e : StoreError} (h : s.execute statement = .error e) :
    (s.run statement).value = (.error e, s) := by
  rw [run, Logged.value_bind, h]
  rfl

theorem fst_run (s : Store) (statement : Statement) :
    (s.run statement).value.1 = (s.execute statement).map Prod.snd := by
  cases outcome : s.execute statement with
  | error e => rw [run_of_error outcome]; rfl
  | ok result => rw [run_of_ok outcome]; rfl

theorem mem_tables_of_plan?_insert {i : InsertCommand} {p : InsertPlan} (h : i.plan? s = some p) :
    p.table ∈ s.tables := by
  simp only [InsertCommand.plan?, Option.bind_eq_bind, Option.bind_eq_some_iff] at h
  obtain ⟨t, table, _, -, _, -, rest⟩ := h
  cases rest
  exact List.mem_of_find?_eq_some table

theorem mem_tables_of_plan?_update {u : UpdateCommand} {p : UpdatePlan} (h : u.plan? s = some p) :
    p.table ∈ s.tables := by
  simp only [UpdateCommand.plan?, Option.bind_eq_bind, Option.bind_eq_some_iff] at h
  obtain ⟨t, table, _, -, _, -, rest⟩ := h
  cases rest
  exact List.mem_of_find?_eq_some table

/-- A statement that succeeds puts a table in the place that it had. -/
theorem exists_replace_of_execute (h : s.execute statement = .ok (s', count)) :
    ∃ t ∈ s.tables, ∃ t', t'.definition = t.definition ∧ s' = s.replace t' := by
  rw [execute] at h
  split at h
  next i _ =>
    split at h
    next p plan =>
      obtain ⟨binding, -, h⟩ := exists_of_bind_eq_ok h
      obtain ⟨t', run, h⟩ := exists_of_bind_eq_ok h
      cases h
      exact ⟨p.table, mem_tables_of_plan?_insert plan, t',
        InsertPlan.definition_run (eq_ok_of_constrained_eq_ok run), rfl⟩
    next => cases h
  next u _ =>
    split at h
    next p plan =>
      obtain ⟨binding, -, h⟩ := exists_of_bind_eq_ok h
      obtain ⟨⟨t', n⟩, run, h⟩ := exists_of_bind_eq_ok h
      cases h
      exact ⟨p.table, mem_tables_of_plan?_update plan, t',
        UpdatePlan.definition_run (eq_ok_of_constrained_eq_ok run), rfl⟩
    next => cases h
  next q _ =>
    split at h
    next p plan =>
      obtain ⟨binding, -, h⟩ := exists_of_bind_eq_ok h
      cases h
    next => cases h
  next => cases h

theorem OfSchema.execute (h : s.OfSchema) (run : s.execute statement = .ok (s', count)) :
    s'.OfSchema := by
  obtain ⟨t, ht, t', same, rfl⟩ := exists_replace_of_execute run
  refine h.replace ?_
  rw [same]
  exact h.definition_mem ht

theorem OfSchema.run (h : s.OfSchema) (statement : Statement) :
    (s.run statement).value.2.OfSchema := by
  cases outcome : s.execute statement with
  | error e => rwa [run_of_error outcome]
  | ok result =>
    rw [run_of_ok outcome]
    exact h.execute outcome

/-! ## Reachable stores -/

/-- The stores that statements lead to, one after another, from the store without rows. -/
inductive Reachable : Store → Prop
  | empty : Reachable Store.empty
  | run {s : Store} (h : Reachable s) (statement : Statement) :
    Reachable (s.run statement).value.2

theorem Reachable.ofSchema (h : s.Reachable) : s.OfSchema := by
  induction h with
  | empty => exact OfSchema.empty
  | run _ statement ih => exact ih.run statement

end Store

end Rowset
