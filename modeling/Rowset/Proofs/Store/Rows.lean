import Mathlib.Data.List.Nodup
import Rowset.Store.Table

/-!
# Rows with keys of their own

A table is sound when each of its rows has a value for every column that needs one and a text for
its key, and no two rows share a key. Changes are plain on a sound table: a row is added at the end
if its key is free, and the rows that are changed stand where they stood, as long as they keep their
keys. Such changes leave the table sound.
-/

namespace Rowset

namespace TableDef

/-- The place of the key. -/
def keyPlace (d : TableDef) : Nat := d.columns.findIdx fun c => c.name == d.key

/-- A row that a table may hold under a key. -/
structure Holds (d : TableDef) (id : String) (row : Row) : Prop where
  width : row.length = d.columns.length
  complete : d.missing? row = none
  key : d.keyOf row = .text id

/-- A cell that may be set in a row of a key. -/
structure Admits (d : TableDef) (id : String) (change : Nat × SqlValue) : Prop where
  present : ∀ c ∈ d.columns[change.1]?, c.notNull = true → change.2.isNull = false
  key : change.1 = d.keyPlace → change.2 = .text id

end TableDef

structure Table.Sound (t : Table) : Prop where
  holds : ∀ row ∈ t.rows, ∃ id, t.definition.Holds id row
  distinct : (t.rows.map t.definition.keyOf).Nodup

/-! ## Changed cells -/

namespace TableDef

theorem cell_set_self {row : Row} {i : Nat} (h : i < row.length) {v : SqlValue} :
    cell (row.set i v) i = v := by
  simp [cell, h]

theorem cell_set_of_ne {i j : Nat} (h : i ≠ j) {row : Row} {v : SqlValue} :
    cell (row.set i v) j = cell row j := by
  simp [cell, h]

theorem set_cell {row : Row} {i : Nat} : row.set i (cell row i) = row := by
  by_cases inside : i < row.length
  · simp [cell, List.getElem?_eq_getElem inside]
  · exact List.set_eq_of_length_le (Nat.le_of_not_lt inside)

/-- A row is all of its cells. -/
theorem map_cell_range (row : Row) : (List.range row.length).map (cell row) = row := by
  refine List.ext_getElem (by simp) fun i _ inside => ?_
  simp [cell, inside]

/-- No value is missing when each column that needs one has one in its place. -/
theorem missing?_eq_none_iff {d : TableDef} {row : Row} : d.missing? row = none ↔
    ∀ (i : Nat) (c : ColumnDef) (v : SqlValue), d.columns[i]? = some c → row[i]? = some v →
      c.notNull = true → v.isNull = false := by
  rw [missing?, Option.map_eq_none_iff, List.find?_eq_none]
  constructor
  · intro none i c v hc hv needed
    have mem := List.mem_of_getElem? (List.getElem?_zip_eq_some (z := (c, v)).2 ⟨hc, hv⟩)
    simpa [needed] using none (c, v) mem
  · intro none cv mem
    obtain ⟨i, place⟩ := List.mem_iff_getElem?.1 mem
    obtain ⟨hc, hv⟩ := List.getElem?_zip_eq_some.1 place
    simpa using none i cv.1 cv.2 hc hv

end TableDef

namespace Row

theorem change_cons (row : Row) (change : Nat × SqlValue) (changes : CellChanges) :
    row.change (change :: changes) = Row.change (row.set change.1 change.2) changes := rfl

/-- A cell is as it was, or as one of the changes has it. -/
theorem cell_change (row : Row) (changes : CellChanges) (i : Nat) :
    TableDef.cell (row.change changes) i = TableDef.cell row i ∨
      ∃ change ∈ changes, change.1 = i ∧ TableDef.cell (row.change changes) i = change.2 := by
  induction changes generalizing row with
  | nil => exact .inl rfl
  | cons change changes ih =>
    rw [change_cons]
    rcases ih (row.set change.1 change.2) with kept | ⟨later, hlater, place, set⟩
    · rw [kept]
      by_cases here : change.1 = i
      · by_cases inside : change.1 < row.length
        · refine .inr ⟨change, List.mem_cons_self, here, ?_⟩
          rw [← here, TableDef.cell_set_self inside]
        · rw [List.set_eq_of_length_le (Nat.le_of_not_lt inside)]
          exact .inl rfl
      · rw [TableDef.cell_set_of_ne here]
        exact .inl rfl
    · exact .inr ⟨later, List.mem_cons_of_mem _ hlater, place, set⟩

/-- Of changes to different cells some are left out: the cells stay as they are. -/
theorem change_filter {α : Type} {row : Row} {p : α → Bool} {f : α → Nat × SqlValue} {list : List α}
    (distinct : (list.map fun a => (f a).1).Nodup) :
    row.change ((list.filter p).map f) =
      row.change (list.map fun a =>
        ((f a).1, if p a then (f a).2 else TableDef.cell row (f a).1)) := by
  induction list generalizing row with
  | nil => rfl
  | cons a list ih =>
    obtain ⟨new, distinct⟩ := List.nodup_cons.1 distinct
    rw [List.map_cons, change_cons]
    have others : ∀ v, list.map (fun b => ((f b).1, if p b then (f b).2
          else TableDef.cell (row.set (f a).1 v) (f b).1)) =
        list.map fun b => ((f b).1, if p b then (f b).2 else TableDef.cell row (f b).1) := by
      refine fun v => List.map_congr_left fun b hb => ?_
      have apart : (f a).1 ≠ (f b).1 := fun same => new (List.mem_map.2 ⟨b, hb, same.symm⟩)
      rw [TableDef.cell_set_of_ne apart]
    rw [← others, ← ih distinct]
    by_cases h : p a = true
    · rw [List.filter_cons_of_pos h, if_pos h]
      rfl
    · rw [List.filter_cons_of_neg h, if_neg h, TableDef.set_cell]

end Row

theorem TableDef.Holds.set {d : TableDef} {id : String} {row : Row} (h : d.Holds id row)
    {change : Nat × SqlValue} (admits : d.Admits id change) :
    d.Holds id (row.set change.1 change.2) := by
  by_cases inside : change.1 < row.length
  · refine ⟨by rw [List.length_set, h.width], ?_, ?_⟩
    · rw [missing?_eq_none_iff]
      intro i c v hc hv
      rw [List.getElem?_set] at hv
      split at hv
      next same =>
        subst same
        obtain rfl : change.2 = v := by simpa [inside] using hv
        exact admits.present c hc
      next => exact missing?_eq_none_iff.1 h.complete i c v hc hv
    · show cell _ d.keyPlace = _
      by_cases same : change.1 = d.keyPlace
      · rw [← same, cell_set_self inside, admits.key same]
      · rw [cell_set_of_ne same]
        exact h.key
  · rwa [List.set_eq_of_length_le (Nat.le_of_not_lt inside)]

theorem TableDef.Holds.change {d : TableDef} {id : String} {row : Row} (h : d.Holds id row)
    {changes : CellChanges} (admits : ∀ change ∈ changes, d.Admits id change) :
    d.Holds id (row.change changes) := by
  induction changes generalizing row with
  | nil => exact h
  | cons change changes ih =>
    rw [Row.change_cons]
    exact ih (h.set (admits change List.mem_cons_self))
      fun c hc => admits c (List.mem_cons_of_mem _ hc)

/-! ## Keys -/

section Keys

variable {d : TableDef} {row : Row} {others : List Row} {id : String}

theorem TableDef.sameKey_iff (h : d.keyOf row = .text id) (other : Row) :
    d.sameKey row other = true ↔ d.keyOf other = .text id := by
  have present : (SqlValue.text id).isNull = false := rfl
  rw [sameKey, h, present, Bool.not_false, Bool.true_and, beq_iff_eq]
  exact eq_comm

theorem TableDef.clash?_eq_none (h : d.Holds id row) (free : ∀ o ∈ others, d.keyOf o ≠ .text id) :
    d.clash? row others = none :=
  List.find?_eq_none.2 fun o ho same => free o ho ((sameKey_iff h.key o).1 same)

theorem TableDef.isSome_clash? (h : d.Holds id row) (taken : ∃ o ∈ others, d.keyOf o = .text id) :
    (d.clash? row others).isSome = true := by
  obtain ⟨o, ho, same⟩ := taken
  exact List.find?_isSome.2 ⟨o, ho, (sameKey_iff h.key o).2 same⟩

theorem TableDef.check_eq_ok (h : d.Holds id row) (free : ∀ o ∈ others, d.keyOf o ≠ .text id) :
    d.check row others = .ok () := by
  rw [check, h.complete, clash?_eq_none h free]

end Keys

namespace Table

variable {t : Table} {row : Row} {id : String} {picks : Row → Bool} {changes : CellChanges}

/-! ## Changed rows -/

/-- Rows that keep their keys when they are changed never get into each other's way. -/
theorem changeRows_eq {d : TableDef} (done : List Row) {rest : List Row}
    (distinct : ((done ++ rest).map d.keyOf).Nodup)
    (kept : ∀ r ∈ rest, picks r = true →
      ∃ id, d.keyOf r = .text id ∧ d.Holds id (r.change changes)) :
    changeRows d picks changes done rest =
      .ok (done ++ rest.map fun r => if picks r then r.change changes else r) := by
  induction rest generalizing done with
  | nil => rw [changeRows, List.map_nil, List.append_nil]
  | cons r rest ih =>
    have rest_kept := fun o ho => kept o (List.mem_cons_of_mem r ho)
    rw [changeRows]
    split
    next picked =>
      obtain ⟨id, key, holds⟩ := kept r List.mem_cons_self picked
      -- A changed row keeps its key, so all keys are as distinct as before.
      have keys : ((done ++ [r.change changes] ++ rest).map d.keyOf) =
          (done ++ r :: rest).map d.keyOf := by simp [key, holds.key]
      have free : ∀ o ∈ done ++ rest, d.keyOf o ≠ .text id := by
        intro o ho same
        have split := List.nodup_middle.1 (by simpa using distinct)
        refine (List.nodup_cons.1 split).1 ?_
        rw [key, ← same, ← List.map_append]
        exact List.mem_map_of_mem ho
      simp only [TableDef.check_eq_ok holds free]
      rw [ih _ (keys ▸ distinct) rest_kept, List.map_cons, if_pos picked, List.append_assoc]
      rfl
    next passed =>
      rw [ih _ (by simpa using distinct) rest_kept, List.map_cons, if_neg passed, List.append_assoc]
      rfl

/-- An update changes the rows that are picked and no others. -/
theorem update_eq (sound : t.Sound) (kept : ∀ r ∈ t.rows, picks r = true →
    ∃ id, t.definition.keyOf r = .text id ∧ t.definition.Holds id (r.change changes)) :
    t.update picks changes =
      .ok ({ t with rows := t.rows.map fun r => if picks r then r.change changes else r },
        t.rows.countP picks) := by
  rw [update, changeRows_eq [] sound.distinct kept]
  rfl

/-- Rows that are not picked stay, whatever they are. -/
theorem changeRows_of_none {d : TableDef} (done : List Row) {rest : List Row}
    (none : ∀ r ∈ rest, picks r = false) :
    changeRows d picks changes done rest = .ok (done ++ rest) := by
  induction rest generalizing done with
  | nil => rw [changeRows, List.append_nil]
  | cons r rest ih =>
    obtain ⟨passed, rest_passed⟩ := List.forall_mem_cons.1 none
    rw [changeRows, if_neg (by simp [passed]), ih _ rest_passed, List.append_assoc]
    rfl

theorem update_of_none (none : ∀ r ∈ t.rows, picks r = false) :
    t.update picks changes = .ok (t, 0) := by
  have count : t.rows.countP picks = 0 := List.countP_eq_zero.2 (by simpa using none)
  rw [update, changeRows_of_none [] none, count]
  rfl

/-- Changes that succeed are made to the rows that are picked, each in its place. -/
theorem eq_of_changeRows_eq_ok {d : TableDef} {done rest rows : List Row}
    (h : changeRows d picks changes done rest = .ok rows) :
    rows = done ++ rest.map fun r => if picks r then r.change changes else r := by
  induction rest generalizing done with
  | nil =>
    rw [changeRows] at h
    rw [List.map_nil, List.append_nil]
    exact (Except.ok.inj h).symm
  | cons r rest ih =>
    rw [changeRows] at h
    rw [List.map_cons, ← List.singleton_append, ← List.append_assoc]
    split at h
    next picked =>
      rw [if_pos picked]
      cases check : d.check (r.change changes) (done ++ rest) with
      | error violation =>
        simp only [check] at h
        cases h
      | ok _ =>
        simp only [check] at h
        exact ih h
    next passed =>
      rw [if_neg passed]
      exact ih h

theorem update_error_or_ok (t : Table) (picks : Row → Bool) (changes : CellChanges) :
    (∃ violation, t.update picks changes = .error violation) ∨
      t.update picks changes =
        .ok ({ t with rows := t.rows.map fun r => if picks r then r.change changes else r },
          t.rows.countP picks) := by
  rw [update]
  cases changed : changeRows t.definition picks changes [] t.rows with
  | error violation => exact .inl ⟨violation, rfl⟩
  | ok rows =>
    obtain rfl := eq_of_changeRows_eq_ok changed
    exact .inr rfl

/-! ## Added rows -/

theorem insert_of_free (h : t.definition.Holds id row)
    (free : ∀ o ∈ t.rows, t.definition.keyOf o ≠ .text id) :
    t.insert row = .ok { t with rows := t.rows ++ [row] } := by
  rw [insert, TableDef.check_eq_ok h free]
  rfl

theorem insert_of_taken (h : t.definition.Holds id row)
    (taken : ∃ o ∈ t.rows, t.definition.keyOf o = .text id) :
    t.insert row = .error (.unique t.definition.name t.definition.key) := by
  obtain ⟨o, found⟩ := Option.isSome_iff_exists.1 (TableDef.isSome_clash? h taken)
  rw [insert, TableDef.check, h.complete, found]
  rfl

theorem upsert_of_free (h : t.definition.Holds id row)
    (free : ∀ o ∈ t.rows, t.definition.keyOf o ≠ .text id) :
    t.upsert row changes = .ok { t with rows := t.rows ++ [row] } := by
  rw [upsert, h.complete, TableDef.clash?_eq_none h free]
  rfl

/-- Where the key is taken, an upsert is an update of the row that has it. -/
theorem upsert_of_taken (h : t.definition.Holds id row)
    (taken : ∃ o ∈ t.rows, t.definition.keyOf o = .text id) :
    t.upsert row changes = (t.update (t.definition.sameKey row) changes).map Prod.fst := by
  rw [upsert, h.complete, TableDef.isSome_clash? h taken]
  rfl

/-! ## Soundness -/

theorem Sound.append (sound : t.Sound) (h : t.definition.Holds id row)
    (free : ∀ o ∈ t.rows, t.definition.keyOf o ≠ .text id) :
    Sound { t with rows := t.rows ++ [row] } where
  holds := List.forall_mem_append.2 ⟨sound.holds, by simpa using ⟨id, h⟩⟩
  distinct := by
    rw [List.map_append, List.map_singleton, h.key]
    refine List.nodup_append.2 ⟨sound.distinct, List.nodup_singleton _, fun k hk l hl same => ?_⟩
    obtain ⟨o, ho, rfl⟩ := List.mem_map.1 hk
    exact free o ho (same.trans (List.mem_singleton.1 hl))

/-- A table stays sound when rows are changed under their own keys. -/
theorem Sound.map (sound : t.Sound) {f : Row → Row}
    (kept : ∀ r ∈ t.rows, ∀ id, t.definition.Holds id r → t.definition.Holds id (f r)) :
    Sound { t with rows := t.rows.map f } where
  holds := List.forall_mem_map.2 fun r hr => (sound.holds r hr).imp (kept r hr)
  distinct := by
    have keys : (t.rows.map f).map t.definition.keyOf = t.rows.map t.definition.keyOf := by
      rw [List.map_map]
      refine List.map_congr_left fun r hr => ?_
      obtain ⟨id, h⟩ := sound.holds r hr
      exact (kept r hr id h).key.trans h.key.symm
    exact keys ▸ sound.distinct

end Table

end Rowset
