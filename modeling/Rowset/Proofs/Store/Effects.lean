import Rowset.Proofs.Store.Writes

/-!
# What inserts, upserts and updates do

On every store that writes lead to, an insert and an upsert of a record agree where its id is free
and part ways where it is taken, and an update touches nothing but what its record states. Upserts
under one id absorb each other: what the last one writes is all that matters.
-/

namespace Rowset

/-! ## Upserts under one id -/

namespace Entity

variable {e f : Entity} {row : Row}

theorem definition_eq_of_table_eq (h : f.table = e.table) : f.definition = e.definition :=
  name_injOn_schema f.definition_mem e.definition_mem h

/-- Records of one table and one id own the same rows. -/
theorem owns_eq (table : f.table = e.table) (key : f.id = e.id) : f.owns = e.owns := by
  funext row
  rw [owns, owns, definition_eq_of_table_eq table, key]

theorem owns_fresh (e : Entity) : e.owns e.fresh = true := e.owns_iff.2 e.holds_fresh.key

theorem owns_overwrite (e : Entity) (row : Row) : e.owns (e.overwrite row) = true := by
  rw [owns_iff, keyOf_definition]
  cases e <;> rfl

/-- Records of one table are of one kind. -/
theorem same_kind (h : f.table = e.table) :
    (∃ c d, f = category c ∧ e = category d) ∨ ∃ q r, f = reward q ∧ e = reward r := by
  have apart : categoriesDef.name ≠ rewardsDef.name := by decide
  cases f with
  | category c =>
    cases e with
    | category d => exact .inl ⟨c, d, rfl, rfl⟩
    | reward r => exact absurd h apart
  | reward q =>
    cases e with
    | category d => exact absurd h.symm apart
    | reward r => exact .inr ⟨q, r, rfl, rfl⟩

/-- What an upsert writes hides all that an earlier one wrote into the same row. -/
theorem overwrite_fresh (table : f.table = e.table) : f.overwrite e.fresh = f.fresh := by
  obtain ⟨c, d, rfl, rfl⟩ | ⟨q, r, rfl, rfl⟩ := same_kind table <;> rfl

theorem overwrite_overwrite (table : f.table = e.table) :
    f.overwrite (e.overwrite row) = f.overwrite row := by
  obtain ⟨c, d, rfl, rfl⟩ | ⟨q, r, rfl, rfl⟩ := same_kind table <;> rfl

/-- The rows after an upsert: the record's own overwritten, or its row added. -/
def upserted (e : Entity) (rows : List Row) : List Row :=
  if rows.any e.owns then rows.map fun row => if e.owns row then e.overwrite row else row
  else rows ++ [e.fresh]

variable {rows : List Row}

theorem upserted_of_taken (taken : ∃ row ∈ rows, e.owns row = true) :
    e.upserted rows = rows.map fun row => if e.owns row then e.overwrite row else row :=
  if_pos (List.any_eq_true.2 taken)

theorem upserted_of_free (free : ∀ row ∈ rows, e.owns row = false) :
    e.upserted rows = rows ++ [e.fresh] :=
  if_neg (by simpa using free)

theorem upserted_upserted (table : f.table = e.table) (key : f.id = e.id) :
    f.upserted (e.upserted rows) = f.upserted rows := by
  have owns := owns_eq table key
  by_cases taken : ∃ row ∈ rows, e.owns row = true
  · have twice : ∃ row ∈ rows.map fun row => if e.owns row then e.overwrite row else row,
        f.owns row = true := by
      obtain ⟨row, hrow, own⟩ := taken
      refine ⟨_, List.mem_map_of_mem hrow, ?_⟩
      rw [if_pos own, owns]
      exact e.owns_overwrite row
    rw [upserted_of_taken taken, upserted_of_taken twice, upserted_of_taken (owns ▸ taken),
      List.map_map]
    refine List.map_congr_left fun row _ => ?_
    by_cases own : e.owns row = true
    · simp [owns, own, owns_overwrite, overwrite_overwrite table]
    · simp [owns, own]
  · have free : ∀ row ∈ rows, e.owns row = false := by simpa using taken
    have twice : ∃ row ∈ rows ++ [e.fresh], f.owns row = true :=
      ⟨e.fresh, by simp, owns ▸ e.owns_fresh⟩
    rw [upserted_of_free free, upserted_of_taken twice, upserted_of_free (owns ▸ free),
      List.map_append, List.map_singleton, owns, if_pos e.owns_fresh, overwrite_fresh table]
    have kept : rows.map (fun row => if e.owns row then f.overwrite row else row) =
        rows.map fun row => row :=
      List.map_congr_left fun row hrow => if_neg (by simp [free row hrow])
    rw [kept, List.map_id']

end Entity

/-- The rows of all tables once a record's own has been given other rows. -/
theorem Store.OfSchema.rows_replace_entity {s : Store} (h : s.OfSchema) (e : Entity)
    (f : List Row → List Row) (table : String) :
    (s.replace ⟨e.definition, f (s.rows e.table)⟩).rows table =
      if table = e.table then f (s.rows table) else s.rows table := by
  split
  next same =>
    subst same
    exact rows_replace h e.definition_mem
  next other => exact rows_replace_of_ne other

namespace Store.Sound

variable {s : Store} (h : s.Sound)
include h

theorem perform_upsert (e : Entity) :
    s.perform (.upsert e) = s.replace ⟨e.definition, e.upserted (s.rows e.table)⟩ := by
  rcases s.free_or_taken e with free | taken
  · rw [e.upserted_of_free free]
    exact perform_of_ok e.statement_upsert (h.insertion_of_free e free true)
  · rw [e.upserted_of_taken taken]
    exact perform_of_ok e.statement_upsert (h.upsertion_of_taken e taken)

theorem rows_perform_upsert (e : Entity) :
    (s.perform (.upsert e)).rows e.table = e.upserted (s.rows e.table) := by
  rw [h.perform_upsert e]
  exact rows_replace h.ofSchema e.definition_mem

/-- An upsert hides an earlier one under the same id. -/
theorem perform_upsert_upsert {e f : Entity} (table : f.table = e.table) (key : f.id = e.id) :
    (s.perform (.upsert e)).perform (.upsert f) = s.perform (.upsert f) := by
  have definition := Entity.definition_eq_of_table_eq table
  have rows : (s.perform (.upsert e)).rows f.table = e.upserted (s.rows f.table) := by
    rw [table]
    exact h.rows_perform_upsert e
  rw [(h.perform (.upsert e)).perform_upsert f, rows, Entity.upserted_upserted table key,
    h.perform_upsert e, h.perform_upsert f]
  exact replace_replace (congrArg TableDef.name definition.symm)

theorem rows_replace_entity (e : Entity) (f : List Row → List Row) (table : String) :
    (s.replace ⟨e.definition, f (s.rows e.table)⟩).rows table =
      if table = e.table then f (s.rows table) else s.rows table :=
  h.ofSchema.rows_replace_entity e f table

end Store.Sound

/-- Upserts into one table, one after another. -/
theorem Store.rows_ofWrites_upserts (table : String) {list : List Entity}
    (same : ∀ e ∈ list, e.table = table) :
    (ofWrites (list.map .upsert)).rows table = list.foldl (fun rows e => e.upserted rows) [] := by
  have run : ∀ s : Store, s.Sound → ((list.map Write.upsert).foldl Store.perform s).rows table =
      list.foldl (fun rows e => e.upserted rows) (s.rows table) := by
    induction list with
    | nil => exact fun s h => rfl
    | cons e list ih =>
      intro s h
      obtain ⟨rfl, same⟩ := List.forall_mem_cons.1 same
      rw [List.map_cons, List.foldl_cons, ih same _ (h.perform _), h.rows_perform_upsert e]
      rfl
  rw [ofWrites, run _ .empty, rows_empty]

/-- Insert and upsert mean what they say. Where no row has the record's id, both report one row and
lead to the same store, which has the record's row behind the others. Where a row has the id, an
insert fails and leaves the store as it was, and an upsert reports one row and overwrites that row
alone. So an upsert of one record and then of another under the same id is the upsert of the latter
alone; in particular an upsert that is run twice is the same as one that is run once. -/
theorem insert_and_upsert (writes : List Write) (e : Entity) :
    let s := Store.ofWrites writes
    ∃ plain upsert, insertStatement .named e.table "id" e.record false = .ok plain ∧
      insertStatement .named e.table "id" e.record true = .ok upsert ∧
      ((∀ row ∈ s.rows e.table, e.owns row = false) →
        ∃ s', (s.run plain).value = (.ok 1, s') ∧ (s.run upsert).value = (.ok 1, s') ∧
          ∀ table, s'.rows table =
            if table = e.table then s.rows table ++ [e.fresh] else s.rows table) ∧
      ((∃ row ∈ s.rows e.table, e.owns row = true) →
        (s.run plain).value = (.error (.constraint (.unique e.table "id")), s) ∧
        ∃ s', (s.run upsert).value = (.ok 1, s') ∧
          ∀ table, s'.rows table =
            if table = e.table then
              (s.rows table).map fun row => if e.owns row then e.overwrite row else row
            else s.rows table) ∧
      ∀ f : Entity, f.table = e.table → f.id = e.id →
        (s.perform (.upsert e)).perform (.upsert f) = s.perform (.upsert f) := by
  intro s
  have h : s.Sound := Store.sound_ofWrites writes
  refine ⟨_, _, e.insertStatement_eq false, e.insertStatement_eq true, fun free => ?_,
    fun taken => ⟨Store.run_of_error (h.insertion_of_taken e taken), ?_⟩,
    fun f => h.perform_upsert_upsert⟩
  · exact ⟨_, Store.run_of_ok (h.insertion_of_free e free false),
      Store.run_of_ok (h.insertion_of_free e free true), h.rows_replace_entity e (· ++ [e.fresh])⟩
  · exact ⟨_, Store.run_of_ok (h.upsertion_of_taken e taken), h.rows_replace_entity e
      (List.map fun row => if e.owns row then e.overwrite row else row)⟩

/-- Beside a category, one under a free id and one under the same id. -/
theorem insert_and_upsert_beside_category :
    let s := Store.ofWrites [.insert (.category (.new "c1" "Chess"))]
    let other := Entity.category (.new "c2" "Go")
    let again := Entity.category { id := "c1", name := "Shogi", boxArtUrl := "c1.png" }
    (∀ row ∈ s.rows other.table, other.owns row = false) ∧
      (∃ row ∈ s.rows again.table, again.owns row = true) ∧
      (∃ plain s', insertStatement .named other.table "id" other.record false = .ok plain ∧
        (s.run plain).value = (.ok 1, s') ∧
        s'.rows "categories" = s.rows "categories" ++ [[.text "c2", .text "Go", .text ""]]) ∧
      (∃ plain, insertStatement .named again.table "id" again.record false = .ok plain ∧
        (s.run plain).value = (.error (.constraint (.unique "categories" "id")), s)) ∧
      (s.perform (.upsert again)).perform (.upsert again) = s.perform (.upsert again) := by
  intro s other again
  have free : ∀ row ∈ s.rows other.table, other.owns row = false := by decide +kernel
  have taken : ∃ row ∈ s.rows again.table, again.owns row = true := by decide +kernel
  refine ⟨free, taken, ?_, ?_, ?_⟩
  · obtain ⟨plain, upsert, statement, -, added, -⟩ :=
      insert_and_upsert [.insert (.category (.new "c1" "Chess"))] other
    obtain ⟨s', run, -, rows⟩ := added free
    exact ⟨plain, s', statement, run, rows "categories"⟩
  · obtain ⟨plain, upsert, statement, -, -, refused, -⟩ :=
      insert_and_upsert [.insert (.category (.new "c1" "Chess"))] again
    exact ⟨plain, statement, (refused taken).1⟩
  · obtain ⟨-, -, -, -, -, -, absorbed⟩ :=
      insert_and_upsert [.insert (.category (.new "c1" "Chess"))] again
    exact absorbed again rfl rfl

/-- An update of a reward patches the row of its id, if there is one, and touches nothing else. It
is always generated and never fails, reports as many rows as have the id, which is one at most, and
changes no id. What the patch says about the broadcaster's name makes no difference. -/
theorem patch_touches_stated (writes : List Write) (p : Reward) :
    let s := Store.ofWrites writes
    let e := Entity.reward p
    ∃ statement s', updateStatement .named "rewards" ["id"] p.record = .ok statement ∧
      (s.run statement).value = (.ok ((s.rows "rewards").countP e.owns), s') ∧
      (s.rows "rewards").countP e.owns ≤ 1 ∧
      (∀ table, s'.rows table =
        if table = "rewards" then
          (s.rows table).map fun row => if e.owns row then e.patch row else row
        else s.rows table) ∧
      (s'.rows "rewards").map rewardsDef.keyOf = (s.rows "rewards").map rewardsDef.keyOf ∧
      ∀ name, updateStatement .named "rewards" ["id"] { p with broadcasterName := name }.record =
        .ok statement := by
  intro s e
  have h : s.Sound := Store.sound_ofWrites writes
  have rows := h.rows_replace_entity e (List.map fun row => if e.owns row then e.patch row else row)
  refine ⟨_, _, e.updateStatement_eq, Store.run_of_ok (h.correction_eq e), h.countP_owns_le_one e,
    rows, ?_, fun name => ?_⟩
  · rw [rows, if_pos (show "rewards" = e.table from rfl), List.map_map]
    refine List.map_congr_left fun row _ => ?_
    show e.definition.keyOf (if _ then _ else _) = e.definition.keyOf row
    split
    next => rw [e.keyOf_definition, e.keyOf_definition]; rfl
    next => rfl
  · -- The name is only read, so it is not among the columns that can be written.
    have same := (Entity.reward { p with broadcasterName := name }).updateStatement_eq
    rw [Entity.correction, Entity.updated_eq, Entity.columns_reward] at same
    rw [Entity.correction, Entity.updated_eq, Entity.columns_reward]
    exact same

end Rowset
