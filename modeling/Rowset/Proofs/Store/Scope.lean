import Rowset.Proofs.Store.Effects

/-!
# The rows that keys pick

An update under some of a record's columns changes the rows that hold the record's own values there,
be they zero or not. Only a value that is absent is no key: no row equals it, not even one that has
no value there either, and so nothing is changed.
-/

namespace Rowset

namespace Entity

variable (e : Entity) {keys : List String}

/-- Whether a row holds the values that the record is written with in all these columns. -/
def agreesOn (keys : List String) (row : Row) : Bool :=
  keys.all fun key => e.definition.value row key == e.definition.value e.fresh key

/-- Whether the record has no value in one of these columns. -/
def lacks (keys : List String) : Bool :=
  keys.any fun key => (e.definition.value e.fresh key).isNull

/-! ## What equality tells -/

theorem isExact_fresh : ∀ v ∈ e.fresh, v.isNull = false → v.isExact = true := by
  cases e with
  | category c =>
    simp only [fresh, List.forall_mem_cons]
    exact ⟨fun _ => rfl, fun _ => rfl, fun _ => rfl, List.forall_mem_nil _⟩
  | reward r =>
    have optional : ∀ o, (SqlValue.optional o).isNull = false →
        (SqlValue.optional o).isExact = true := by
      rintro (_ | n) present
      · cases present
      · rfl
    simp only [fresh, List.forall_mem_cons]
    exact ⟨fun _ => rfl, fun _ => rfl, fun _ => rfl, fun _ => rfl, fun _ => rfl, fun _ => rfl,
      optional _, List.forall_mem_nil _⟩

/-- Of the values that are there, equality tells whether another one is the same. -/
theorem isExact_value_fresh {name : String}
    (present : (e.definition.value e.fresh name).isNull = false) :
    (e.definition.value e.fresh name).isExact = true := by
  by_cases inside : e.definition.place name < e.fresh.length
  · have cell : e.definition.value e.fresh name = e.fresh[e.definition.place name] := by
      simp [TableDef.value, TableDef.cell, inside]
    rw [cell] at present ⊢
    exact e.isExact_fresh _ (List.getElem_mem inside) present
  · have absent : e.definition.value e.fresh name = .null := by
      simp [TableDef.value, TableDef.cell, Nat.le_of_not_lt inside]
    rw [absent] at present
    cases present

theorem stored_held {name : String} (h : name ∈ e.names) :
    (e.held name).stored = e.definition.value e.fresh name := by
  obtain ⟨c, hc, rfl⟩ := e.exists_column h
  rw [e.held_name hc, e.value_fresh hc]

variable (known : ∀ key ∈ keys, key ∈ e.names)
include known

/-- With a value for every key, the rows that are picked are those that hold these values. -/
theorem accepts_keyedBy (present : e.lacks keys = false) :
    Joiner.and.accepts e.definition (e.keyedBy keys) = e.agreesOn keys := by
  funext row
  refine all_map_eq_all fun key hk => ?_
  have precise : (e.definition.value e.fresh key).isExact = true :=
    e.isExact_value_fresh (by simpa using List.any_eq_false.1 present key hk)
  show ((e.definition.value row key).equal? (e.held key).stored == some true) = _
  rw [e.stored_held (known key hk), Bool.eq_iff_iff, beq_iff_eq, beq_iff_eq]
  exact SqlValue.equal?_eq_some_true_iff precise

/-- Without a value for one of the keys, no row is picked. -/
theorem not_accepts_keyedBy (absent : e.lacks keys = true) (row : Row) :
    Joiner.and.accepts e.definition (e.keyedBy keys) row = false := by
  obtain ⟨key, hk, null⟩ := List.any_eq_true.1 absent
  refine List.all_eq_false.2 ⟨_, List.mem_map_of_mem hk, ?_⟩
  show ¬ ((e.definition.value row key).equal? (e.held key).stored == some true) = true
  rw [e.stored_held (known key hk)]
  cases value : e.definition.value e.fresh key with
  | null => cases e.definition.value row key <;> nofun
  | integer n | real x | text t | blob bs =>
    rw [value] at null
    cases null

/-! ## Updates under keys -/

/-- What an update under keys does to a row that it picks. -/
def revise (keys : List String) (row : Row) : Row :=
  row.change ((e.updatedBy keys).map fun a => a.change e.definition)

/-- What an update under keys does: it changes nothing where a key has no value, and otherwise breaks
a rule of the table or changes the rows that hold the values of its keys. -/
theorem run_keyedUpdate {s : Store} (h : s.OfSchema) (someKeys : keys ≠ []) :
    (e.lacks keys = true ∧ (s.run (e.keyedUpdate keys)).value = (.ok 0, s)) ∨
      (e.lacks keys = false ∧
        ((∃ violation, (s.run (e.keyedUpdate keys)).value = (.error (.constraint violation), s)) ∨
          (s.run (e.keyedUpdate keys)).value = (.ok ((s.rows e.table).countP (e.agreesOn keys)),
            s.replace ⟨e.definition, (s.rows e.table).map fun row =>
              if e.agreesOn keys row then e.revise keys row else row⟩))) := by
  have execute := h.execute_keyedUpdate e someKeys known
  cases lacks : e.lacks keys with
  | true =>
    refine .inl ⟨rfl, Store.run_of_ok ?_⟩
    rw [execute, Table.update_of_none fun row _ => e.not_accepts_keyedBy known lacks row]
    -- The table goes back into its place as it was.
    show Except.ok (s.replace ⟨e.definition, s.rows e.definition.name⟩, 0) = _
    rw [h.replace_self e.definition_mem]
  | false =>
    refine .inr ⟨rfl, ?_⟩
    rw [e.accepts_keyedBy known lacks] at execute
    rcases Table.update_error_or_ok ⟨e.definition, s.rows e.table⟩ (e.agreesOn keys)
      ((e.updatedBy keys).map fun a => a.change e.definition) with ⟨violation, update⟩ | update
    · rw [update] at execute
      exact .inl ⟨violation, Store.run_of_error execute⟩
    · rw [update] at execute
      exact .inr (Store.run_of_ok execute)

end Entity

/-! ## Rewards -/

/-- A reward has a value in each of its columns, its limit excepted. -/
theorem isNull_value_reward {p : Reward} : ∀ name ∈ (Entity.reward p).names,
    ((rewardsDef.value (Entity.reward p).fresh name).isNull = true ↔
      name = "max_per_stream" ∧ p.limits.maxPerStream = none) := by
  cases limit : p.limits.maxPerStream with
  | none | some n =>
    simp [Entity.names, Entity.fresh, TableDef.value, TableDef.cell, Entity.place_rewards,
      SqlValue.isNull, SqlValue.flag, SqlValue.optional, limit]

theorem lacks_reward_iff {p : Reward} {keys : List String}
    (known : ∀ key ∈ keys, key ∈ (Entity.reward p).names) :
    (Entity.reward p).lacks keys = true ↔
      "max_per_stream" ∈ keys ∧ p.limits.maxPerStream = none := by
  rw [Entity.lacks, List.any_eq_true]
  constructor
  · rintro ⟨key, hk, null⟩
    obtain ⟨rfl, none⟩ := (isNull_value_reward key (known key hk)).1 null
    exact ⟨hk, none⟩
  · rintro ⟨hk, none⟩
    exact ⟨_, hk, (isNull_value_reward _ (known _ hk)).2 ⟨rfl, none⟩⟩

/-- **Keys scope an update to the rows that hold the record's values**, on every store that
statements lead to: unless the update breaks a rule of the table, it changes just the rows that hold
the value of the reward in each column that is a key, be it an empty text, zero or false, and reports
how many these are. A limit that is absent is the one value that no row is found by; an update under
it changes nothing. -/
theorem keyed_update_scope {s : Store} (reachable : s.Reachable) (p : Reward) {keys : List String}
    (someKeys : keys ≠ [])
    (known : ∀ key ∈ keys, ∃ c ∈ p.record.columns, c.opts.insertable = true ∧ c.name = key) :
    let e := Entity.reward p
    let holds (row : Row) : Bool :=
      keys.all fun key => rewardsDef.value row key == rewardsDef.value e.fresh key
    ∃ statement, updateStatement .named "rewards" keys p.record = .ok statement ∧
      ("max_per_stream" ∈ keys ∧ p.limits.maxPerStream = none →
        (s.run statement).value = (.ok 0, s)) ∧
      (¬ ("max_per_stream" ∈ keys ∧ p.limits.maxPerStream = none) →
        (∃ violation, (s.run statement).value = (.error (.constraint violation), s)) ∨
        ∃ s', (s.run statement).value = (.ok ((s.rows "rewards").countP holds), s') ∧
          ∀ table, s'.rows table =
            if table = "rewards" then
              (s.rows table).map fun row => if holds row then e.revise keys row else row
            else s.rows table) := by
  intro e holds
  have names : ∀ key ∈ keys, key ∈ e.names := by
    intro key hk
    obtain ⟨c, hc, insertable, rfl⟩ := known key hk
    rw [← Entity.map_name_columns]
    exact List.mem_map_of_mem (List.mem_filter.2 ⟨hc, insertable⟩)
  have lacks := lacks_reward_iff names
  have build := e.updateStatement_keyed someKeys names
  rcases e.run_keyedUpdate names reachable.ofSchema someKeys with ⟨missing, run⟩ | ⟨complete, run⟩
  · exact ⟨_, build, fun _ => run, fun present => absurd (lacks.1 missing) present⟩
  · refine ⟨_, build, fun absent => ?_, fun _ => run.imp_right fun run => ?_⟩
    · rw [lacks.2 absent] at complete
      cases complete
    · exact ⟨_, run, reachable.ofSchema.rows_replace_entity e
        (List.map fun row => if e.agreesOn keys row then e.revise keys row else row)⟩

/-- Under a cost of zero and a flag that is not set, one reward of two is found and given its title. -/
theorem keyed_update_scope_zero :
    let rewards := [Reward.new "r1" 0 true, .new "r2" 0 false]
    let s := Store.ofWrites ((rewards.map Entity.reward).map .upsert)
    let p : Reward := { title := "Hydrate" }
    s.Reachable ∧ (∀ key ∈ ["cost", "is_enabled"],
        ∃ c ∈ p.record.columns, c.opts.insertable = true ∧ c.name = key) ∧
      ∃ statement s', updateStatement .named "rewards" ["cost", "is_enabled"] p.record =
        .ok statement ∧ (s.run statement).value = (.ok 1, s') ∧
        (s'.rows "rewards").map (fun row => rewardsDef.value row "title") =
          [.text "Reward r1", .text "Hydrate"] := by
  intro rewards s p
  have reachable : s.Reachable := Store.reachable_ofWrites _
  have rows : s.rows "rewards" =
      (rewards.map Entity.reward).foldl (fun rows e => e.upserted rows) [] :=
    Store.rows_ofWrites_upserts "rewards" (List.forall_mem_map.2 fun _ _ => rfl)
  -- The rows are all that matters from here on, so no statement has to be read to get there.
  clear_value s
  have known : ∀ key ∈ ["cost", "is_enabled"],
      ∃ c ∈ p.record.columns, c.opts.insertable = true ∧ c.name = key := by
    simp [p, Reward.record, mapped, Column.ofField, Column.name]
  have updated :
      (s.run ((Entity.reward p).keyedUpdate ["cost", "is_enabled"])).value.1.isOk = true := by
    rw [reachable.ofSchema.fst_run_keyedUpdate _ (by simp) (by simp [Entity.names])]
    show ((constrained (Table.update ⟨rewardsDef, s.rows "rewards"⟩ _ _)).map _).isOk = true
    rw [rows]
    decide +kernel
  obtain ⟨statement, build, -, present⟩ := keyed_update_scope reachable p (by simp) known
  obtain rfl : (Entity.reward p).keyedUpdate ["cost", "is_enabled"] = statement :=
    Except.ok.inj build
  obtain ⟨violation, broken⟩ | ⟨s', run, changed⟩ := present (by simp)
  · rw [broken] at updated
    cases updated
  · rw [rows] at run
    refine ⟨reachable, known, _, s', build, run, ?_⟩
    rw [changed, if_pos rfl, rows]
    decide +kernel

/-- A reward without a limit is not found by having none. -/
theorem absent_limit_finds_no_row :
    let s := Store.ofWrites ([.reward (.new "r1" 100 true)].map .upsert)
    let p : Reward := { title := "Hydrate" }
    s.Reachable ∧ ((s.rows "rewards").countP fun row => rewardsDef.value row "max_per_stream" ==
        rewardsDef.value (Entity.reward p).fresh "max_per_stream") = 1 ∧
      ∃ statement, updateStatement .named "rewards" ["max_per_stream"] p.record = .ok statement ∧
        (s.run statement).value = (.ok 0, s) := by
  intro s p
  have reachable : s.Reachable := Store.reachable_ofWrites _
  have rows : s.rows "rewards" = _ :=
    Store.rows_ofWrites_upserts "rewards" (List.forall_mem_singleton.2 rfl)
  clear_value s
  have known : ∀ key ∈ ["max_per_stream"], key ∈ (Entity.reward p).names := by
    simp [Entity.names]
  refine ⟨reachable, ?_, _, (Entity.reward p).updateStatement_keyed (by simp) known, ?_⟩
  · rw [rows]
    decide +kernel
  · obtain ⟨-, run⟩ | ⟨complete, -⟩ :=
      (Entity.reward p).run_keyedUpdate known reachable.ofSchema (by simp)
    · exact run
    · rw [(lacks_reward_iff known).2 (by simp [p])] at complete
      cases complete

end Rowset
