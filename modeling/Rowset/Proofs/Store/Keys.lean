import Rowset.Proofs.Statement.Drafts
import Rowset.Proofs.Store.Conditions
import Rowset.Proofs.Store.Rows
import Rowset.Store.Records

/-!
# Keys that stay

An update picks rows by the values of its keys and sets these keys as well. It leaves a row under
its key as long as both sides carry one value. They do unless the record says two things about a
key: rows are picked by the first column of that name, while all columns of that name that can be
written are set, and of those the last one counts.
-/

namespace Rowset

/-! ## One value for a key -/

/-- Whatever the update sets a key to is the value that rows are picked by. -/
def Update.KeepsKeys (u : Update) : Prop :=
  ∀ a ∈ u.assignments, ∀ k ∈ u.keys, a.column = k.column → a.param.value = k.param.value

/-- All columns of a name that can be written hold the value of the first column of that name. -/
def Record.Settles (r : Record) (name : String) : Prop :=
  ∀ c ∈ r.columns, c.opts.insertable = true → c.name = name → c.value = Column.held r.columns name

namespace UpdateDraft

variable {d : UpdateDraft} {key : String} {c : Column}

/-- Every column of a key that can be written is set, zero or not. -/
theorem mem_stated_of_key (hc : c ∈ d.columns) (insertable : c.opts.insertable = true)
    (hk : c.name ∈ d.keys) : c ∈ d.stated := by
  refine List.mem_filter.2 ⟨hc, ?_⟩
  rw [insertable, isStated, List.contains_iff_mem.2 hk, Bool.or_true, Bool.and_true]

theorem keepsKeys_iff {u : Update} (h : d.build = .ok u) : u.KeepsKeys ↔
    ∀ key ∈ d.keys, ∀ c ∈ d.columns, c.opts.insertable = true → c.name = key →
      c.value = d.held key := by
  obtain ⟨_, _, rfl⟩ := build_eq_ok_iff.1 h
  constructor
  · intro keeps key hk c hc insertable name
    have stated : c ∈ d.stated := mem_stated_of_key hc insertable (name ▸ hk)
    exact keeps _ (List.mem_map_of_mem stated) _ (List.mem_map_of_mem hk) name
  · intro settled a ha k hk same
    obtain ⟨c, stated, rfl⟩ := List.mem_map.1 ha
    obtain ⟨key, hkey, rfl⟩ := List.mem_map.1 hk
    obtain ⟨hc, flags⟩ := List.mem_filter.1 stated
    exact settled key hkey c hc (Bool.and_eq_true_iff.1 flags).1 same

end UpdateDraft

/-! ## Rows that stay under their keys -/

namespace Update

variable {u : Update}

/-- Names of the update stand for one column of a table only where they are the same. They need not
be, since a table does not tell upper from lower case. -/
def Discerns (u : Update) (d : TableDef) : Prop :=
  ∀ a ∈ u.assignments, ∀ k ∈ u.keys, d.place a.column = d.place k.column → a.column = k.column

/-- The update leaves a row that its keys pick under these keys. -/
theorem KeepsKeys.accepts_change (h : u.KeepsKeys) {d : TableDef} (discerns : u.Discerns d)
    {row : Row} (picked : Joiner.and.accepts d u.keys row = true) :
    Joiner.and.accepts d u.keys (row.change (u.assignments.map fun a => a.change d)) = true := by
  refine List.all_eq_true.2 fun k hk => ?_
  have before : (d.value row k.column).equal? k.param.value.stored = some true :=
    beq_iff_eq.1 (List.all_eq_true.1 picked k hk)
  rw [Assignment.accepts, beq_iff_eq]
  rcases row.cell_change (u.assignments.map fun a => a.change d) (d.place k.column) with
    kept | ⟨_, hchange, place, set⟩
  · rw [TableDef.value, kept]
    exact before
  · obtain ⟨a, ha, rfl⟩ := List.mem_map.1 hchange
    have value : a.param.value = k.param.value := h a ha k hk (discerns a ha k hk place)
    rw [TableDef.value, set, Assignment.change, value]
    exact SqlValue.equal?_self_of_equal? before

end Update

/-- **An update keeps the keys that scope it exactly when its record settles them**: every column of
a key's name that can be written holds the value of the first column of that name, by which rows are
picked. A row that is picked then still has the keys that it was picked by. -/
theorem update_keeps_keys_iff {table : String} {keys : List String} {record : Record} {u : Update}
    (build : (updateDraftOf table keys record).build = .ok u) :
    (u.KeepsKeys ↔ ∀ key ∈ keys, record.Settles key) ∧
      (u.KeepsKeys → ∀ (d : TableDef) (row : Row), u.Discerns d →
        Joiner.and.accepts d u.keys row = true →
        Joiner.and.accepts d u.keys (row.change (u.assignments.map fun a => a.change d)) = true) := by
  constructor
  · exact UpdateDraft.keepsKeys_iff build
  · intro keeps d row discerns picked
    exact keeps.accepts_change discerns picked

/-- A record that says its id twice, the second time in a group of its own, but says the same. -/
theorem update_keeps_key_said_twice :
    let record : Record := [mapped "id" { name := "id" } (.text "r1"),
      mapped "title" { name := "title" } (.text "Hydrate"),
      .group "owner" [mapped "id" { name := "id" } (.text "r1")]]
    ∃ u, (updateDraftOf "rewards" ["id"] record).build = .ok u ∧
      u.assignments.map Assignment.column = ["id", "title", "id"] ∧ u.KeepsKeys := by
  intro record
  let u : Update := ⟨"rewards", [.of "id" "id" (.string "r1"), .of "title" "title"
    (.string "Hydrate"), .of "id" "id" (.string "r1")], [.of "id" "id" (.string "r1")]⟩
  have build : (updateDraftOf "rewards" ["id"] record).build = .ok u := rfl
  have settles : record.Settles "id" := by
    show ∀ c ∈ record.columns, _
    simp [record, mapped, Column.ofField, Column.name, Column.held, FieldValue.toValue]
  exact ⟨u, build, rfl, (update_keeps_keys_iff build).1.2 (by simpa using settles)⟩

/-- A record that says two things about its id: the row that is picked goes under the other id. -/
theorem update_moves_row_to_second_id :
    let record : Record := [mapped "id" { name := "id" } (.text "a"),
      .group "owner" [mapped "id" { name := "id" } (.text "b")]]
    let row : Row := [.text "a", .text "b1", .text "Reward a", .integer 100, .integer 1,
      .integer 0, .null]
    ∃ u, (updateDraftOf "rewards" ["id"] record).build = .ok u ∧ ¬ u.KeepsKeys ∧
      Joiner.and.accepts rewardsDef u.keys row = true ∧
      rewardsDef.keyOf (row.change (u.assignments.map fun a => a.change rewardsDef)) =
        .text "b" := by
  intro record row
  let u : Update := ⟨"rewards", [.of "id" "id" (.string "a"), .of "id" "id" (.string "b")],
    [.of "id" "id" (.string "a")]⟩
  have build : (updateDraftOf "rewards" ["id"] record).build = .ok u := rfl
  have moved : ¬ u.KeepsKeys := by
    intro keeps
    have same := keeps (.of "id" "id" (.string "b")) (by simp [u]) _ List.mem_cons_self rfl
    exact absurd (Value.string.inj same) (by decide)
  exact ⟨u, build, moved, by decide, by decide⟩

end Rowset
