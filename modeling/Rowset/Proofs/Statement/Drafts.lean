import Mathlib.Data.List.Nodup
import Rowset.Statement.Generate

/-!
# What drafts of updates come to

A draft of an update gives an update when each of its keys is the name of a column and there is a
column to set. The update then sets every stated column, in the order of the columns, and has a
predicate for every key, in the order of the keys, on the value of the first column of that name.
-/

namespace Rowset

namespace Column

/-- What columns hold under a name: the value of the first one that has it. -/
def held (columns : List Column) (name : String) : Value :=
  ((columns.find? fun c => c.name == name).map value).getD .null

variable {columns : List Column} {c : Column}

theorem exists_first (hc : c ∈ columns) :
    ∃ first ∈ columns, first.name = c.name ∧
      columns.find? (fun d => d.name == c.name) = some first := by
  have mapped : (columns.find? fun d => d.name == c.name).isSome = true :=
    List.find?_isSome.2 ⟨c, hc, beq_self_eq_true c.name⟩
  obtain ⟨first, found⟩ := Option.isSome_iff_exists.1 mapped
  have name := List.find?_some found
  exact ⟨first, List.mem_of_find?_eq_some found, beq_iff_eq.1 name, found⟩

/-- Where no two columns share a name, each holds its own value. -/
theorem held_name (distinct : (columns.map name).Nodup) (hc : c ∈ columns) :
    held columns c.name = c.value := by
  obtain ⟨first, hfirst, name, found⟩ := exists_first hc
  rw [held, found, List.inj_on_of_nodup_map distinct hfirst hc name]
  rfl

end Column

namespace UpdateDraft

/-- Whether a column has the name of a key. -/
def maps (d : UpdateDraft) (key : String) : Bool := d.columns.any fun c => c.name == key

/-- What the draft holds under a name. -/
def held (d : UpdateDraft) (key : String) : Value := Column.held d.columns key

variable {d : UpdateDraft} {key : String}

theorem keyPredicate_of_maps (h : d.maps key = true) :
    d.keyPredicate key = .ok (.of key key (d.held key)) := by
  obtain ⟨c, hc, name⟩ := List.any_eq_true.1 h
  obtain rfl : c.name = key := beq_iff_eq.1 name
  obtain ⟨first, -, -, found⟩ := Column.exists_first hc
  rw [keyPredicate, held, Column.held, found]
  rfl

theorem keyPredicate_of_not_maps (h : d.maps key = false) :
    d.keyPredicate key = .error (.unknownKeyColumn d.table key) := by
  have none : (d.columns.find? fun c => c.name == key) = none :=
    List.find?_eq_none.2 fun c hc => List.any_eq_false.1 h c hc
  rw [keyPredicate, none]

/-- Of several keys without a column the first is reported. -/
theorem mapM_keyPredicate (d : UpdateDraft) (keys : List String) : keys.mapM d.keyPredicate =
    match keys.find? fun key => !d.maps key with
    | some key => .error (.unknownKeyColumn d.table key)
    | none => .ok (keys.map fun key => .of key key (d.held key)) := by
  induction keys with
  | nil => rfl
  | cons key keys ih =>
    rw [List.mapM_cons, ih]
    cases known : d.maps key with
    | false =>
      rw [keyPredicate_of_not_maps known, List.find?_cons_of_pos (by simp [known])]
      rfl
    | true =>
      rw [keyPredicate_of_maps known, List.find?_cons_of_neg (by simp [known])]
      cases keys.find? fun key => !d.maps key <;> rfl

/-- What a draft comes to: an unknown key, nothing to set, or the update. -/
theorem build_eq (d : UpdateDraft) : d.build =
    match d.keys.find? fun key => !d.maps key with
    | some key => .error (.unknownKeyColumn d.table key)
    | none =>
      if d.stated = [] then .error (.nothingToUpdate d.table)
      else .ok ⟨d.table, d.stated.map fun c => .of c.name c.name c.value,
        d.keys.map fun key => .of key key (d.held key)⟩ := by
  rw [build, mapM_keyPredicate]
  cases d.keys.find? fun key => !d.maps key with
  | some key => rfl
  | none => simp only [List.isEmpty_iff, List.map_eq_nil_iff]

theorem find?_eq_none_iff_maps :
    (d.keys.find? fun key => !d.maps key) = none ↔ ∀ key ∈ d.keys, d.maps key = true := by
  simp [List.find?_eq_none]

theorem build_eq_ok_iff {u : Update} : d.build = .ok u ↔
    (∀ key ∈ d.keys, d.maps key = true) ∧ d.stated ≠ [] ∧
      u = ⟨d.table, d.stated.map fun c => .of c.name c.name c.value,
        d.keys.map fun key => .of key key (d.held key)⟩ := by
  rw [build_eq, ← find?_eq_none_iff_maps]
  cases d.keys.find? fun key => !d.maps key with
  | some key => simp
  | none =>
    by_cases nothing : d.stated = []
    · simp [nothing]
    · rw [if_neg nothing, Except.ok.injEq, eq_comm]
      simp [nothing]

end UpdateDraft

/-! ## Columns that are set, and those that scope -/

namespace Column

/-- One of the columns has the name. -/
def Maps (columns : List Column) (name : String) : Prop := ∃ c ∈ columns, c.name = name

/-- What lets a column into the assignments of an update with these keys. -/
structure SetWith (keys : List String) (c : Column) : Prop where
  insertable : c.opts.insertable = true
  stated : c.zero = false ∨ c.opts.force = true ∨ c.name ∈ keys

/-- A predicate with the value of the first column of its name. -/
inductive Scopes : List Column → String → Assignment → Prop
  | first {front back : List Column} {c : Column} (fresh : ∀ d ∈ front, d.name ≠ c.name) :
    Scopes (front ++ c :: back) c.name (.of c.name c.name c.value)

variable {columns : List Column} {name : String}

theorem setWith_iff {keys : List String} {c : Column} :
    SetWith keys c ↔ (c.opts.insertable && UpdateDraft.isStated keys c) = true := by
  have stated : UpdateDraft.isStated keys c = true ↔
      c.zero = false ∨ c.opts.force = true ∨ c.name ∈ keys := by
    simp [UpdateDraft.isStated, or_assoc]
  rw [Bool.and_eq_true, stated]
  exact ⟨fun h => ⟨h.insertable, h.stated⟩, fun h => ⟨h.1, h.2⟩⟩

instance (keys : List String) (c : Column) : Decidable (SetWith keys c) :=
  decidable_of_iff _ setWith_iff.symm

theorem scopes_iff (h : Maps columns name) {a : Assignment} :
    Scopes columns name a ↔ a = .of name name (held columns name) := by
  constructor
  · intro scopes
    cases scopes with
    | @first front back c fresh =>
      have none : front.find? (fun d => d.name == c.name) = none :=
        List.find?_eq_none.2 fun d hd same => fresh d hd (beq_iff_eq.1 same)
      rw [held, List.find?_append, none, Option.none_or, List.find?_cons, beq_self_eq_true]
      rfl
  · rintro rfl
    obtain ⟨c, hc, rfl⟩ := h
    obtain ⟨first, -, name, found⟩ := exists_first hc
    obtain ⟨-, front, back, rfl, fresh⟩ := List.find?_eq_some_iff_append.1 found
    have value : held (front ++ first :: back) c.name = first.value := by
      rw [held, found]
      rfl
    rw [value, ← name]
    refine .first fun d hd same => ?_
    have other := fresh d hd
    rw [same, name, beq_self_eq_true] at other
    cases other

/-- One predicate for each key, in the order of the keys. -/
theorem forall₂_scopes_iff {keys : List String} (h : ∀ key ∈ keys, Maps columns key)
    {list : List Assignment} : List.Forall₂ (Scopes columns) keys list ↔
      list = keys.map fun key => .of key key (held columns key) := by
  induction keys generalizing list with
  | nil => rw [List.forall₂_nil_left_iff, List.map_nil]
  | cons key keys ih =>
    obtain ⟨mapped, rest⟩ := List.forall_mem_cons.1 h
    rw [List.forall₂_cons_left_iff, List.map_cons]
    constructor
    · rintro ⟨a, others, first, predicates, rfl⟩
      rw [(scopes_iff mapped).1 first, (ih rest).1 predicates]
    · rintro rfl
      exact ⟨_, _, (scopes_iff mapped).2 rfl, (ih rest).2 rfl, rfl⟩

end Column

namespace UpdateDraft

variable {d : UpdateDraft} {key : String}

theorem maps_iff : d.maps key = true ↔ Column.Maps d.columns key := by
  simp [maps, Column.Maps]

theorem stated_eq_nil_iff : d.stated = [] ↔ ¬ ∃ c ∈ d.columns, c.SetWith d.keys := by
  simp only [stated, List.filter_eq_nil_iff, Column.setWith_iff, not_exists, not_and]

/-- The first key that no column has is the one that is reported. -/
theorem build_eq_unknown_iff : d.build = .error (.unknownKeyColumn d.table key) ↔
    ∃ before after, d.keys = before ++ key :: after ∧
      (∀ k ∈ before, Column.Maps d.columns k) ∧ ¬ Column.Maps d.columns key := by
  have first : (d.keys.find? fun k => !d.maps k) = some key ↔
      ∃ before after, d.keys = before ++ key :: after ∧
        (∀ k ∈ before, Column.Maps d.columns k) ∧ ¬ Column.Maps d.columns key := by
    rw [List.find?_eq_some_iff_append]
    simp only [Bool.not_eq_true', Bool.not_not, ← maps_iff, Bool.not_eq_true]
    constructor
    · rintro ⟨unknown, before, after, shape, known⟩
      exact ⟨before, after, shape, known, unknown⟩
    · rintro ⟨before, after, shape, known, unknown⟩
      exact ⟨unknown, before, after, shape, known⟩
  rw [← first, build_eq]
  cases d.keys.find? fun k => !d.maps k with
  | some other => simp
  | none =>
    by_cases nothing : d.stated = []
    · simp [nothing]
    · simp [nothing]

/-- Without columns to set there is no update, once all keys are known. -/
theorem build_eq_nothing_iff : d.build = .error (.nothingToUpdate d.table) ↔
    (∀ k ∈ d.keys, Column.Maps d.columns k) ∧ ¬ ∃ c ∈ d.columns, c.SetWith d.keys := by
  simp only [← maps_iff]
  rw [← find?_eq_none_iff_maps, ← stated_eq_nil_iff, build_eq]
  cases d.keys.find? fun k => !d.maps k with
  | some other => simp
  | none => simp

/-- An update that is built sets what is stated and is scoped by its keys, in their order. -/
theorem build_eq_ok_iff_columns {u : Update} : d.build = .ok u ↔
    (∀ k ∈ d.keys, Column.Maps d.columns k) ∧ (∃ c ∈ d.columns, c.SetWith d.keys) ∧
      u.table = d.table ∧
      u.assignments = (d.columns.filter fun c => c.SetWith d.keys).map
        (fun c => .of c.name c.name c.value) ∧
      List.Forall₂ (Column.Scopes d.columns) d.keys u.keys := by
  have stated : d.stated = d.columns.filter fun c => c.SetWith d.keys := by
    simp only [UpdateDraft.stated, Column.setWith_iff, Bool.decide_eq_true]
  rw [build_eq_ok_iff, ne_eq, stated_eq_nil_iff, not_not, stated]
  simp only [maps_iff]
  refine and_congr_right fun known => and_congr_right fun _ => ?_
  rw [Column.forall₂_scopes_iff known]
  obtain ⟨table, assignments, keys⟩ := u
  rw [Update.mk.injEq]
  rfl

end UpdateDraft

/-- **An update is built of exactly the right columns and fails for exactly the right reason.** The
first key that no column has is reported; otherwise the lack of a column to set; otherwise there is
the update. Columns that are not insertable can be keys, but they are not set. -/
theorem update_built_of_columns (table : String) (keys : List String) (record : Record) :
    let built := (updateDraftOf table keys record).build
    (∀ key, built = .error (.unknownKeyColumn table key) ↔
      ∃ before after, keys = before ++ key :: after ∧
        (∀ k ∈ before, Column.Maps record.columns k) ∧ ¬ Column.Maps record.columns key) ∧
    (built = .error (.nothingToUpdate table) ↔
      (∀ k ∈ keys, Column.Maps record.columns k) ∧ ¬ ∃ c ∈ record.columns, c.SetWith keys) ∧
    (∀ u, built = .ok u ↔
      (∀ k ∈ keys, Column.Maps record.columns k) ∧ (∃ c ∈ record.columns, c.SetWith keys) ∧
        u.table = table ∧
        u.assignments = (record.columns.filter fun c => c.SetWith keys).map
          (fun c => .of c.name c.name c.value) ∧
        List.Forall₂ (Column.Scopes record.columns) keys u.keys) ∧
    ((∃ key, built = .error (.unknownKeyColumn table key)) ∨
      built = .error (.nothingToUpdate table) ∨ ∃ u, built = .ok u) := by
  intro built
  refine ⟨fun key => UpdateDraft.build_eq_unknown_iff, UpdateDraft.build_eq_nothing_iff,
    fun u => UpdateDraft.build_eq_ok_iff_columns, ?_⟩
  have outcome : built = _ := (updateDraftOf table keys record).build_eq
  rw [outcome]
  split
  next key _ => exact .inl ⟨key, rfl⟩
  next =>
    split
    next => exact .inr (.inl rfl)
    next => exact .inr (.inr ⟨_, rfl⟩)

end Rowset
