import Rowset.Proofs.Store.Writes

/-!
# What filters select

Criteria ask for the values that their fields state and for nothing else. On every store that writes
lead to, a filter gives the ids of just the rows that hold these values, all of them or one of them
as its joiner has it, and the ids of all rows when nothing is stated.
-/

namespace Rowset

open Rowset.Sql

/-- Criteria for the rows of a table. -/
inductive Criteria where
  | rewardQuery (q : RewardQuery)
  | rewardLookup (l : RewardLookup)
  | category (c : Category)

namespace Criteria

def definition : Criteria → TableDef
  | .rewardQuery _ | .rewardLookup _ => rewardsDef
  | .category _ => categoriesDef

/-- The query that the criteria are added to. -/
def base : Criteria → String
  | .rewardQuery _ | .rewardLookup _ => "select id from rewards"
  | .category _ => "select id from categories"

def record : Criteria → Record
  | .rewardQuery q => q.record
  | .rewardLookup l => l.record
  | .category c => c.record

/-- What the criteria state: columns with the values that they ask for. A flag is stated when it is
present, set or not; a text when it is not empty, a number when it is not zero. -/
def stated : Criteria → List (String × SqlValue)
  | .rewardQuery q =>
    (q.enabled.map fun b => ("is_enabled", .flag b)).toList ++
      (q.paused.map fun b => ("is_paused", .flag b)).toList ++
      if q.cost = 0 then [] else [("cost", .integer q.cost)]
  | .rewardLookup l =>
    (if l.id = "" then [] else [("id", .text l.id)]) ++
      if l.owner.id = "" then [] else [("broadcaster_id", .text l.owner.id)]
  | .category c =>
    (if c.id = "" then [] else [("id", .text c.id)]) ++
      (if c.name = "" then [] else [("category_name", .text c.name)]) ++
      if c.boxArtUrl = "" then [] else [("box_art_url", .text c.boxArtUrl)]

/-- Whether a row holds what is stated, all of it or one of it; all rows do when nothing is. -/
def selects (c : Criteria) (j : Joiner) (row : Row) : Bool :=
  let holds (e : String × SqlValue) : Bool := c.definition.value row e.1 == e.2
  match j with
  | .and => c.stated.all holds
  | .or => c.stated.isEmpty || c.stated.any holds

/-! ## The predicates of a filter -/

/-- The predicates of the criteria's filter. -/
def predicates (c : Criteria) : List Assignment :=
  (Filter.constraints c.record).map Filter.predicate

variable (c : Criteria)

theorem definition_mem : c.definition ∈ schema := by
  cases c <;> simp [definition, schema]

theorem filterStatement_eq (j : Joiner) : filterStatement .named c.base c.record j =
    (Filter.template ⟨c.base, j, c.predicates⟩).render .named := rfl

/-- What a single column asks for. -/
def asked (column : Column) : List (String × SqlValue) :=
  if column.zero then [] else [(column.filterName, column.value.stored)]

theorem asked_text (field : String) (opts : ColumnOpts) (s : String) :
    asked (.ofField field opts (.plain (.text s))) =
      if s = "" then [] else [(opts.filterName, .text s)] := by
  simp [asked, Column.ofField, Column.filterName, FieldValue.isZero, Scalar.isZero,
    FieldValue.toValue, Scalar.toValue]

theorem asked_signed (field : String) (opts : ColumnOpts) (n : Int64) :
    asked (.ofField field opts (.plain (.signed n))) =
      if n = 0 then [] else [(opts.filterName, .integer n)] := by
  simp [asked, Column.ofField, Column.filterName, FieldValue.isZero, Scalar.isZero,
    FieldValue.toValue, Scalar.toValue]

theorem asked_optional (field : String) (opts : ColumnOpts) (o : Option Bool) :
    asked (.ofField field opts (.ofOption .flag o)) =
      (o.map fun b => (opts.filterName, .flag b)).toList := by
  cases o <;> rfl

theorem columns_rewardQuery (q : RewardQuery) : (rewardQuery q).record.columns =
    [.ofField "enabled" { name := "is_enabled" } (.ofOption .flag q.enabled),
      .ofField "paused" { name := "is_paused" } (.ofOption .flag q.paused),
      .ofField "cost" { name := "cost" } (.plain (.signed q.cost))] := rfl

theorem columns_rewardLookup (l : RewardLookup) : (rewardLookup l).record.columns =
    [.ofField "id" { name := "id" } (.plain (.text l.id)),
      .ofField "id" { name := "broadcaster_id" } (.plain (.text l.owner.id))] := rfl

theorem columns_category (c : Category) : (category c).record.columns =
    [.ofField "id" { name := "id" } (.plain (.text c.id)),
      .ofField "name" { name := "category_name" } (.plain (.text c.name)),
      .ofField "box_art_url" (ColumnOpts.readOnly { name := "box_art_url" })
        (.plain (.text c.boxArtUrl))] := rfl

theorem asked_columns : c.record.columns.flatMap asked = c.stated := by
  cases c with
  | rewardQuery q =>
    simp [columns_rewardQuery, stated, asked_optional, asked_signed, ColumnOpts.filterName]
  | rewardLookup l => simp [columns_rewardLookup, stated, asked_text, ColumnOpts.filterName]
  | category c =>
    simp [columns_category, stated, asked_text, ColumnOpts.filterName, ColumnOpts.readOnly]

/-- The predicates ask for what the criteria state. -/
theorem asked_predicates :
    c.predicates.map (fun a => (a.column, a.param.value.stored)) = c.stated := by
  rw [← asked_columns, predicates, Filter.constraints, List.map_map]
  induction c.record.columns with
  | nil => rfl
  | cons column columns ih =>
    rw [List.flatMap_cons, ← ih]
    cases h : column.zero with
    | true => simp [asked, h]
    | false => simp [asked, h, Filter.predicate, Assignment.of]

theorem serves_columns : ∀ column ∈ c.record.columns,
    c.definition.Serves column.filterName column.field := by
  have query : ∀ n ∈ [("is_enabled", "enabled"), ("is_paused", "paused"), ("cost", "cost")],
      rewardsDef.Serves n.1 n.2 := by decide
  have lookup : ∀ n ∈ [("id", "id"), ("broadcaster_id", "id")], rewardsDef.Serves n.1 n.2 := by
    decide
  have category : ∀ n ∈ [("id", "id"), ("category_name", "name"), ("box_art_url", "box_art_url")],
      categoriesDef.Serves n.1 n.2 := by decide
  let names (column : Column) : String × String := (column.filterName, column.field)
  intro column hcolumn
  have mem : names column ∈ c.record.columns.map names := List.mem_map_of_mem hcolumn
  cases c with
  | rewardQuery q => exact query (names column) mem
  | rewardLookup l => exact lookup (names column) mem
  | category c => exact category (names column) mem

theorem isPlain_columns : ∀ column ∈ c.record.columns, column.value.isPlain = true := by
  cases c with
  | rewardQuery q =>
    simp only [columns_rewardQuery, List.forall_mem_cons]
    exact ⟨Value.isPlain_optional fun _ => rfl, Value.isPlain_optional fun _ => rfl, rfl,
      List.forall_mem_nil _⟩
  | rewardLookup l =>
    simp only [columns_rewardLookup, List.forall_mem_cons]
    exact ⟨rfl, rfl, List.forall_mem_nil _⟩
  | category c =>
    simp only [columns_category, List.forall_mem_cons]
    exact ⟨rfl, rfl, rfl, List.forall_mem_nil _⟩

theorem fits_predicates : ∀ a ∈ c.predicates, a.Fits c.definition := by
  refine List.forall_mem_map.2 fun column hcolumn => ?_
  have mem := (List.mem_filter.1 hcolumn).1
  exact Assignment.fits_of (c.serves_columns column mem) (c.isPlain_columns column mem)

/-- Only values are asked for that equality can tell. -/
theorem isExact_stated : ∀ e ∈ c.stated, e.2.isExact = true := by
  have stated {zero : Prop} [Decidable zero] {column : String} {v : SqlValue}
      (h : v.isExact = true) : ∀ e ∈ if zero then [] else [(column, v)], e.2.isExact = true := by
    split <;> simp [h]
  have optional {column : String} (o : Option Bool) :
      ∀ e ∈ (o.map fun b => (column, SqlValue.flag b)).toList, e.2.isExact = true := by
    cases o <;> simp [SqlValue.flag, SqlValue.isExact]
  cases c with
  | rewardQuery q =>
    exact List.forall_mem_append.2 ⟨List.forall_mem_append.2 ⟨optional _, optional _⟩, stated rfl⟩
  | rewardLookup l => exact List.forall_mem_append.2 ⟨stated rfl, stated rfl⟩
  | category c =>
    exact List.forall_mem_append.2 ⟨List.forall_mem_append.2 ⟨stated rfl, stated rfl⟩, stated rfl⟩

/-- The rows that the predicates accept are those that the criteria select. -/
theorem accepts_predicates (j : Joiner) : j.accepts c.definition c.predicates = c.selects j := by
  funext row
  have each : ∀ a ∈ c.predicates, a.accepts c.definition row =
      (c.definition.value row a.column == a.param.value.stored) := by
    intro a ha
    have mem : (a.column, a.param.value.stored) ∈ c.stated := by
      rw [← c.asked_predicates]
      exact List.mem_map_of_mem ha
    rw [Bool.eq_iff_iff, beq_iff_eq]
    exact beq_iff_eq.trans (SqlValue.equal?_eq_some_true_iff (c.isExact_stated _ mem))
  cases j with
  | and =>
    show c.predicates.all _ = c.stated.all _
    rw [← c.asked_predicates]
    exact (all_map_eq_all fun a ha => (each a ha).symm).symm
  | or =>
    show (c.predicates.isEmpty || c.predicates.any _) = (c.stated.isEmpty || c.stated.any _)
    rw [← c.asked_predicates, List.isEmpty_map]
    exact congrArg _ (any_map_eq_any fun a ha => (each a ha).symm).symm

theorem tokens?_base (j : Joiner) :
    tokens? c.base.toList = some (queryTokens "id" c.definition.name j []) := by
  have rewards : tokens? "select id from rewards".toList =
      some [.word "select", .word "id", .word "from", .word "rewards"] := by decide +kernel
  have categories : tokens? "select id from categories".toList =
      some [.word "select", .word "id", .word "from", .word "categories"] := by decide +kernel
  cases c with
  | rewardQuery q => exact rewards
  | rewardLookup l => exact rewards
  | category c => exact categories

theorem trimEnd_base : Text.trimEnd c.base = c.base := by
  have rewards : Text.trimEnd "select id from rewards" = "select id from rewards" := by decide
  have categories : Text.trimEnd "select id from categories" = "select id from categories" := by
    decide
  cases c with
  | rewardQuery q => exact rewards
  | rewardLookup l => exact rewards
  | category c => exact categories

end Criteria

/-- A filter selects exactly the rows that its criteria are true of: it succeeds, and the ids that
it gives are those of the rows that hold all that is stated, or with the other joiner one of it,
each as often as such a row is there. Criteria that state nothing select all rows. -/
theorem filter_selects_matching_rows (writes : List Write) (j : Joiner) (c : Criteria) :
    let s := Store.ofWrites writes
    ∃ ids, s.queryIds (filterStatement .named c.base c.record j) = .ok ids ∧
      (ids.map SqlValue.text).Perm
        (((s.rows c.definition.name).filter (c.selects j)).map c.definition.keyOf) := by
  intro s
  have h : s.Sound := Store.sound_ofWrites writes
  have values : c.definition.keyOf = fun row => c.definition.value row "id" :=
    funext fun row => (TableDef.value_id c.definition_mem row).symm
  rw [c.filterStatement_eq, ← c.accepts_predicates, values]
  refine Store.queryIds_filter (isName_name _ c.definition_mem) (by decide)
    (h.table?_eq c.definition_mem) (serves_id _ c.definition_mem).2.1 (c.tokens?_base j)
    c.trimEnd_base c.fits_predicates fun row hrow => ?_
  obtain ⟨id, holds⟩ := (h.sound_table c.definition_mem).holds row hrow
  exact ⟨id, (TableDef.value_id c.definition_mem row).trans holds.key⟩

/-- A reward's own id and its owner's are told apart, also where they are the same text. -/
example : (Criteria.rewardLookup { id := "x", owner := { id := "x" } }).stated =
    [("id", .text "x"), ("broadcaster_id", .text "x")] := rfl

end Rowset
