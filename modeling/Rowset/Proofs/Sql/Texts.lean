import Rowset.Proofs.Sql.Clauses
import Rowset.Proofs.Statement.Occurrences
import Rowset.Statement.Insert
import Rowset.Statement.Update

/-!
# Statements read back

The text of a statement is that of its template with placeholders filled in. Where names are words
and placeholders are parameters, such a text is read back as the statement it was written for: the
columns in their order, each with the placeholder of its own value.
-/

namespace Rowset

open Rowset.Sql Rowset.Text

/-! ## Filled templates -/

namespace Template

/-- A template with its placeholders filled in. -/
def filled (t : Template) (placeholders : List String) : List Char :=
  (interleave t.texts placeholders).toList

variable {t u : Template} {ps qs : List String}

@[simp] theorem filled_nil : filled [] [] = [] := rfl

@[simp] theorem filled_text (s : String) : filled (.text s :: t) ps = s.toList ++ filled t ps := by
  rw [filled, texts, interleave_modifyHead t.texts_ne_nil, String.toList_append]
  rfl

@[simp] theorem filled_param (p : Param) (x : String) :
    filled (.param p :: t) (x :: ps) = x.toList ++ filled t ps := by
  simp [filled, texts, interleave]

theorem filled_append (h : ps.length = t.params.length) (qs : List String) :
    filled (t ++ u) (ps ++ qs) = filled t ps ++ filled u qs := by
  induction t generalizing ps with
  | nil =>
    obtain rfl := List.eq_nil_of_length_eq_zero h
    rfl
  | cons part t ih =>
    cases part with
    | text s => simp [ih h]
    | param p =>
      cases ps with
      | nil => cases h
      | cons x ps => simp [ih (Nat.succ.inj h)]

/-- Templates between separators are filled one by one. -/
theorem filled_joined {α : Type} (separator : String) (t : α → Template) (ps : α → List String)
    (items : List α) (h : ∀ a ∈ items, (ps a).length = (t a).params.length) :
    filled (joined separator (items.map t)) (items.flatMap ps) =
      separator.toList.intercalate (items.map fun a => filled (t a) (ps a)) := by
  induction items with
  | nil => rfl
  | cons a items ih =>
    have rest := ih fun b hb => h b (List.mem_cons_of_mem a hb)
    cases items with
    | nil => simp [joined]
    | cons b items =>
      rw [List.map_cons, List.map_cons, joined, List.flatMap_cons,
        filled_append (h a List.mem_cons_self), filled_text, ← List.map_cons, rest]
      simp

end Template

/-! ## Assignments with their placeholders -/

/-- An assignment with the placeholder of its value. -/
abbrev Placed := Assignment × String

namespace Placed

/-- The column and the placeholder. -/
def pair (e : Placed) : String × String := (e.1.column, e.2)

/-- The column is a name and the placeholder a parameter. -/
def WellNamed (e : Placed) : Prop := isName e.1.column = true ∧ isParameter e.2 = true

end Placed

/-- A clause for the row that is there already: its column, and the assignments that it sets. -/
structure PlacedConflict where
  column : String
  sets : List Placed

namespace PlacedConflict

def clause (c : PlacedConflict) : OnConflict := ⟨c.column, c.sets.map Prod.fst⟩

def pairs (c : PlacedConflict) : String × List (String × String) :=
  (c.column, c.sets.map Placed.pair)

/-- The assignments of a clause that may be missing. -/
def assigned (conflict : Option PlacedConflict) : List Placed := (conflict.map sets).getD []

end PlacedConflict

namespace Sql

/-- A text that ends with a separator, and what is read from it, whatever stands behind it. -/
def Leads (text : String) (ts : List Token) : Prop :=
  tokens? text.toList = some ts ∧ text.toList.getLast?.all isSeparator = true

instance (text : String) (ts : List Token) : Decidable (Leads text ts) :=
  inferInstanceAs (Decidable (_ ∧ _))

/-- A text between items, with a separator at either end, that is a single token. -/
def Separates (text : String) (token : Token) : Prop :=
  Leads text [token] ∧ text.toList.head?.any isSeparator = true

instance (text : String) (token : Token) : Decidable (Separates text token) :=
  inferInstanceAs (Decidable (_ ∧ _))

theorem separates_comma : Separates ", " (.mark ',') := by decide +kernel

theorem separates_keyword (j : Joiner) : Separates (" " ++ j.keyword ++ " ") (.word j.keyword) := by
  cases j with
  | and => decide +kernel
  | or => decide +kernel

theorem separates_equals : Separates "=" (.mark '=') := by decide +kernel

theorem separates_spaced_equals : Separates " = " (.mark '=') := by decide +kernel

/-- A fixed text that ends with a separator is read on its own. -/
theorem tokens?_lead {text : String} (ts : List Token) {us : List Token} {back : List Char}
    (lead : Leads text ts) (hback : tokens? back = some us) :
    tokens? (text.toList ++ back) = some (ts ++ us) := by
  obtain ⟨read, ends⟩ := lead
  refine tokens?_append (.inl fun c hc => ?_) read hback
  rw [Option.mem_def.1 hc] at ends
  exact ends

theorem Separates.starts {text : String} {token : Token} (h : Separates text token)
    (rest : List Char) : ∀ c ∈ (text.toList ++ rest).head?, isSeparator c = true := by
  have head := h.2
  intro c hc
  cases ht : text.toList with
  | nil =>
    rw [ht] at head
    cases head
  | cons d ds =>
    rw [ht] at head hc
    cases hc
    exact head

/-- A text between two others is read between them. -/
theorem Separates.tokens?_between {text : String} {token : Token} (h : Separates text token)
    {cs ds : List Char} {ts us : List Token} (hcs : tokens? cs = some ts)
    (hds : tokens? ds = some us) :
    tokens? (cs ++ (text.toList ++ ds)) = some (ts ++ token :: us) :=
  tokens?_append (.inr (h.starts ds)) hcs (tokens?_lead _ h.1 hds)

/-- Items with a text between neighbours are read one by one. -/
theorem Separates.tokens?_intercalate {α : Type} {text : String} {token : Token}
    (h : Separates text token) {write : α → List Char} {print : α → List Token} {items : List α}
    (each : ∀ a ∈ items, tokens? (write a) = some (print a)) :
    tokens? (text.toList.intercalate (items.map write)) = some (separated token print items) := by
  induction items with
  | nil => exact tokens?.eq_1
  | cons a items ih =>
    have here := each a List.mem_cons_self
    have rest := ih fun b hb => each b (List.mem_cons_of_mem a hb)
    cases items with
    | nil => simpa using here
    | cons b items =>
      rw [List.map_cons, List.map_cons, List.intercalate_cons_cons, List.append_assoc,
        separated_cons_cons, ← List.map_cons]
      exact h.tokens?_between here rest

end Sql

namespace Template

variable {placed : List Placed}

/-- Placeholders of a values list. -/
theorem filled_parameters (placed : List Placed) :
    filled (joined ", " (placed.map fun e => [.param e.1.param])) (placed.map Prod.snd) =
      ", ".toList.intercalate (placed.map fun e => e.2.toList) := by
  have each := filled_joined ", " (fun e : Placed => [.param e.1.param]) (fun e => [e.2]) placed
    (fun _ _ => rfl)
  rw [← List.map_eq_flatMap] at each
  simpa using each

/-- Assignments with their placeholders. -/
theorem filled_assignments (operator separator : String) (placed : List Placed) :
    filled (assignments operator separator (placed.map Prod.fst)) (placed.map Prod.snd) =
      separator.toList.intercalate
        (placed.map fun e => e.1.column.toList ++ (operator.toList ++ e.2.toList)) := by
  have each := filled_joined separator (fun e : Placed => assignment operator e.1) (fun e => [e.2])
    placed (fun _ _ => rfl)
  rw [← List.map_eq_flatMap] at each
  simpa [assignments, assignment, Function.comp_def] using each

/-- Assignments are read as pairs of columns and placeholders. -/
theorem tokens?_assignments {operator separator : String} {token : Token}
    (eq : Separates operator (.mark '=')) (sep : Separates separator token)
    (named : ∀ e ∈ placed, e.WellNamed) :
    tokens? (filled (assignments operator separator (placed.map Prod.fst)) (placed.map Prod.snd)) =
      some (separated token equation (placed.map Placed.pair)) := by
  have each : ∀ e ∈ placed,
      tokens? (e.1.column.toList ++ (operator.toList ++ e.2.toList)) = some (equation e.pair) := by
    intro e he
    obtain ⟨column, parameter⟩ := named e he
    have word := tokens?_word (Bool.and_eq_true_iff.1 column).1
    exact eq.tokens?_between word (tokens?_parameter parameter)
  rw [filled_assignments, sep.tokens?_intercalate each]
  simp [separated, Function.comp_def]

/-- Placeholders between commas are read one by one. -/
theorem tokens?_parameters (named : ∀ e ∈ placed, e.WellNamed) :
    tokens? (filled (joined ", " (placed.map fun e => [.param e.1.param])) (placed.map Prod.snd)) =
      some (separated (.mark ',') (fun p => [.parameter p])
        ((placed.map Placed.pair).map Prod.snd)) := by
  have each : ∀ e ∈ placed, tokens? e.2.toList = some [.parameter e.2] := fun e he =>
    tokens?_parameter (named e he).2
  rw [filled_parameters, separates_comma.tokens?_intercalate each]
  simp [separated, Function.comp_def, Placed.pair]

end Template

/-! ## Statements -/

section Statements

variable {w : String} {back : List Char} {us : List Token}

/-- A name before a separator is read as a word. -/
theorem tokens?_name (name : isName w = true) (starts : ∀ c ∈ back.head?, isSeparator c = true)
    (hback : tokens? back = some us) : tokens? (w.toList ++ back) = some (.word w :: us) :=
  tokens?_append (.inr starts) (tokens?_word (Bool.and_eq_true_iff.1 name).1) hback

variable {values sets keys : List Placed}

theorem isName_of_mem_pairs (named : ∀ e ∈ values, e.WellNamed) :
    ∀ e ∈ values.map Placed.pair, isName e.1 = true :=
  List.forall_mem_map.2 fun e he => (named e he).1

theorem tokens?_whereTemplate (named : ∀ e ∈ keys, e.WellNamed) :
    tokens? ((Update.whereTemplate (keys.map Prod.fst)).filled (keys.map Prod.snd)) =
      some (whereTokens .and (keys.map Placed.pair)) := by
  unfold Update.whereTemplate whereTokens
  cases keys with
  | nil => exact tokens?.eq_1
  | cons e keys =>
    rw [if_neg (by simp), if_neg (by simp), Template.filled_text]
    exact tokens?_lead [.word "where"] (by decide +kernel)
      (Template.tokens?_assignments separates_equals (separates_keyword .and) named)

theorem tokens?_update {table : String} (name : isName table = true)
    (named : ∀ e ∈ sets ++ keys, e.WellNamed) :
    tokens? (Template.filled (Update.template ⟨table, sets.map Prod.fst, keys.map Prod.fst⟩)
      ((sets ++ keys).map Prod.snd)) =
      some (updateTokens table (sets.map Placed.pair) (keys.map Placed.pair)) := by
  obtain ⟨hsets, hkeys⟩ := List.forall_mem_append.1 named
  have settings := Template.tokens?_assignments separates_equals separates_comma hsets
  have scope := tokens?_whereTemplate hkeys
  have apart : Apart
      ((Template.assignments "=" ", " (sets.map Prod.fst)).filled (sets.map Prod.snd))
      ((Update.whereTemplate (keys.map Prod.fst)).filled (keys.map Prod.snd)) := by
    refine .inr ?_
    unfold Update.whereTemplate
    split
    next none =>
      obtain rfl : keys = [] := by simpa using none
      nofun
    next =>
      rw [Template.filled_text]
      simp [isSeparator, isSpace]
  rw [Update.template, List.map_append]
  simp only [List.cons_append, Template.filled_text]
  rw [Template.filled_append (by simp)]
  exact tokens?_lead [.word "update"] (by decide +kernel)
    (tokens?_name name (by simp [isSeparator, isSpace])
      (tokens?_lead [.word "set"] (by decide +kernel)
        (tokens?_append apart settings scope)))

/-- The text of an update is read back as the update. -/
theorem parse?_update {table : String} (name : isName table = true) (someSets : sets ≠ [])
    (named : ∀ e ∈ sets ++ keys, e.WellNamed) :
    (tokens? (Template.filled (Update.template ⟨table, sets.map Prod.fst, keys.map Prod.fst⟩)
      ((sets ++ keys).map Prod.snd))).bind command? =
      some (.update ⟨table, sets.map Placed.pair, whereCondition .and (keys.map Placed.pair)⟩) := by
  have columns := isName_of_mem_pairs named
  rw [List.map_append] at columns
  rw [tokens?_update name named, Option.bind_some]
  exact command?_updateTokens name (by simpa using someSets) columns

theorem tokens?_filter {base column table : String} (j : Joiner)
    (query : tokens? base.toList = some (queryTokens column table j []))
    (kept : trimEnd base = base) (named : ∀ e ∈ keys, e.WellNamed) :
    tokens? (Template.filled (Filter.template ⟨base, j, keys.map Prod.fst⟩)
      (keys.map Prod.snd)) = some (queryTokens column table j (keys.map Placed.pair)) := by
  unfold Filter.template
  cases keys with
  | nil => simpa using query
  | cons e keys =>
    have lead : Leads " where " [.word "where"] := by decide +kernel
    have scope := tokens?_lead _ lead
      (Template.tokens?_assignments separates_spaced_equals (separates_keyword j) named)
    rw [if_neg (by simp), Template.filled_text, Template.filled_text, kept]
    exact tokens?_append (.inr (by simp [isSeparator, isSpace])) query scope

/-- The text of a filter on a query for one column is read back as the query with a condition. -/
theorem parse?_filter {base column table : String} (j : Joiner)
    (query : tokens? base.toList = some (queryTokens column table j []))
    (kept : trimEnd base = base) (hcolumn : isName column = true) (htable : isName table = true)
    (named : ∀ e ∈ keys, e.WellNamed) :
    (tokens? (Template.filled (Filter.template ⟨base, j, keys.map Prod.fst⟩)
      (keys.map Prod.snd))).bind command? =
      some (.query ⟨⟨none, column⟩, ⟨table, table⟩, none, whereCondition j (keys.map Placed.pair),
        none, none⟩) := by
  rw [tokens?_filter j query kept named, Option.bind_some]
  exact command?_queryTokens j hcolumn htable (isName_of_mem_pairs named)

theorem tokens?_conflict {conflict : Option PlacedConflict}
    (h : ∀ c ∈ conflict, isName c.column = true ∧ c.sets ≠ [])
    (named : ∀ e ∈ PlacedConflict.assigned conflict, e.WellNamed) :
    tokens? (Template.filled
      (((conflict.map PlacedConflict.clause).map OnConflict.template).getD [])
      ((PlacedConflict.assigned conflict).map Prod.snd)) =
      some (conflictTokens (conflict.map PlacedConflict.pairs)) := by
  cases conflict with
  | none => exact tokens?.eq_1
  | some c =>
    obtain ⟨name, someSets⟩ := h c rfl
    have present : ¬ (c.column = "" ∨ (c.sets.map Prod.fst).isEmpty = true) := by
      rintro (blank | none)
      · rw [blank] at name
        exact absurd name (by decide)
      · exact someSets (by simpa using none)
    have settings := Template.tokens?_assignments separates_equals separates_comma named
    show tokens? (Template.filled c.clause.template _) = _
    rw [OnConflict.template, PlacedConflict.clause, if_neg present]
    simp only [Template.filled_text]
    exact tokens?_lead [.word "on", .word "conflict", .mark '('] (by decide +kernel)
      (tokens?_name name (by simp [isSeparator, isMark])
        (tokens?_lead [.mark ')', .word "do", .word "update", .word "set"] (by decide +kernel)
          settings))

theorem tokens?_columnList (named : ∀ e ∈ values, e.WellNamed) :
    tokens? (Insert.columnList (values.map Prod.fst)).toList =
      some (separated (.mark ',') (fun c => [.word c])
        ((values.map Placed.pair).map Prod.fst)) := by
  have each : ∀ e ∈ values, tokens? e.1.column.toList = some [.word e.1.column] := fun e he =>
    tokens?_word (Bool.and_eq_true_iff.1 (named e he).1).1
  have read := separates_comma.tokens?_intercalate each
  rw [Insert.columnList, String.toList_intercalate]
  simpa [separated, Function.comp_def, Placed.pair] using read

theorem tokens?_insert {table : String} {conflict : Option PlacedConflict}
    (name : isName table = true) (h : ∀ c ∈ conflict, isName c.column = true ∧ c.sets ≠ [])
    (named : ∀ e ∈ values ++ PlacedConflict.assigned conflict, e.WellNamed) :
    tokens? (Template.filled
      (Insert.template ⟨table, values.map Prod.fst, conflict.map PlacedConflict.clause⟩)
      ((values ++ PlacedConflict.assigned conflict).map Prod.snd)) =
      some (insertTokens table (values.map Placed.pair) (conflict.map PlacedConflict.pairs)) := by
  obtain ⟨hvalues, hsets⟩ := List.forall_mem_append.1 named
  have columns := tokens?_columnList hvalues
  have parameters := Template.tokens?_parameters hvalues
  have clause := tokens?_conflict h hsets
  have count : (values.map Prod.snd).length =
      (Template.joined ", " (values.map fun e => [.param e.1.param])).params.length := by
    rw [Template.params_joined, List.flatMap_map]
    simp
  -- The bracket behind the placeholders is not part of their list.
  have closed := Template.filled_append (u := [.text ")"]) count []
  rw [List.append_nil, Template.filled_text, Template.filled_nil] at closed
  rw [Insert.template, List.map_append, Template.filled_append (by simp), Insert.valuesTemplate]
  simp only [List.cons_append, Template.filled_text, List.map_map, Function.comp_def, closed,
    List.append_assoc, List.nil_append]
  exact tokens?_lead [.word "insert", .word "into"] (by decide +kernel)
    (tokens?_name name (by simp [isSeparator, isSpace])
      (tokens?_lead [.mark '('] (by decide +kernel)
        (tokens?_append (.inr (by simp [isSeparator, isMark])) columns
          (tokens?_lead [.mark ')'] (by decide +kernel)
            (tokens?_lead [.word "values", .mark '('] (by decide +kernel)
              (tokens?_append (.inr (by simp [isSeparator, isMark])) parameters
                (tokens?_lead [.mark ')'] (by decide +kernel) clause)))))))

/-- The text of an insert is read back as the insert. -/
theorem parse?_insert {table : String} {conflict : Option PlacedConflict}
    (name : isName table = true) (someValues : values ≠ [])
    (h : ∀ c ∈ conflict, isName c.column = true ∧ c.sets ≠ [])
    (named : ∀ e ∈ values ++ PlacedConflict.assigned conflict, e.WellNamed) :
    (tokens? (Template.filled
      (Insert.template ⟨table, values.map Prod.fst, conflict.map PlacedConflict.clause⟩)
      ((values ++ PlacedConflict.assigned conflict).map Prod.snd))).bind command? =
      some (.insert ⟨table, values.map Placed.pair, conflict.map PlacedConflict.pairs⟩) := by
  obtain ⟨hvalues, hsets⟩ := List.forall_mem_append.1 named
  rw [tokens?_insert name h named, Option.bind_some]
  refine command?_insertTokens name (by simpa using someValues) (isName_of_mem_pairs hvalues)
    fun c hc => ?_
  obtain ⟨d, hd, rfl⟩ := Option.map_eq_some_iff.1 (Option.mem_def.1 hc)
  rw [hd] at hsets
  exact ⟨(h d hd).1, by simpa [PlacedConflict.pairs] using (h d hd).2, isName_of_mem_pairs hsets⟩

end Statements

end Rowset
