import Rowset.Proofs.Sql.Tokens
import Rowset.Statement.Filter

/-!
# Clauses read back

A clause is a list of items between separators. From the tokens of such a list its items are read
back one after another, whatever stands behind it, unless that goes on with the list. The statements
built from clauses are read back accordingly.
-/

namespace Rowset.Sql

/-! ## Lists of items -/

/-- The tokens of items with a separator between neighbours. -/
def separated {α : Type} (separator : Token) (print : α → List Token) (items : List α) :
    List Token :=
  [separator].intercalate (items.map print)

section Separated

variable {α : Type} (separator : Token) (print : α → List Token)

@[simp] theorem separated_singleton (a : α) : separated separator print [a] = print a := by
  simp [separated]

@[simp] theorem separated_cons_cons (a b : α) (items : List α) :
    separated separator print (a :: b :: items) =
      print a ++ separator :: separated separator print (b :: items) := by
  simp [separated]

variable {separator print}

theorem length_le_length_separated (h : ∀ a, 0 < (print a).length) (items : List α) :
    items.length ≤ (separated separator print items).length := by
  induction items with
  | nil => exact Nat.zero_le _
  | cons a items ih =>
    have := h a
    cases items with
    | nil =>
      rw [separated_singleton]
      exact this
    | cons b items =>
      rw [separated_cons_cons, List.length_append, List.length_cons, List.length_cons]
      exact Nat.add_comm _ 1 ▸ Nat.add_le_add this (Nat.le_succ_of_le ih)

end Separated

/-- Items between commas are read one by one. -/
theorem commaList?_separated {α : Type} {item? : List Token → Option (α × List Token)}
    {print : α → List Token} {items : List α} {rest : List Token} (someItems : items ≠ [])
    (read : ∀ a ∈ items, ∀ ts, item? (print a ++ ts) = some (a, ts))
    (stop : mark? ',' rest = none) {fuel : Nat} (enough : items.length ≤ fuel) :
    commaList? item? fuel (separated (.mark ',') print items ++ rest) = some (items, rest) := by
  induction items generalizing fuel with
  | nil => exact absurd rfl someItems
  | cons a items ih =>
    have here := read a List.mem_cons_self
    cases fuel with
    | zero => cases enough
    | succ fuel =>
      cases items with
      | nil => simp [commaList?, here, stop]
      | cons b items =>
        have more := ih (List.cons_ne_nil b items)
          (fun c hc => read c (List.mem_cons_of_mem a hc)) (Nat.le_of_succ_le_succ enough)
        simp [commaList?, here, mark?, more]

/-! ## Names, parameters, settings and tests -/

section Items

variable {rest : List Token}

@[simp] theorem mark?_mark (c : Char) : mark? c (.mark c :: rest) = some rest := if_pos rfl

theorem keyword?_word {w word : String} (h : foldCase w = word) :
    keyword? word (.word w :: rest) = some rest := if_pos h

theorem name?_word {w : String} (h : isName w = true) (rest : List Token) :
    name? (.word w :: rest) = some (w, rest) := by
  have free : foldCase w ∉ reserved := by
    simpa [isName] using (Bool.and_eq_true_iff.1 h).2
  simp [name?, free]

/-- The tokens of a column and a parameter with an equality mark between them. -/
def equation (e : String × String) : List Token := [.word e.1, .mark '=', .parameter e.2]

theorem setting?_equation {e : String × String} (h : isName e.1 = true) :
    setting? (equation e ++ rest) = some (e, rest) := by
  have column := name?_word h (.mark '=' :: .parameter e.2 :: rest)
  simp [setting?, equation, column, mark?, parameter?]

/-- A test of an unqualified column for the value of a parameter. -/
def equals (e : String × String) : Test ColumnRef := .equals ⟨none, e.1⟩ e.2

theorem test?_equation {e : String × String} (h : isName e.1 = true) (rest : List Token) :
    test? (equation e ++ rest) = some (equals e, rest) := by
  have column := name?_word h (.mark '=' :: .parameter e.2 :: rest)
  simp [test?, columnRef?, equation, equals, column, mark?, parameter?]

end Items

/-- The condition that tests joined by a keyword make up. -/
def conditionOf {γ : Type} : Joiner → List (Test γ) → Condition γ
  | .and, tests => [tests]
  | .or, tests => tests.map fun test => [test]

/-- Neither of the keywords between tests comes next. -/
def NoTest (ts : List Token) : Prop := keyword? "and" ts = none ∧ keyword? "or" ts = none

/-- Tests joined by one keyword are read as one condition. -/
theorem tests?_separated (j : Joiner) {es : List (String × String)} {rest : List Token}
    (someTests : es ≠ []) (names : ∀ e ∈ es, isName e.1 = true) (stop : NoTest rest) {fuel : Nat}
    (enough : es.length ≤ fuel) :
    tests? fuel (separated (.word j.keyword) equation es ++ rest) =
      some (conditionOf j (es.map equals), rest) := by
  induction es generalizing fuel with
  | nil => exact absurd rfl someTests
  | cons e es ih =>
    have here := test?_equation (names e List.mem_cons_self)
    cases fuel with
    | zero => cases enough
    | succ fuel =>
      cases es with
      | nil => cases j <;> simp [tests?, here, stop.1, stop.2, conditionOf]
      | cons d es =>
        have more := ih (List.cons_ne_nil d es) (fun c hc => names c (List.mem_cons_of_mem e hc))
          (Nat.le_of_succ_le_succ enough)
        have foldAnd : foldCase "and" = "and" := by decide
        have foldOr : foldCase "or" = "or" := by decide
        cases j with
        | and =>
          simp only [Joiner.keyword] at more
          simp [tests?, here, Joiner.keyword, keyword?, foldAnd, more, conditionOf, Condition.conjoin]
        | or =>
          simp only [Joiner.keyword] at more
          simp [tests?, here, Joiner.keyword, keyword?, foldOr, more, conditionOf]

/-! ## Clauses -/

theorem length_equation_pos (e : String × String) : 0 < (equation e).length := Nat.succ_pos _

theorem settings?_separated {es : List (String × String)} {rest : List Token}
    (someSettings : es ≠ []) (names : ∀ e ∈ es, isName e.1 = true) (stop : mark? ',' rest = none) :
    settings? (.word "set" :: (separated (.mark ',') equation es ++ rest)) = some (es, rest) := by
  have enough : es.length ≤ (separated (.mark ',') equation es ++ rest).length := by
    rw [List.length_append]
    exact Nat.le_add_right_of_le (length_le_length_separated length_equation_pos es)
  unfold settings?
  rw [keyword?_word (by decide)]
  exact commaList?_separated someSettings (fun e he ts => setting?_equation (names e he)) stop enough

theorem parenthesized?_separated {α : Type} (item? : List Token → Option (α × List Token))
    (print : α → List Token) {items : List α} (someItems : items ≠ [])
    (read : ∀ a ∈ items, ∀ ts, item? (print a ++ ts) = some (a, ts))
    (size : ∀ a, 0 < (print a).length) (rest : List Token) :
    parenthesized? item? (.mark '(' :: (separated (.mark ',') print items ++ .mark ')' :: rest)) =
      some (items, rest) := by
  have enough : items.length ≤ (separated (.mark ',') print items ++ .mark ')' :: rest).length := by
    rw [List.length_append]
    exact Nat.le_add_right_of_le (length_le_length_separated size items)
  have stop : mark? ',' (.mark ')' :: rest) = none := rfl
  have inside := commaList?_separated someItems read stop enough
  simp only [parenthesized?, mark?_mark, Option.bind_eq_bind, Option.bind_some, inside]
  rfl

/-- The tokens of the clause that restricts the rows to those for which tests hold; without any
tests there is no such clause. -/
def whereTokens (j : Joiner) (es : List (String × String)) : List Token :=
  if es.isEmpty then [] else .word "where" :: separated (.word j.keyword) equation es

/-- The condition that such a clause puts. -/
def whereCondition (j : Joiner) (es : List (String × String)) : Condition ColumnRef :=
  if es.isEmpty then always else conditionOf j (es.map equals)

theorem condition?_whereTokens (j : Joiner) {es : List (String × String)}
    (names : ∀ e ∈ es, isName e.1 = true) :
    condition? (whereTokens j es) = some (whereCondition j es, []) := by
  cases es with
  | nil => rfl
  | cons e es =>
    have enough : (e :: es).length ≤ (separated (.word j.keyword) equation (e :: es)).length :=
      length_le_length_separated length_equation_pos (e :: es)
    have stop : NoTest [] := ⟨rfl, rfl⟩
    have read := tests?_separated j (List.cons_ne_nil e es) names stop enough
    rw [List.append_nil] at read
    have tokens : whereTokens j (e :: es) =
        .word "where" :: separated (.word j.keyword) equation (e :: es) := rfl
    unfold condition?
    rw [tokens, keyword?_word (by decide)]
    exact read

/-- The tokens of the clause for a row that is there already. -/
def conflictTokens : Option (String × List (String × String)) → List Token
  | none => []
  | some (column, settings) =>
    .word "on" :: .word "conflict" :: .mark '(' :: .word column :: .mark ')' :: .word "do" ::
      .word "update" :: .word "set" :: separated (.mark ',') equation settings

theorem onConflict?_conflictTokens {conflict : Option (String × List (String × String))}
    (h : ∀ c ∈ conflict, isName c.1 = true ∧ c.2 ≠ [] ∧ ∀ e ∈ c.2, isName e.1 = true) :
    onConflict? (conflictTokens conflict) = some (conflict, []) := by
  cases conflict with
  | none => rfl
  | some c =>
    obtain ⟨column, settings⟩ := c
    obtain ⟨name, someSettings, names⟩ := h _ rfl
    have assigned := settings?_separated someSettings names (show mark? ',' [] = none from rfl)
    rw [List.append_nil] at assigned
    unfold onConflict? conflictTokens
    rw [keyword?_word (by decide)]
    simp only [keyword?_word (show foldCase "conflict" = "conflict" by decide),
      keyword?_word (show foldCase "do" = "do" by decide),
      keyword?_word (show foldCase "update" = "update" by decide), mark?_mark, name?_word name,
      assigned, Option.bind_eq_bind, Option.bind_some]
    rfl

/-! ## Statements -/

/-- The tokens of an update. -/
def updateTokens (table : String) (settings tests : List (String × String)) : List Token :=
  .word "update" :: .word table :: .word "set" ::
    (separated (.mark ',') equation settings ++ whereTokens .and tests)

theorem command?_updateTokens {table : String} {settings tests : List (String × String)}
    (name : isName table = true) (someSettings : settings ≠ [])
    (names : ∀ e ∈ settings ++ tests, isName e.1 = true) :
    command? (updateTokens table settings tests) =
      some (.update ⟨table, settings, whereCondition .and tests⟩) := by
  obtain ⟨hsettings, htests⟩ := List.forall_mem_append.1 names
  have stop : mark? ',' (whereTokens .and tests) = none := by
    unfold whereTokens
    split <;> rfl
  have read : update? (.word table :: .word "set" ::
      (separated (.mark ',') equation settings ++ whereTokens .and tests)) =
      some (⟨table, settings, whereCondition .and tests⟩, []) := by
    simp only [update?, name?_word name, settings?_separated someSettings hsettings stop,
      condition?_whereTokens .and htests, Option.bind_eq_bind, Option.bind_some]
    rfl
  have word : foldCase "update" = "update" := by decide
  simp [command?, updateTokens, keyword?, word, read]

/-- The tokens of a query that reads one column of a table. -/
def queryTokens (column table : String) (j : Joiner) (tests : List (String × String)) :
    List Token :=
  .word "select" :: .word column :: .word "from" :: .word table :: whereTokens j tests

theorem command?_queryTokens {column table : String} (j : Joiner) {tests : List (String × String)}
    (hcolumn : isName column = true) (htable : isName table = true)
    (htests : ∀ e ∈ tests, isName e.1 = true) :
    command? (queryTokens column table j tests) =
      some (.query ⟨⟨none, column⟩, ⟨table, table⟩, none, whereCondition j tests, none, none⟩) := by
  have read : query? (.word column :: .word "from" :: .word table :: whereTokens j tests) =
      some (⟨⟨none, column⟩, ⟨table, table⟩, none, whereCondition j tests, none, none⟩, []) := by
    have plain : columnRef? (.word column :: .word "from" :: .word table :: whereTokens j tests) =
        some (⟨none, column⟩, .word "from" :: .word table :: whereTokens j tests) := by
      simp only [columnRef?, name?_word hcolumn, Option.bind_eq_bind, Option.bind_some]
      rfl
    have source : tableRef? (.word table :: whereTokens j tests) =
        some (⟨table, table⟩, whereTokens j tests) := by
      have behind : name? (whereTokens j tests) = none := by
        unfold whereTokens
        split <;> rfl
      simp only [tableRef?, name?_word htable, behind, Option.bind_eq_bind, Option.bind_some]
      rfl
    have single : join? (whereTokens j tests) = some (none, whereTokens j tests) := by
      unfold whereTokens
      split <;> rfl
    simp only [query?, plain, source, single,
      keyword?_word (show foldCase "from" = "from" by decide), condition?_whereTokens j htests,
      Option.bind_eq_bind, Option.bind_some]
    rfl
  have word : foldCase "select" = "select" := by decide
  simp [command?, queryTokens, keyword?, word, read]

/-- The tokens of an insert. -/
def insertTokens (table : String) (values : List (String × String))
    (conflict : Option (String × List (String × String))) : List Token :=
  .word "insert" :: .word "into" :: .word table :: .mark '(' ::
    (separated (.mark ',') (fun c => [.word c]) (values.map Prod.fst) ++ .mark ')' ::
      .word "values" :: .mark '(' ::
        (separated (.mark ',') (fun p => [.parameter p]) (values.map Prod.snd) ++ .mark ')' ::
          conflictTokens conflict))

theorem command?_insertTokens {table : String} {values : List (String × String)}
    {conflict : Option (String × List (String × String))} (name : isName table = true)
    (someValues : values ≠ []) (names : ∀ e ∈ values, isName e.1 = true)
    (hconflict : ∀ c ∈ conflict, isName c.1 = true ∧ c.2 ≠ [] ∧ ∀ e ∈ c.2, isName e.1 = true) :
    command? (insertTokens table values conflict) = some (.insert ⟨table, values, conflict⟩) := by
  have columns := parenthesized?_separated name? (fun c => [.word c])
    (show values.map Prod.fst ≠ [] by simpa using someValues)
    (fun c hc ts => by
      obtain ⟨e, he, rfl⟩ := List.mem_map.1 hc
      exact name?_word (names e he) ts) (fun _ => Nat.one_pos)
  have parameters := parenthesized?_separated parameter? (fun p => [.parameter p])
    (show values.map Prod.snd ≠ [] by simpa using someValues) (fun _ _ _ => rfl)
    (fun _ => Nat.one_pos)
  have pairs : (values.map Prod.fst).zip (values.map Prod.snd) = values := by
    simp [List.zip_map']
  have word : foldCase "insert" = "insert" := by decide
  have into : foldCase "into" = "into" := by decide
  have foldValues : foldCase "values" = "values" := by decide
  simp [command?, insertTokens, keyword?, word, into, foldValues, insert?, name?_word name, columns,
    parameters, onConflict?_conflictTokens hconflict, pairs]

end Rowset.Sql
