import Rowset.Sql.Command
import Rowset.Sql.Token

/-!
# Reading statements

Each clause is read off the front of the tokens. Keywords are recognised in any case and are not
names. A statement has to use up all of its tokens.
-/

namespace Rowset.Sql

/-- Names are compared without regard to the case of ASCII letters. -/
def foldCase (w : String) : String := String.ofList (w.toList.map Char.toLower)

/-- Words with a fixed meaning, which cannot be names. -/
def reserved : List String :=
  ["select", "from", "join", "on", "where", "and", "or", "is", "null", "order", "limit", "insert",
    "into", "values", "update", "set"]

/-- Takes a keyword off the front. -/
def keyword? (word : String) : List Token → Option (List Token)
  | .word w :: rest => if foldCase w = word then some rest else none
  | _ => none

/-- Takes a mark off the front. -/
def mark? (c : Char) : List Token → Option (List Token)
  | .mark d :: rest => if c = d then some rest else none
  | _ => none

/-- Takes a name off the front. -/
def name? : List Token → Option (String × List Token)
  | .word w :: rest => if foldCase w ∈ reserved then none else some (w, rest)
  | _ => none

def parameter? : List Token → Option (String × List Token)
  | .parameter p :: rest => some (p, rest)
  | _ => none

def number? : List Token → Option (Nat × List Token)
  | .number n :: rest => some (n, rest)
  | _ => none

/-- Takes a column, perhaps qualified, off the front. -/
def columnRef? (ts : List Token) : Option (ColumnRef × List Token) := do
  let (first, rest) ← name? ts
  match mark? '.' rest with
  | some rest =>
    let (second, rest) ← name? rest
    return (⟨some first, second⟩, rest)
  | none => return (⟨none, first⟩, rest)

/-- Takes items, each followed by a comma except the last, off the front. The first argument bounds
their number. -/
def commaList? {α : Type} (item? : List Token → Option (α × List Token)) :
    Nat → List Token → Option (List α × List Token)
  | 0, _ => none
  | fuel + 1, ts => do
    let (item, ts) ← item? ts
    match mark? ',' ts with
    | some ts =>
      let (items, ts) ← commaList? item? fuel ts
      return (item :: items, ts)
    | none => return ([item], ts)

/-- Takes items in parentheses off the front. -/
def parenthesized? {α : Type} (item? : List Token → Option (α × List Token)) (ts : List Token) :
    Option (List α × List Token) := do
  let ts ← mark? '(' ts
  let (items, ts) ← commaList? item? ts.length ts
  return (items, ← mark? ')' ts)

/-- Takes a test off the front. -/
def test? (ts : List Token) : Option (Test ColumnRef × List Token) := do
  let (column, ts) ← columnRef? ts
  match mark? '=' ts with
  | some ts =>
    let (p, ts) ← parameter? ts
    return (.equals column p, ts)
  | none =>
    let ts ← keyword? "is" ts
    return (.isNull column, ← keyword? "null" ts)

/-- Adds a test to the first alternative. -/
def Condition.conjoin {γ : Type} (test : Test γ) : Condition γ → Condition γ
  | [] => [[test]]
  | tests :: others => (test :: tests) :: others

/-- Takes tests joined by `and` and `or` off the front; `and` binds tighter. -/
def tests? : Nat → List Token → Option (Condition ColumnRef × List Token)
  | 0, _ => none
  | fuel + 1, ts => do
    let (test, ts) ← test? ts
    match keyword? "and" ts with
    | some ts =>
      let (condition, ts) ← tests? fuel ts
      return (Condition.conjoin test condition, ts)
    | none =>
      match keyword? "or" ts with
      | some ts =>
        let (condition, ts) ← tests? fuel ts
        return ([test] :: condition, ts)
      | none => return ([[test]], ts)

/-- Takes the clause that restricts the rows off the front, if there is one. -/
def condition? (ts : List Token) : Option (Condition ColumnRef × List Token) :=
  match keyword? "where" ts with
  | some ts => tests? ts.length ts
  | none => some (always, ts)

/-- Takes a table, perhaps with a name to go by, off the front. -/
def tableRef? (ts : List Token) : Option (TableRef × List Token) := do
  let (table, ts) ← name? ts
  match name? ts with
  | some (label, ts) => return (⟨table, label⟩, ts)
  | none => return (⟨table, table⟩, ts)

def join? (ts : List Token) : Option (Option Join × List Token) :=
  match keyword? "join" ts with
  | none => some (none, ts)
  | some ts => do
    let (source, ts) ← tableRef? ts
    let ts ← keyword? "on" ts
    let (left, ts) ← columnRef? ts
    let ts ← mark? '=' ts
    let (right, ts) ← columnRef? ts
    return (some ⟨source, left, right⟩, ts)

def order? (ts : List Token) : Option (Option (Order ColumnRef) × List Token) :=
  match keyword? "order" ts with
  | none => some (none, ts)
  | some ts => do
    let ts ← keyword? "by" ts
    let (column, ts) ← columnRef? ts
    match keyword? "desc" ts with
    | some ts => return (some ⟨column, true⟩, ts)
    | none => return (some ⟨column, false⟩, (keyword? "asc" ts).getD ts)

def window? (ts : List Token) : Option (Option Window × List Token) :=
  match keyword? "limit" ts with
  | none => some (none, ts)
  | some ts => do
    let (limit, ts) ← number? ts
    let ts ← keyword? "offset" ts
    let (offset, ts) ← number? ts
    return (some ⟨limit, offset⟩, ts)

/-- Reads what follows `select`. -/
def query? (ts : List Token) : Option (Query × List Token) := do
  let (column, ts) ← columnRef? ts
  let ts ← keyword? "from" ts
  let (source, ts) ← tableRef? ts
  let (join, ts) ← join? ts
  let (condition, ts) ← condition? ts
  let (order, ts) ← order? ts
  let (window, ts) ← window? ts
  return (⟨column, source, join, condition, order, window⟩, ts)

/-- Takes a column with the parameter that it is set from off the front. -/
def setting? (ts : List Token) : Option ((String × String) × List Token) := do
  let (column, ts) ← name? ts
  let ts ← mark? '=' ts
  let (p, ts) ← parameter? ts
  return ((column, p), ts)

def settings? (ts : List Token) : Option (Settings String × List Token) := do
  let ts ← keyword? "set" ts
  commaList? setting? ts.length ts

def onConflict? (ts : List Token) : Option (Option (String × Settings String) × List Token) :=
  match keyword? "on" ts with
  | none => some (none, ts)
  | some ts => do
    let ts ← keyword? "conflict" ts
    let ts ← mark? '(' ts
    let (column, ts) ← name? ts
    let ts ← mark? ')' ts
    let ts ← keyword? "do" ts
    let ts ← keyword? "update" ts
    let (settings, ts) ← settings? ts
    return (some (column, settings), ts)

/-- Reads what follows `insert`: as many values as columns. -/
def insert? (ts : List Token) : Option (InsertCommand × List Token) := do
  let ts ← keyword? "into" ts
  let (table, ts) ← name? ts
  let (columns, ts) ← parenthesized? name? ts
  let ts ← keyword? "values" ts
  let (values, ts) ← parenthesized? parameter? ts
  if columns.length = values.length then
    let (conflict, ts) ← onConflict? ts
    return (⟨table, columns.zip values, conflict⟩, ts)
  else none

/-- Reads what follows `update`. -/
def update? (ts : List Token) : Option (UpdateCommand × List Token) := do
  let (table, ts) ← name? ts
  let (settings, ts) ← settings? ts
  let (condition, ts) ← condition? ts
  return (⟨table, settings, condition⟩, ts)

/-- Reads a statement; all tokens have to be used. -/
def command? (ts : List Token) : Option Command := do
  let (command, rest) ← match keyword? "select" ts, keyword? "insert" ts, keyword? "update" ts with
    | some ts, _, _ => (query? ts).map fun (q, rest) => (Command.query q, rest)
    | _, some ts, _ => (insert? ts).map fun (i, rest) => (Command.insert i, rest)
    | _, _, some ts => (update? ts).map fun (u, rest) => (Command.update u, rest)
    | _, _, _ => none
  if rest.isEmpty then return command else none

/-- Reads the text of a statement. -/
def parse? (sql : String) : Option Command := (tokens? sql.toList).bind command?

end Rowset.Sql
