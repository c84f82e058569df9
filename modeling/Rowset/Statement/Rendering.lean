import Rowset.Statement.Template

/-!
# Placeholders and binds

Rendering turns a template into text and a list of binds. A dialect either counts its binds, one for
every placeholder, or names them. Where binds are named, a repeated name is bound once as long as
the value is the same; a name that is already taken by another value is replaced by the first usable
one of `name_2`, `name_3` and so on, so that neither value is lost.

A rendering remembers its pieces: for each placeholder the name chosen for it and the parameter that
it stands for. The text is a view of the pieces.
-/

namespace Rowset

open Rowset.Text

/-- The form of placeholders. -/
inductive Dialect where
  /-- `:name`, bound by name. -/
  | named
  /-- `?`, bound in order. -/
  | positional
  /-- `$1`, `$2` and so on, bound in order. -/
  | numbered
deriving DecidableEq, Repr

namespace Dialect

def name : Dialect → String
  | .named => "named"
  | .positional => "positional"
  | .numbered => "numbered"

def bindsByName : Dialect → Bool
  | .named => true
  | .positional | .numbered => false

/-- The placeholder of a name when so many binds precede it. -/
def placeholder (dialect : Dialect) (name : String) (index : Nat) : String :=
  match dialect with
  | .named => ":" ++ name
  | .positional => "?"
  | .numbered => "$" ++ Decimal.natText (index + 1)

end Dialect

/-- A value bound to a placeholder. -/
structure Bind where
  name : String
  value : Value

def Bind.display (b : Bind) : String := b.name ++ "=" ++ b.value.display

/-! ## Names -/

/-- The names that a parameter may be bound under, in the order of preference. -/
def candidateName (name : String) : Nat → String
  | 0 => name
  | k + 1 => name ++ "_" ++ Decimal.natText (k + 2)

/-- The value bound under a name. -/
def boundValue? (binds : List Bind) (name : String) : Option Value :=
  (binds.find? fun b => b.name == name).map Bind.value

/-- Whether a value can go under a name: it is free, or bound to an equal value. -/
def isUsable (binds : List Bind) (value : Value) (name : String) : Bool :=
  match boundValue? binds name with
  | none => true
  | some bound => bound.eqv value

/-- The name that a parameter is bound under: the first usable candidate. One more candidate than
there are binds is enough, since the candidates are all different. Their numbers have no bound here; a
search that counts in machine integers comes to the same name as long as it has a number for it. -/
def bindName (binds : List Bind) (p : Param) : String :=
  (((List.range (binds.length + 1)).map (candidateName p.name)).find?
    (isUsable binds p.value)).getD p.name

/-! ## Rendering -/

/-- A piece of rendered text. -/
inductive Piece where
  | text (s : String)
  /-- A placeholder, with so many binds before it, for a parameter. -/
  | slot (name : String) (index : Nat) (param : Param)

def Piece.print (dialect : Dialect) : Piece → String
  | .text s => s
  | .slot name index _ => dialect.placeholder name index

structure Rendering where
  dialect : Dialect
  pieces : List Piece := []
  binds : List Bind := []

namespace Rendering

/-- The text so far. -/
def sql (r : Rendering) : String := String.join (r.pieces.map (Piece.print r.dialect))

def text (r : Rendering) (s : String) : Rendering := { r with pieces := r.pieces ++ [.text s] }

/-- Binds a value under a name, unless the name is bound already. -/
def bindOnce (binds : List Bind) (name : String) (value : Value) : List Bind :=
  if binds.any fun b => b.name == name then binds else binds ++ [⟨name, value⟩]

/-- Writes the placeholder of a parameter and binds its value. -/
def param (r : Rendering) (p : Param) : Rendering :=
  if r.dialect.bindsByName then
    let name := bindName r.binds p
    { r with
      pieces := r.pieces ++ [.slot name r.binds.length p]
      binds := bindOnce r.binds name p.value }
  else
    { r with
      pieces := r.pieces ++ [.slot p.name r.binds.length p]
      binds := r.binds ++ [⟨p.name, p.value⟩] }

def part (r : Rendering) : Part → Rendering
  | .text s => r.text s
  | .param p => r.param p

/-- Appends a template. -/
def append (r : Rendering) (t : Template) : Rendering := t.foldl part r

@[simp] theorem append_nil (r : Rendering) : r.append [] = r := rfl

@[simp] theorem append_cons (r : Rendering) (part : Part) (t : Template) :
    r.append (part :: t) = (r.part part).append t := rfl

@[simp] theorem append_append (r : Rendering) (s t : Template) :
    r.append (s ++ t) = (r.append s).append t := List.foldl_append

@[simp] theorem sql_text (r : Rendering) (s : String) : (r.text s).sql = r.sql ++ s := by
  apply String.toList_inj.1
  simp [sql, text, Piece.print]

end Rendering

/-- Rendered text and the values to bind, in the order of their placeholders. -/
structure Statement where
  sql : String
  binds : List Bind := []

namespace Rendering

def statement (r : Rendering) : Statement := ⟨r.sql, r.binds⟩

end Rendering

/-- Renders a template on its own. -/
def Template.render (dialect : Dialect) (t : Template) : Statement :=
  (({ dialect } : Rendering).append t).statement

end Rowset
