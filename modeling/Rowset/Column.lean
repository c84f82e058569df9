import Rowset.Value.Field

/-!
# Columns of a record

A record is an ordered list of entries. An entry maps one field onto a table column, or embeds a
group of entries, whose columns stand in its place when the record is flattened. Everything that
generates statements works on the flattened columns, so how they are grouped does not matter to it.
-/

namespace Rowset

/-- How a field maps onto a column. -/
structure ColumnOpts where
  name : String
  /-- Another name, mostly qualified by an alias, that predicates of filters use. -/
  filterAs : Option String := none
  /-- Columns that are not insertable are only read. -/
  insertable : Bool := true
  /-- Forced columns are written by updates even when they are zero. -/
  force : Bool := false
deriving DecidableEq

namespace ColumnOpts

/-- The name that predicates of filters use. -/
def filterName (opts : ColumnOpts) : String := opts.filterAs.getD opts.name

def filteredAs (opts : ColumnOpts) (name : String) : ColumnOpts :=
  { opts with filterAs := some name }

def readOnly (opts : ColumnOpts) : ColumnOpts := { opts with insertable := false }

def forced (opts : ColumnOpts) : ColumnOpts := { opts with force := true }

end ColumnOpts

/-- A mapped field with the value it holds. -/
structure Column where
  /-- The field's own name, under which filters bind it. -/
  field : String
  opts : ColumnOpts
  value : Value
  /-- Whether the field counts as not set. -/
  zero : Bool

namespace Column

def ofField (field : String) (opts : ColumnOpts) (content : FieldValue) : Column :=
  ⟨field, opts, content.toValue, content.isZero⟩

def name (c : Column) : String := c.opts.name

def filterName (c : Column) : String := c.opts.filterName

end Column

/-- An entry of a record. -/
inductive Entry where
  | column (c : Column)
  | group (name : String) (entries : List Entry)

/-- The entries of a record, in the order of their declaration. -/
abbrev Record := List Entry

mutual

/-- The columns of an entry, those of a group in its place. -/
def Entry.columns : Entry → List Column
  | .column c => [c]
  | .group _ entries => Record.columns entries

/-- The columns of a record, flattened. -/
def Record.columns : Record → List Column
  | [] => []
  | entry :: entries => entry.columns ++ Record.columns entries

end

namespace Record

@[simp] theorem columns_nil : columns [] = [] := rfl

@[simp] theorem columns_cons (entry : Entry) (entries : Record) :
    columns (entry :: entries) = entry.columns ++ columns entries := rfl

@[simp] theorem columns_append (r s : Record) : columns (r ++ s) = columns r ++ columns s := by
  induction r with
  | nil => rfl
  | cons entry entries ih =>
    show entry.columns ++ columns (entries ++ s) = entry.columns ++ columns entries ++ columns s
    rw [ih, List.append_assoc]

end Record

/-- A group is transparent: it contributes the columns of its entries. -/
@[simp] theorem Entry.columns_group (name : String) (entries : List Entry) :
    (Entry.group name entries).columns = Record.columns entries := rfl

@[simp] theorem Entry.columns_column (c : Column) : (Entry.column c).columns = [c] := rfl

end Rowset
