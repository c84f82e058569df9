import Rowset.Store.Table

/-!
# The tables of the store

Three tables: categories, the rewards that broadcasters offer, and users. A store holds the rows of
each; it starts without any.
-/

namespace Rowset

def categoriesDef : TableDef where
  name := "categories"
  key := "id"
  columns :=
    [{ name := "id" },
      { name := "category_name", notNull := true },
      { name := "box_art_url", notNull := true, default := .text "" }]

def rewardsDef : TableDef where
  name := "rewards"
  key := "id"
  columns :=
    [{ name := "id" },
      { name := "broadcaster_id", notNull := true },
      { name := "title", notNull := true },
      { name := "cost", notNull := true },
      { name := "is_enabled", notNull := true },
      { name := "is_paused", notNull := true },
      { name := "max_per_stream" }]

def usersDef : TableDef where
  name := "users"
  key := "id"
  columns := [{ name := "id" }, { name := "display_name", notNull := true }]

def schema : List TableDef := [categoriesDef, rewardsDef, usersDef]

structure Store where
  tables : List Table

namespace Store

/-- A store with all its tables and no rows. -/
def empty : Store := ⟨schema.map fun d => ⟨d, []⟩⟩

/-- The rows of a table; a table that is not there has none. -/
def rows (s : Store) (name : String) : List Row :=
  ((s.tables.find? fun t => t.definition.name == name).map Table.rows).getD []

/-- Puts a table in the place of the one with its name. -/
def replace (s : Store) (table : Table) : Store :=
  ⟨s.tables.map fun t => if t.definition.name == table.definition.name then table else t⟩

end Store

end Rowset
