import Rowset.Column

/-!
# Records of the store

The records that are written to the store's tables and that its queries are filtered by, each with
the columns its fields map to.
-/

namespace Rowset

/-- A field of a required type. -/
def mapped (field : String) (opts : ColumnOpts) (content : Scalar) : Entry :=
  .column (.ofField field opts (.plain content))

/-- A field that may be absent. -/
def mappedOptional {α : Type} (field : String) (opts : ColumnOpts) (scalar : α → Scalar)
    (content : Option α) : Entry :=
  .column (.ofField field opts (.ofOption scalar content))

structure Category where
  id : String := ""
  name : String := ""
  boxArtUrl : String := ""

/-- The artwork of a category is only read. -/
def Category.record (c : Category) : Record :=
  [mapped "id" { name := "id" } (.text c.id),
    mapped "name" { name := "category_name" } (.text c.name),
    mapped "box_art_url" (ColumnOpts.readOnly { name := "box_art_url" }) (.text c.boxArtUrl)]

structure RewardLimits where
  maxPerStream : Option Int64 := none

/-- The limit is always written, so that it can be taken off again. -/
def RewardLimits.record (l : RewardLimits) : Record :=
  [mappedOptional "max_per_stream" (ColumnOpts.forced { name := "max_per_stream" }) .signed
    l.maxPerStream]

structure Reward where
  id : String := ""
  broadcasterId : String := ""
  title : String := ""
  cost : Int64 := 0
  enabled : Bool := false
  paused : Bool := false
  limits : RewardLimits := {}
  broadcasterName : String := ""

/-- The broadcaster's name belongs to another table and is only read. -/
def Reward.record (r : Reward) : Record :=
  [mapped "id" { name := "id" } (.text r.id),
    mapped "broadcaster_id" (ColumnOpts.filteredAs { name := "broadcaster_id" } "r.broadcaster_id")
      (.text r.broadcasterId),
    mapped "title" { name := "title" } (.text r.title),
    mapped "cost" { name := "cost" } (.signed r.cost),
    mapped "enabled" { name := "is_enabled" } (.flag r.enabled),
    mapped "paused" { name := "is_paused" } (.flag r.paused),
    .group "limits" r.limits.record,
    mapped "broadcaster_name"
      ((ColumnOpts.filteredAs { name := "broadcaster_name" } "u.display_name").readOnly)
      (.text r.broadcasterName)]

/-- Criteria on rewards; an optional field that is present asks for its value, whatever it is. -/
structure RewardQuery where
  enabled : Option Bool := none
  paused : Option Bool := none
  cost : Int64 := 0

def RewardQuery.record (q : RewardQuery) : Record :=
  [mappedOptional "enabled" { name := "is_enabled" } .flag q.enabled,
    mappedOptional "paused" { name := "is_paused" } .flag q.paused,
    mapped "cost" { name := "cost" } (.signed q.cost)]

structure Owner where
  id : String := ""

def Owner.record (o : Owner) : Record :=
  [mapped "id" { name := "broadcaster_id" } (.text o.id)]

/-- Criteria on a reward's own id and its owner's. -/
structure RewardLookup where
  id : String := ""
  owner : Owner := {}

def RewardLookup.record (l : RewardLookup) : Record :=
  [mapped "id" { name := "id" } (.text l.id), .group "owner" l.owner.record]

/-- A category without artwork. -/
def Category.new (id name : String) : Category := { id, name }

/-- A reward of the first broadcaster, titled after its id. -/
def Reward.new (id : String) (cost : Int64) (enabled : Bool) : Reward :=
  { id, broadcasterId := "b1", title := "Reward " ++ id, cost, enabled }

end Rowset
