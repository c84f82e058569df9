import Rowset.Proofs.Json.Documents
import Rowset.Proofs.Time.Reading
import Rowset.Proofs.Value.Equality
import Rowset.Value.Tagged

/-!
# Values read back from JSON

The JSON text of a value is read as the very value that was written, of the same kind. There is one
exception: a timestamp in a leap second within a minute is written, and read back, as one in the
second that follows. The text of a floating-point number may be read as a number beside it, so this
is said of values without any; and the object around a document leaves it one level less to nest.
-/

namespace Rowset

open Rowset.Text

/-! ## Identifiers -/

namespace Uuid

variable {p q r s : List Char}

/-- Groups of digits are found between their hyphens. -/
theorem parseGrouped?_groups (hp : p.length = 8) (hq : q.length = 4) (hr : r.length = 4)
    (hs : s.length = 4) (t : List Char) :
    parseGrouped? (p ++ '-' :: q ++ '-' :: r ++ '-' :: s ++ '-' :: t) =
      (Hex.toBytes? (p ++ q ++ r ++ s ++ t)).bind of? := by
  simp (disch := omega) only [parseGrouped?, List.append_assoc, List.cons_append, List.drop_append,
    List.take_append, hp, hq, hr, hs, List.drop_of_length_le, List.take_of_length_le,
    List.drop_succ_cons, List.nil_append, List.drop_zero, List.take_zero, List.append_nil,
    Nat.reduceSub]
  rfl

theorem take_append_drop_two (bytes : List UInt8) (k : Nat) :
    (bytes.drop k).take 2 ++ bytes.drop (k + 2) = bytes.drop k := by
  rw [← List.drop_drop, List.take_append_drop]

theorem parseGrouped?_print (u : Uuid) : parseGrouped? u.print = some u := by
  obtain ⟨bytes, length⟩ := u
  have groups : bytes.take 4 ++ ((bytes.drop 4).take 2 ++ ((bytes.drop 6).take 2 ++
      ((bytes.drop 8).take 2 ++ bytes.drop 10))) = bytes := by
    rw [take_append_drop_two bytes 8, take_append_drop_two bytes 6, take_append_drop_two bytes 4,
      List.take_append_drop]
  have pair (k : Nat) (h : k + 2 ≤ 16) : (Hex.ofBytes ((bytes.drop k).take 2)).length = 4 := by
    rw [Hex.length_ofBytes, List.length_take, List.length_drop, length]
    omega
  have four : (Hex.ofBytes (bytes.take 4)).length = 8 := by
    rw [Hex.length_ofBytes, List.length_take, length]
    rfl
  rw [print, parseGrouped?_groups four (pair 4 (by decide)) (pair 6 (by decide))
    (pair 8 (by decide))]
  simp only [← Hex.ofBytes_append, List.append_assoc, groups, Hex.toBytes?_ofBytes,
    Option.bind_some]
  exact dif_pos length

theorem parse?_print (u : Uuid) : parse? u.print = some u := by
  have length : u.print.length = 36 := by
    simp [print, u.length_bytes]
  rw [parse?, if_neg (by omega), if_pos length, parseGrouped?_print]

end Uuid

/-! ## Values without floating-point numbers -/

namespace Value

/-- No floating-point number, neither as the value itself nor within its document. -/
def FloatFree : Value → Prop
  | .float _ => False
  | .json d => d.value.FloatFree
  | _ => True

/-- How deep a value's document nests. -/
def nesting : Value → Nat
  | .json d => d.value.depth
  | _ => 0

theorem FloatFree.defined {v : Value} (h : v.FloatFree) : v.Defined := by
  rintro x rfl
  exact h.elim

/-- Values of one kind. -/
inductive SameKind : Value → Value → Prop
  | int (m n : Int64) : SameKind (int m) (int n)
  | uint (m n : UInt64) : SameKind (uint m) (uint n)
  | float (x y : Binary64) : SameKind (float x) (float y)
  | string (s t : String) : SameKind (string s) (string t)
  | boolean (a b : Bool) : SameKind (boolean a) (boolean b)
  | json (d e : Json.Document) : SameKind (json d) (json e)
  | uuid (u v : Uuid) : SameKind (uuid u) (uuid v)
  | bytes (bs cs : List UInt8) : SameKind (bytes bs) (bytes cs)
  | date (d e : Date) : SameKind (date d) (date e)
  | timestamp (t u : Timestamp) : SameKind (timestamp t) (timestamp u)
  | null : SameKind null null

/-! ## What a value spells -/

/-- A timestamp in a leap second that does not end a minute. -/
def LeapsMidMinute : Value → Prop
  | .timestamp t => t.time.LeapsMidMinute
  | _ => False

/-- The value that is spelled by what is written for `v`. -/
def spelled : Value → Value
  | .timestamp t => .timestamp t.spelled
  | v => v

variable {v w : Value}

theorem sameKind_spelled (v : Value) : v.SameKind v.spelled := by
  cases v <;> constructor

theorem spelled_eq_self_iff : v.spelled = v ↔ ¬ v.LeapsMidMinute := by
  cases v with
  | timestamp t =>
    rw [spelled, LeapsMidMinute, ← Timestamp.spelled_eq_self_iff]
    exact ⟨timestamp.inj, congrArg timestamp⟩
  | _ => exact iff_of_true rfl id

theorem not_leapsMidMinute_spelled (v : Value) : ¬ v.spelled.LeapsMidMinute := by
  cases v with
  | timestamp t => exact t.time.not_leapsMidMinute_spelled
  | _ => exact id

/-- Equality tells a value from what it spells whenever they are not the same. -/
theorem spelled_eqv_iff (h : v.FloatFree) : v.spelled.eqv v = true ↔ ¬ v.LeapsMidMinute := by
  rw [← spelled_eq_self_iff]
  constructor
  · intro same
    cases v with
    | timestamp t => exact congrArg timestamp (beq_iff_eq.1 same)
    | _ => rfl
  · intro same
    rw [same]
    exact (eqv_self_iff v).2 h.defined

/-! ## Content of each kind -/

/-- An object of one member is read by its name. -/
theorem parse?_tagged (kind : String) {content : Json} (h : content.FloatFree) :
    parse? (tagged kind content).text = ofContent? kind (content.written h) := by
  have written : Json.Written.ofBytes? (Utf8.encode (tagged kind content).print) =
      some (.object [(Json.textUnits kind, content.written h)]) :=
    Json.ofBytes?_print (tagged kind content) ⟨h, trivial⟩
  rw [parse?, Json.text, String.toList_ofList, written, Option.bind_some, ofWritten?,
    Json.unitText?_textUnits]
  rfl

theorem parse?_taggedInteger (kind : String) {n : Int}
    (h : -0x8000000000000000 ≤ n ∧ n ≤ 0xffffffffffffffff) :
    parse? (tagged kind (.number (.integer n h))).text = ofContent? kind (.number (.ofInt n)) := by
  have content : (Json.number (.integer n h)).FloatFree := trivial
  exact parse?_tagged kind content

theorem parse?_taggedText (kind s : String) :
    parse? (tagged kind (.string s)).text = ofContent? kind (.string (Json.textUnits s)) := by
  have content : (Json.string s).FloatFree := trivial
  exact parse?_tagged kind content

theorem parse?_int (n : Int64) : parse? (int n).jsonText = some (int n) := by
  have low := n.le_toInt
  have high := n.toInt_lt
  rw [jsonText, toJson, Json.ofInt64, parse?_taggedInteger, ofContent?,
    Json.integer?_number (by omega), if_pos (by omega), Option.map_some, Int64.ofInt_toInt]

theorem parse?_uint (n : UInt64) : parse? (uint n).jsonText = some (uint n) := by
  have high := n.toNat_lt
  rw [jsonText, toJson, Json.ofUInt64, parse?_taggedInteger, ofContent?,
    Json.integer?_number (by omega), if_pos (by omega), Option.map_some, Int.toNat_natCast,
    UInt64.ofNat_toNat]

theorem parse?_string (s : String) : parse? (string s).jsonText = some (string s) := by
  rw [jsonText, toJson, parse?_taggedText, ofContent?, Json.text?_textUnits, Option.map_some]

theorem parse?_boolean (b : Bool) : parse? (boolean b).jsonText = some (boolean b) := by
  have content : (Json.bool b).FloatFree := trivial
  exact parse?_tagged "Boolean" content

/-- A document comes back whole as long as it leaves room for the object around it. -/
theorem parse?_json {d : Json.Document} (h : d.value.FloatFree) :
    parse? (json d).jsonText = if d.value.depth ≤ 126 then some (json d) else none := by
  rw [jsonText, toJson, parse?_tagged "Json" h, ofContent?, Json.json?_written]
  -- The limit on nesting, less the object around the document.
  show Option.map _ (if d.value.depth ≤ 126 then some d.value else none) = _
  split
  next => rw [Option.map_some, Json.Document.ofJson_value]
  next => rfl

theorem parse?_uuid (u : Uuid) : parse? (uuid u).jsonText = some (uuid u) := by
  rw [jsonText, toJson, parse?_taggedText, ofContent?, Json.text?_textUnits,
    Option.bind_some, String.toList_ofList, Uuid.parse?_print, Option.map_some]

/-- A number from 0 to 255 as a byte. -/
def byte? (item : Json.Written) : Option UInt8 :=
  (item.integer? 0 255).map fun n => UInt8.ofNat n.toNat

theorem floatFreeItems_ofUInt8 (bs : List UInt8) : Json.FloatFreeItems (bs.map .ofUInt8) := by
  induction bs with
  | nil => trivial
  | cons b bs ih => exact ⟨trivial, ih⟩

theorem mapM_byte?_writtenItems (bs : List UInt8) (h : Json.FloatFreeItems (bs.map .ofUInt8)) :
    (Json.writtenItems (bs.map .ofUInt8) h).mapM byte? = some bs := by
  induction bs with
  | nil => rfl
  | cons b bs ih =>
    have high := b.toNat_lt
    have first : byte? (.number (.ofInt b.toNat)) = some b := by
      rw [byte?, Json.integer?_number (by omega), if_pos (by omega), Option.map_some,
        Int.toNat_natCast, UInt8.ofNat_toNat]
    show List.mapM byte? (Json.Written.number (.ofInt b.toNat) :: _) = _
    rw [List.mapM_cons, first, ih h.2]
    rfl

theorem parse?_bytes (bs : List UInt8) : parse? (bytes bs).jsonText = some (bytes bs) := by
  have items := floatFreeItems_ofUInt8 bs
  have content : (Json.array (bs.map .ofUInt8)).FloatFree := items
  have read : parse? (bytes bs).jsonText =
      ((Json.writtenItems (bs.map .ofUInt8) items).mapM byte?).map Value.bytes :=
    parse?_tagged "Bytes" content
  rw [read, mapM_byte?_writtenItems, Option.map_some]

theorem parse?_date (d : Date) : parse? (date d).jsonText = some (date d) := by
  rw [jsonText, toJson, parse?_taggedText, ofContent?, Json.text?_textUnits,
    Option.bind_some, String.toList_ofList, Date.parse?_print, Option.map_some]

theorem parse?_timestamp (t : Timestamp) :
    parse? (timestamp t).jsonText = some (timestamp t.spelled) := by
  rw [jsonText, toJson, parse?_taggedText, ofContent?, Json.text?_textUnits,
    Option.bind_some, String.toList_ofList, Timestamp.parse?_printShort, Option.map_some]

theorem parse?_null : parse? null.jsonText = some null := by
  have written : Json.Written.ofBytes? (Utf8.encode (Json.string "Null").print) =
      some (.string (Json.textUnits "Null")) := Json.ofBytes?_print (.string "Null") trivial
  rw [parse?, jsonText, toJson, Json.text, String.toList_ofList, written, Option.bind_some,
    ofWritten?, Json.unitText?_textUnits]
  rfl

/-! ## Every kind -/

/-- What the value spells is read back, up to a limit on nesting; a document that nests deeper is
refused, so it never comes back as something else. -/
theorem parse?_jsonText (v : Value) (h : v.FloatFree) :
    parse? v.jsonText = if v.nesting ≤ 126 then some v.spelled else none := by
  -- Only a document nests; for every other kind the condition is that nothing exceeds the limit.
  have flat : v.nesting = 0 → parse? v.jsonText = some v.spelled →
      parse? v.jsonText = if v.nesting ≤ 126 then some v.spelled else none := by
    intro zero read
    rw [read, if_pos (by omega)]
  cases v with
  | int n => exact flat rfl (parse?_int n)
  | uint n => exact flat rfl (parse?_uint n)
  | float x => exact h.elim
  | string s => exact flat rfl (parse?_string s)
  | boolean b => exact flat rfl (parse?_boolean b)
  | json d => exact parse?_json h
  | uuid u => exact flat rfl (parse?_uuid u)
  | bytes bs => exact flat rfl (parse?_bytes bs)
  | date d => exact flat rfl (parse?_date d)
  | timestamp t => exact flat rfl (parse?_timestamp t)
  | null => exact flat rfl parse?_null

/-- Values of the same text spell the same: an integer never stands for an unsigned one, a date never
for its text, and nothing for the document that holds nothing. -/
theorem spelled_eq_of_jsonText_eq (hv : v.FloatFree) (hw : w.FloatFree) (depth : v.nesting ≤ 126)
    (h : v.jsonText = w.jsonText) : v.spelled = w.spelled := by
  have read : some v.spelled = parse? w.jsonText := by rw [← h, parse?_jsonText v hv, if_pos depth]
  rw [parse?_jsonText w hw] at read
  split at read
  next => exact Option.some.inj read
  next => exact nomatch read

/-- The text of a value without floating-point numbers is read as a value of its kind, as long as its
document nests at most 126 arrays and objects. What is read is what the text spells. It equals the
value that was written, and is the very same, unless that is a timestamp in a leap second within a
minute. -/
theorem jsonText_read_back (v : Value) (h : v.FloatFree) (depth : v.nesting ≤ 126) :
    parse? v.jsonText = some v.spelled ∧ v.SameKind v.spelled ∧
      (v.spelled.eqv v = true ↔ ¬ v.LeapsMidMinute) ∧ (v.spelled = v ↔ ¬ v.LeapsMidMinute) := by
  refine ⟨?_, v.sameKind_spelled, spelled_eqv_iff h, spelled_eq_self_iff⟩
  rw [parse?_jsonText v h, if_pos depth]

/-- A document of names and texts that look like kinds. -/
def kindsDocument : Json.Document :=
  .ofJson (.object [("Uint", .string "Null"), ("Int", .array [.null, .object []])])

theorem jsonText_read_back_of_kinds :
    (json kindsDocument).jsonText =
        "\x7b\"Json\":\x7b\"Int\":[null,\x7b\x7d],\"Uint\":\"Null\"\x7d\x7d" ∧
      (json kindsDocument).FloatFree ∧ (json kindsDocument).nesting = 3 ∧
      parse? (json kindsDocument).jsonText = some (json kindsDocument) := by
  have free : (json kindsDocument).FloatFree := ⟨⟨trivial, trivial, trivial⟩, trivial, trivial⟩
  have nesting : (json kindsDocument).nesting = 3 := by decide +kernel
  exact ⟨by decide +kernel, free, nesting,
    (jsonText_read_back (json kindsDocument) free (by omega)).1⟩

/-- A leap second four minutes before midnight is read back as the second that follows it. -/
theorem not_read_back_within_minute :
    let day : Date := ⟨2016, 12, 31, by decide⟩
    let leap : Timestamp := ⟨day, ⟨86164, 1333333333, by decide, by decide⟩⟩
    let next : Timestamp := ⟨day, ⟨86165, 333333333, by decide, by decide⟩⟩
    (timestamp leap).FloatFree ∧ (timestamp leap).nesting ≤ 126 ∧
      (timestamp leap).jsonText =
        "\x7b\"Timestamp\":\"2016-12-31T23:56:05.333333333Z\"\x7d" ∧
      parse? (timestamp leap).jsonText = some (timestamp next) ∧
      ¬ ∃ u, parse? (timestamp leap).jsonText = some u ∧ u.eqv (timestamp leap) = true := by
  intro day leap next
  have spells : leap.spelled = next := by decide
  have read : parse? (timestamp leap).jsonText = some (timestamp next) :=
    spells ▸ parse?_timestamp leap
  refine ⟨trivial, Nat.zero_le _, by decide +kernel, read, ?_⟩
  rintro ⟨u, back, same⟩
  obtain rfl := Option.some.inj (read.symm.trans back)
  exact absurd (beq_iff_eq.1 same) (show next ≠ leap by decide)

end Value

end Rowset
