import Rowset.Proofs.Time.Numbers
import Rowset.Value.Stored

/-!
# Literals on display

A text, a document, an identifier, a row of bytes and a time are shown as literals that a statement
could hold. Read by the rules for literals, the whole of what is shown is one of them, and it is the
very value that the store keeps. Quotes within are written twice and read once, so none of them ends
the literal, wherever they stand; identifiers and times have none.

| kind | literal | why it ends where it does |
|---|---|---|
| text, document | `'…'`, quotes doubled | a quote inside never stands alone |
| identifier, date, timestamp | `'…'` as it is | there is no quote inside |
| bytes | `x'…'` | only digits stand inside |
-/

namespace Rowset

open Rowset.Text

/-! ## Quotes -/

namespace Text.Quoted

/-- What stands inside a literal that has been opened, and what comes behind it. Two quotes stand for
one; a quote alone closes the literal. -/
def inside? : List Char → Option (List Char × List Char)
  | [] => none
  | '\'' :: '\'' :: cs => (inside? cs).map fun (inside, rest) => ('\'' :: inside, rest)
  | '\'' :: rest => some ([], rest)
  | c :: cs => (inside? cs).map fun (inside, rest) => (c :: inside, rest)

@[simp] theorem inside?_quotes (cs : List Char) :
    inside? ('\'' :: '\'' :: cs) =
      (inside? cs).map fun (inside, rest) => ('\'' :: inside, rest) := rfl

theorem inside?_close {rest : List Char} (h : rest.head? ≠ some '\'') :
    inside? ('\'' :: rest) = some ([], rest) := by
  cases rest with
  | nil => rfl
  | cons c rest =>
    have other : c ≠ '\'' := fun same => h (by rw [same]; rfl)
    simp [inside?, other]

theorem inside?_cons_of_ne {c : Char} (h : c ≠ '\'') (cs : List Char) :
    inside? (c :: cs) = (inside? cs).map fun (inside, rest) => (c :: inside, rest) := by
  simp [inside?, h]

/-- A text is found between the quotes around it, however many it has of its own. -/
theorem inside?_encode (cs : List Char) {rest : List Char} (h : rest.head? ≠ some '\'') :
    inside? (encode cs ++ '\'' :: rest) = some (cs, rest) := by
  induction cs with
  | nil => exact inside?_close h
  | cons c cs ih =>
    by_cases quote : c = '\''
    · rw [quote, encode_quote, List.cons_append, List.cons_append, inside?_quotes, ih,
        Option.map_some]
    · rw [encode_cons_of_ne quote, List.cons_append, inside?_cons_of_ne quote, ih, Option.map_some]

/-- A text without quotes needs none doubled. -/
theorem encode_of_notMem {cs : List Char} (h : '\'' ∉ cs) : encode cs = cs := by
  induction cs with
  | nil => rfl
  | cons c cs ih =>
    rw [List.mem_cons, not_or] at h
    rw [encode_cons_of_ne (Ne.symm h.1), ih h.2]

theorem enclose_eq_literal {cs : List Char} (h : '\'' ∉ cs) : enclose cs = literal cs := by
  rw [enclose, literal, encode_of_notMem h]

end Text.Quoted

/-! ## Digits -/

namespace Text.Hex

/-- A hexadecimal digit of either case. -/
def isDigit (c : Char) : Bool := (value? c).isSome

theorem isDigit_digit {n : Nat} (h : n < 16) : isDigit (digit n) = true := by
  rw [isDigit, value?_digit h, Option.isSome_some]

theorem isDigit_of_mem_ofBytes {bs : List UInt8} {c : Char} (h : c ∈ ofBytes bs) :
    isDigit c = true := by
  induction bs with
  | nil => cases h
  | cons b bs ih =>
    have small := b.toNat_lt
    rw [ofBytes_cons, List.mem_cons, List.mem_cons] at h
    obtain rfl | rfl | later := h
    · exact isDigit_digit (by omega)
    · exact isDigit_digit (by omega)
    · exact ih later

end Text.Hex

/-! ## Literals -/

/-- Takes a text or a blob off the front. The digits of a blob come in pairs. -/
def takeLiteral? : List Char → Option (SqlValue × List Char)
  | '\'' :: cs =>
    (Quoted.inside? cs).map fun (inside, rest) => (.text (String.ofList inside), rest)
  | 'x' :: '\'' :: cs | 'X' :: '\'' :: cs => do
    let bytes ← Hex.toBytes? (cs.takeWhile Hex.isDigit)
    match cs.dropWhile Hex.isDigit with
    | '\'' :: rest => return (.blob bytes, rest)
    | _ => none
  | _ => none

/-- Reads a whole text as a single literal. -/
def readLiteral? (text : String) : Option SqlValue :=
  match takeLiteral? text.toList with
  | some (value, []) => some value
  | _ => none

variable {rest : List Char}

theorem takeLiteral?_literal (cs : List Char) (h : rest.head? ≠ some '\'') :
    takeLiteral? (Quoted.literal cs ++ rest) = some (.text (String.ofList cs), rest) := by
  have inside := Quoted.inside?_encode cs h
  rw [Quoted.literal, List.cons_append, List.cons_append, List.append_assoc, takeLiteral?,
    List.singleton_append, inside, Option.map_some]

theorem takeLiteral?_enclose {cs : List Char} (plain : '\'' ∉ cs) (h : rest.head? ≠ some '\'') :
    takeLiteral? (Quoted.enclose cs ++ rest) = some (.text (String.ofList cs), rest) := by
  rw [Quoted.enclose_eq_literal plain, takeLiteral?_literal cs h]

/-- A blob ends at its closing quote, whatever comes behind it. -/
theorem takeLiteral?_blob (bs : List UInt8) (rest : List Char) :
    takeLiteral? ('x' :: '\'' :: Hex.ofBytes bs ++ '\'' :: rest) = some (.blob bs, rest) := by
  have digits : ∀ c ∈ Hex.ofBytes bs, Hex.isDigit c = true := fun _ => Hex.isDigit_of_mem_ofBytes
  have close : ¬Hex.isDigit '\'' = true := by decide
  have row : (Hex.ofBytes bs ++ '\'' :: rest).takeWhile Hex.isDigit = Hex.ofBytes bs := by
    rw [List.takeWhile_append_of_pos digits, List.takeWhile_cons_of_neg close, List.append_nil]
  have behind : (Hex.ofBytes bs ++ '\'' :: rest).dropWhile Hex.isDigit = '\'' :: rest := by
    rw [List.dropWhile_append_of_pos digits, List.dropWhile_cons_of_neg close]
  simp only [List.cons_append, takeLiteral?, row, behind, Hex.toBytes?_ofBytes]
  rfl

/-! ## Texts without quotes -/

theorem quote_notMem_ofBytes (bs : List UInt8) : '\'' ∉ Hex.ofBytes bs := by
  intro h
  exact absurd (Hex.isDigit_of_mem_ofBytes h) (by decide)

theorem quote_notMem_padded (width n : Nat) : '\'' ∉ Decimal.padded width n := by
  intro h
  exact absurd (Decimal.isDigit_of_mem_padded h) (by decide)

theorem Uuid.quote_notMem_print (u : Uuid) : '\'' ∉ u.print := by
  simp [print, quote_notMem_ofBytes]

theorem Date.quote_notMem_print (d : Date) : '\'' ∉ d.print := by
  have year : '\'' ∉ yearText d.year := by
    unfold yearText
    split
    next => exact quote_notMem_padded 4 _
    next => split <;> simp [quote_notMem_padded]
  simp [print, year, quote_notMem_padded]

theorem TimeOfDay.quote_notMem_print (t : TimeOfDay) : '\'' ∉ t.print := by
  have fraction (n : Nat) : '\'' ∉ fractionText n := by
    unfold fractionText
    repeat' split
    all_goals simp [quote_notMem_padded]
  simp [print, fraction, quote_notMem_padded]

theorem Timestamp.quote_notMem_print (t : Timestamp) : '\'' ∉ t.print := by
  simp [print, localText, t.date.quote_notMem_print, t.time.quote_notMem_print]

/-! ## Values -/

namespace Value

/-- Whether a value is shown as the literal of a text or a blob. -/
def isQuoted : Value → Bool
  | .string _ | .json _ | .uuid _ | .bytes _ | .date _ | .timestamp _ => true
  | .int _ | .uint _ | .float _ | .boolean _ | .null => false

/-- The literal of a value is the stored form of that value, and it ends where its text does: only
another quote would go on with it. -/
theorem takeLiteral?_print {v : Value} (h : v.isQuoted = true) (behind : rest.head? ≠ some '\'') :
    takeLiteral? (v.print ++ rest) = some (v.stored, rest) := by
  cases v with
  | string s =>
    rw [print, takeLiteral?_literal _ behind, String.ofList_toList]
    rfl
  | json d => exact takeLiteral?_literal d.value.print behind
  | uuid u => exact takeLiteral?_enclose u.quote_notMem_print behind
  | bytes bs =>
    rw [print, List.append_assoc, List.singleton_append, takeLiteral?_blob]
    rfl
  | date d => exact takeLiteral?_enclose d.quote_notMem_print behind
  | timestamp t => exact takeLiteral?_enclose t.quote_notMem_print behind
  | int _ | uint _ | float _ | boolean _ | null => cases h

/-- What is shown of a text, a document, an identifier, a row of bytes or a time is one literal and
nothing else, and it is what the store keeps of the value; within a longer text the literal ends
neither before nor behind what is shown. -/
theorem display_reads_as_stored (v : Value) (h : v.isQuoted = true) :
    readLiteral? v.display = some v.stored ∧
      ∀ rest : List Char, rest.head? ≠ some '\'' →
        takeLiteral? (v.display.toList ++ rest) = some (v.stored, rest) := by
  have taken (rest : List Char) (behind : rest.head? ≠ some '\'') :
      takeLiteral? (v.display.toList ++ rest) = some (v.stored, rest) := by
    rw [toList_display, takeLiteral?_print h behind]
  have whole := taken [] nofun
  rw [List.append_nil] at whole
  exact ⟨by rw [readLiteral?, whole], taken⟩

/-- Quotes in front, behind and next to each other. -/
theorem display_reads_as_stored_of_quotes :
    (string "''it's''").isQuoted = true ∧ (string "''it's''").display = "'''''it''s'''''" ∧
      readLiteral? "'''''it''s'''''" = some (.text "''it's''") :=
  ⟨rfl, by decide +kernel, (display_reads_as_stored (string "''it's''") rfl).1⟩

/-- A quote that is not doubled ends the literal, and what comes behind it is left over. -/
example : takeLiteral? "'it's'".toList = some (.text "it", ['s', '\'']) := by decide +kernel

end Value

end Rowset
