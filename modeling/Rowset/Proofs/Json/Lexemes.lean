import Rowset.Proofs.Json.Grammar

/-!
# Reading lexemes

A lexeme is taken off the front of the bytes that follow the grammar, and exactly the lexeme: what
comes behind it stays. Only a numeral has no mark at its end, so what comes behind one must not go on
with it.
-/

namespace Rowset.Json

open Rowset.Text

/-! ## Space -/

theorem skipSpace_cons {b : UInt8} (h : isSpace b = true) (rest : List UInt8) :
    skipSpace (b :: rest) = skipSpace rest := List.dropWhile_cons_of_pos h

theorem skipSpace_cons_of_not {b : UInt8} (h : isSpace b = false) (rest : List UInt8) :
    skipSpace (b :: rest) = b :: rest := List.dropWhile_cons_of_neg (by simp [h])

theorem skipSpace_append {ws : List UInt8} (h : Spaces ws) (rest : List UInt8) :
    skipSpace (ws ++ rest) = skipSpace rest := by
  induction ws with
  | nil => rfl
  | cons b ws ih =>
    rw [List.cons_append, skipSpace_cons (h b List.mem_cons_self)]
    exact ih fun c hc => h c (List.mem_cons_of_mem _ hc)

theorem skipSpace_append_cons {ws : List UInt8} (h : Spaces ws) {b : UInt8}
    (hb : isSpace b = false) (rest : List UInt8) : skipSpace (ws ++ b :: rest) = b :: rest := by
  rw [skipSpace_append h, skipSpace_cons_of_not hb]

@[simp] theorem skipSpace_skipSpace (bs : List UInt8) : skipSpace (skipSpace bs) = skipSpace bs := by
  induction bs with
  | nil => rfl
  | cons b bs ih =>
    cases hb : isSpace b with
    | true => rwa [skipSpace_cons hb]
    | false => rw [skipSpace_cons_of_not hb, skipSpace_cons_of_not hb]

/-! ## Digits -/

theorem ascii_toNat {c : Char} (h : c.toNat < 128) : (ascii c).toNat = c.toNat := by
  have small : c.val.toNat < 128 := h
  show c.val.toNat % 256 = c.val.toNat
  omega

theorem asciiChar_ascii {c : Char} (h : c.toNat < 128) : asciiChar (ascii c) = c := by
  rw [asciiChar, ascii_toNat h, Char.ofNat_toNat]

theorem toNat_of_isDigit {d : Char} (h : d.isDigit = true) : 48 ≤ d.toNat ∧ d.toNat ≤ 57 := by
  simp only [Char.isDigit, Bool.and_eq_true, decide_eq_true_eq] at h
  exact h

theorem isDigit_ascii {d : Char} (h : d.isDigit = true) : isDigit (ascii d) = true := by
  obtain ⟨low, high⟩ := toNat_of_isDigit h
  have value := ascii_toNat (c := d) (by omega)
  simp only [isDigit, Bool.and_eq_true, decide_eq_true_eq, UInt8.le_iff_toNat_le, value]
  exact ⟨low, high⟩

theorem ascii_ne_of_isDigit {d : Char} (h : d.isDigit = true) {b : UInt8}
    (hb : isDigit b = false) : ascii d ≠ b := by
  intro same
  rw [← same, isDigit_ascii h] at hb
  cases hb

theorem map_asciiChar_map_ascii {ds : List Char} (h : ∀ d ∈ ds, d.isDigit = true) :
    (ds.map ascii).map asciiChar = ds := by
  have each : ∀ d ∈ ds, (asciiChar ∘ ascii) d = id d := by
    intro d hd
    obtain ⟨_, high⟩ := toNat_of_isDigit (h d hd)
    exact asciiChar_ascii (by omega)
  rw [List.map_map, List.map_congr_left each, List.map_id]

/-- What comes behind a row of digits. -/
def NoDigit (rest : List UInt8) : Prop := ∀ b ∈ rest.head?, isDigit b = false

theorem takeWhile_isDigit {rest : List UInt8} (h : NoDigit rest) : rest.takeWhile isDigit = [] := by
  cases rest with
  | nil => rfl
  | cons b rest => exact List.takeWhile_cons_of_neg (by simp [h b rfl])

theorem dropWhile_isDigit {rest : List UInt8} (h : NoDigit rest) :
    rest.dropWhile isDigit = rest := by
  cases rest with
  | nil => rfl
  | cons b rest => exact List.dropWhile_cons_of_neg (by simp [h b rfl])

theorem takeDigits_append {ds : List Char} (h : ∀ d ∈ ds, d.isDigit = true) {rest : List UInt8}
    (hr : NoDigit rest) : takeDigits (ds.map ascii ++ rest) = (ds, rest) := by
  have digits : ∀ b ∈ ds.map ascii, isDigit b = true := by
    intro b hb
    obtain ⟨d, hd, rfl⟩ := List.mem_map.1 hb
    exact isDigit_ascii (h d hd)
  rw [takeDigits, List.takeWhile_append_of_pos digits, List.dropWhile_append_of_pos digits,
    takeWhile_isDigit hr, dropWhile_isDigit hr, List.append_nil, map_asciiChar_map_ascii h]

theorem someDigits?_append {ds : List Char} (h : DigitRow ds) {rest : List UInt8}
    (hr : NoDigit rest) : someDigits? (ds.map ascii ++ rest) = some (ds, rest) := by
  rw [someDigits?, takeDigits_append h.digits hr]
  split
  next nothing => exact absurd (congrArg Prod.fst nothing) h.ne_nil
  next => rfl

theorem wholeDigits?_append {ds : List Char} (h : WholeRow ds) {rest : List UInt8}
    (hr : NoDigit rest) : wholeDigits? (ds.map ascii ++ rest) = some (ds, rest) := by
  rw [wholeDigits?, someDigits?_append h.toDigitRow hr]
  split
  next d tail _ zero =>
    have same : ds = '0' :: d :: tail := congrArg Prod.fst (Option.some.inj zero)
    exact absurd same (h.plain d tail)
  next => rfl

/-! ## Numerals -/

/-- What comes behind a numeral. -/
structure Ends (rest : List UInt8) : Prop where
  noDigit : NoDigit rest
  noPoint : ∀ b ∈ rest.head?, b ≠ ascii '.'
  noMark : ∀ b ∈ rest.head?, b ≠ ascii 'e' ∧ b ≠ ascii 'E'

theorem Ends.nil : Ends [] := ⟨nofun, nofun, nofun⟩

theorem exponentDigits?_append {exponent : Option (Bool × List Char)} {es : List UInt8}
    (h : ExponentText exponent es) {rest : List UInt8} (hr : Ends rest) :
    exponentDigits? (es ++ rest) = some (exponent, rest) := by
  cases h with
  | absent =>
    cases rest with
    | nil => rfl
    | cons b rest =>
      obtain ⟨small, capital⟩ := hr.noMark b rfl
      simp [exponentDigits?, small, capital]
  | @unsigned e ds he hd =>
    cases ds with
    | nil => exact absurd rfl hd.ne_nil
    | cons d ds =>
      have digit := hd.digits d List.mem_cons_self
      have noMinus : ascii d ≠ ascii '-' := ascii_ne_of_isDigit digit (by decide)
      have noPlus : ascii d ≠ ascii '+' := ascii_ne_of_isDigit digit (by decide)
      have row := someDigits?_append hd hr.noDigit
      simp only [List.map_cons, List.cons_append] at row
      simp [exponentDigits?, he, noMinus, noPlus, row]
  | plus he hd =>
    have other : ascii '+' ≠ ascii '-' := by decide
    simp [exponentDigits?, he, other, someDigits?_append hd hr.noDigit]
  | minus he hd => simp [exponentDigits?, he, someDigits?_append hd hr.noDigit]

theorem fractionDigits?_append {fraction : Option (List Char)} {fs : List UInt8}
    (h : FractionText fraction fs) {rest : List UInt8} (hr : NoDigit rest)
    (point : ∀ b ∈ rest.head?, b ≠ ascii '.') :
    fractionDigits? (fs ++ rest) = some (fraction, rest) := by
  cases h with
  | absent =>
    cases rest with
    | nil => rfl
    | cons b rest => simp [fractionDigits?, point b rfl]
  | digits hd => simp [fractionDigits?, someDigits?_append hd hr]

/-- An exponent does not go on with the digits before it. -/
theorem ExponentText.noDigit {exponent : Option (Bool × List Char)} {es : List UInt8}
    (h : ExponentText exponent es) {rest : List UInt8} (hr : Ends rest) :
    NoDigit (es ++ rest) ∧ ∀ b ∈ (es ++ rest).head?, b ≠ ascii '.' := by
  have mark : ∀ {e : UInt8}, e = ascii 'e' ∨ e = ascii 'E' → isDigit e = false ∧ e ≠ ascii '.' := by
    rintro e (rfl | rfl) <;> decide
  cases h with
  | absent => exact ⟨hr.noDigit, hr.noPoint⟩
  | unsigned he hd | plus he hd | minus he hd =>
    obtain ⟨digit, point⟩ := mark he
    constructor
    · intro _ hb
      cases hb
      exact digit
    · intro _ hb
      cases hb
      exact point

theorem FractionText.noDigit {fraction : Option (List Char)} {fs : List UInt8}
    (h : FractionText fraction fs) {rest : List UInt8} (hr : NoDigit rest) :
    NoDigit (fs ++ rest) := by
  cases h with
  | absent => exact hr
  | digits hd =>
    intro b hb
    cases hb
    decide

theorem numeral?_append {n : Numeral} {bs : List UInt8} (h : NumeralText n bs) {rest : List UInt8}
    (hr : Ends rest) : numeral? (bs ++ rest) = some (n, rest) := by
  obtain ⟨negative, whole, fraction, exponent⟩ := n
  cases h with
  | @positive fs es sign hw hf he =>
    obtain rfl : negative = false := sign
    obtain ⟨noDigit, noPoint⟩ := he.noDigit hr
    have row := wholeDigits?_append hw (hf.noDigit noDigit)
    cases whole with
    | nil => exact absurd rfl hw.ne_nil
    | cons d ds =>
      have noMinus := ascii_ne_of_isDigit (hw.digits d List.mem_cons_self)
        (by decide : isDigit (ascii '-') = false)
      rw [List.map_cons, List.cons_append] at row
      simp [numeral?, noMinus, row, fractionDigits?_append hf noDigit noPoint,
        exponentDigits?_append he hr]
  | @negative fs es sign hw hf he =>
    obtain rfl : negative = true := sign
    obtain ⟨noDigit, noPoint⟩ := he.noDigit hr
    simp [numeral?, wholeDigits?_append hw (hf.noDigit noDigit),
      fractionDigits?_append hf noDigit noPoint, exponentDigits?_append he hr]

/-! ## Strings -/

theorem ne_u_of_shortEscape? {e : UInt8} {unit : Nat} (h : shortEscape? e = some unit) :
    e ≠ ascii 'u' := by
  rintro rfl
  have none : shortEscape? (ascii 'u') = none := by decide
  rw [none] at h
  cases h

theorem stringUnits?_append {units : List StringUnit} {bs : List UInt8} (h : UnitsText units bs)
    (rest : List UInt8) : stringUnits? (bs ++ ascii '"' :: rest) = some (units, rest) := by
  have other : ascii '\\' ≠ ascii '"' := by decide
  induction h with
  | nil =>
    unfold stringUnits?
    simp
  | byte quote backslash control _ ih =>
    unfold stringUnits?
    simp [quote, backslash, control, ih]
  | short he _ ih =>
    unfold stringUnits?
    simp [other, ne_u_of_shortEscape? he, he, ih]
  | hex hu _ ih =>
    unfold stringUnits?
    simp [other, hu, ih]

end Rowset.Json
