import Rowset.Json.Printer
import Rowset.Proofs.Json.Reading

/-!
# The texts of printed numbers and strings

What is printed belongs to the grammar: an integer by its digits, and a string by its own bytes but
for the characters that have to be escaped. Each means on reading what it meant on printing.
-/

namespace Rowset.Json

open Rowset.Text

/-! ## Integers -/

/-- The numeral of an integer. -/
def Numeral.ofInt : Int → Numeral
  | .ofNat n => ⟨false, Decimal.ofNat n, none, none⟩
  | .negSucc n => ⟨true, Decimal.ofNat (n + 1), none, none⟩

theorem utf8_of_lt {cs : List Char} (h : ∀ c ∈ cs, c.toNat < 128) :
    Utf8.encode cs = cs.map ascii := by
  induction cs with
  | nil => rfl
  | cons c cs ih =>
    rw [Utf8.encode_cons, Utf8.utf8EncodeChar_of_lt (h c List.mem_cons_self),
      ih fun d hd => h d (List.mem_cons_of_mem _ hd)]
    rfl

theorem wholeRow_ofNat (n : Nat) : WholeRow (Decimal.ofNat n) where
  ne_nil := Decimal.ofNat_ne_nil n
  digits _ := Decimal.isDigit_of_mem_ofNat
  plain d rest h := by
    obtain rfl : n = 0 := Decimal.eq_zero_of_head?_ofNat (by rw [h]; rfl)
    cases h

theorem utf8_ofNat (n : Nat) : Utf8.encode (Decimal.ofNat n) = (Decimal.ofNat n).map ascii := by
  refine utf8_of_lt fun d hd => ?_
  obtain ⟨_, high⟩ := toNat_of_isDigit (Decimal.isDigit_of_mem_ofNat hd)
  omega

theorem numeralText_ofInt (n : Int) :
    NumeralText (.ofInt n) (Utf8.encode (Decimal.ofInt n)) := by
  cases n with
  | ofNat n =>
    have text := NumeralText.positive (n := .ofInt n) rfl (wholeRow_ofNat n) .absent .absent
    rw [List.append_nil, List.append_nil] at text
    rwa [Decimal.ofInt, utf8_ofNat]
  | negSucc n =>
    have text := NumeralText.negative (n := .ofInt (.negSucc n)) rfl (wholeRow_ofNat (n + 1)) .absent
      .absent
    rw [List.append_nil, List.append_nil] at text
    rwa [Decimal.ofInt, Utf8.encode_cons, utf8_ofNat]

theorem integer?_ofInt {n : Int} (h : -0x8000000000000000 ≤ n ∧ n ≤ 0xffffffffffffffff) :
    (Numeral.ofInt n).integer? = some n := by
  obtain ⟨low, high⟩ := h
  cases n with
  | ofNat n =>
    have small : n ≤ 0xffffffffffffffff := by
      rw [Int.ofNat_eq_natCast] at high
      omega
    simp [Numeral.ofInt, Numeral.integer?, small]
  | negSucc n =>
    have small : ¬ (n + 1 = 0 ∨ 0x8000000000000000 < n + 1) := by omega
    simp only [Numeral.ofInt, Numeral.integer?, Decimal.toNat_ofNat, if_true, if_neg small]
    rfl

theorem integer?_number {low high n : Int} (h : -0x8000000000000000 ≤ n ∧ n ≤ 0xffffffffffffffff) :
    (Written.number (.ofInt n)).integer? low high =
      if low ≤ n ∧ n ≤ high then some n else none := by
  simp [Written.integer?, integer?_ofInt h]

/-! ## Strings -/

/-- The units of a printed character: an escape for its code, or its own bytes. -/
def charUnits (c : Char) : List StringUnit :=
  if c = '"' ∨ c = '\\' ∨ c.toNat < 32 then [.escape c.toNat]
  else (String.utf8EncodeChar c).map .byte

/-- The units of a printed text. -/
def textUnits (s : String) : List StringUnit := s.toList.flatMap charUnits

theorem UnitsText.append {us vs : List StringUnit} {bs cs : List UInt8} (h : UnitsText us bs)
    (k : UnitsText vs cs) : UnitsText (us ++ vs) (bs ++ cs) := by
  induction h with
  | nil => exact k
  | byte quote backslash control _ ih => exact .byte quote backslash control ih
  | short he _ ih => exact .short he ih
  | hex hu _ ih => exact .hex hu ih

theorem unitsText_map_byte {bs : List UInt8}
    (h : ∀ b ∈ bs, b ≠ ascii '"' ∧ b ≠ ascii '\\' ∧ ¬ b < 0x20) : UnitsText (bs.map .byte) bs := by
  induction bs with
  | nil => exact .nil
  | cons b bs ih =>
    obtain ⟨quote, backslash, control⟩ := h b List.mem_cons_self
    exact .byte quote backslash control (ih fun c hc => h c (List.mem_cons_of_mem _ hc))

/-- The bytes of a character above the ASCII range are above it, too. -/
theorem le_of_mem_utf8EncodeChar {c : Char} (h : 128 ≤ c.toNat) {b : UInt8}
    (hb : b ∈ String.utf8EncodeChar c) : 128 ≤ b.toNat := by
  have large : 128 ≤ c.val.toNat := h
  revert hb
  fun_cases String.utf8EncodeChar c with
  | case1 => omega
  | case2 v =>
    simp only [List.mem_cons, List.not_mem_nil, or_false]
    rintro (rfl | rfl)
    all_goals rw [UInt8.toNat_ofNat']; omega
  | case3 v =>
    simp only [List.mem_cons, List.not_mem_nil, or_false]
    rintro (rfl | rfl | rfl)
    all_goals rw [UInt8.toNat_ofNat']; omega
  | case4 v =>
    simp only [List.mem_cons, List.not_mem_nil, or_false]
    rintro (rfl | rfl | rfl | rfl)
    all_goals rw [UInt8.toNat_ofNat']; omega

theorem toNat_eq_of_mem_utf8EncodeChar {c : Char} (h : c.toNat < 128) {b : UInt8}
    (hb : b ∈ String.utf8EncodeChar c) : b.toNat = c.toNat := by
  rw [Utf8.utf8EncodeChar_of_lt h, List.mem_singleton] at hb
  rw [hb, UInt8.toNat_ofNat']
  omega

/-- A character that needs no escape is written by its own bytes. -/
theorem unitsText_of_plain {c : Char} (h : ¬ (c = '"' ∨ c = '\\' ∨ c.toNat < 32)) :
    UnitsText ((String.utf8EncodeChar c).map .byte) (String.utf8EncodeChar c) := by
  simp only [not_or] at h
  obtain ⟨quote, backslash, control⟩ := h
  refine unitsText_map_byte fun b hb => ?_
  by_cases small : c.toNat < 128
  · have value := toNat_eq_of_mem_utf8EncodeChar small hb
    have other : ∀ {d : Char}, d.toNat < 128 → c ≠ d → b ≠ ascii d := by
      rintro d hd ne rfl
      rw [ascii_toNat hd] at value
      exact ne (Char.toNat_inj.1 value.symm)
    refine ⟨other (by decide) quote, other (by decide) backslash, ?_⟩
    rw [UInt8.lt_iff_toNat_lt, value]
    exact control
  · have large := le_of_mem_utf8EncodeChar (Nat.le_of_not_lt small) hb
    have other : ∀ {d : UInt8}, d.toNat < 128 → b ≠ d := by
      rintro d hd rfl
      omega
    refine ⟨other (by decide), other (by decide), ?_⟩
    rw [UInt8.lt_iff_toNat_lt]
    show ¬ b.toNat < 32
    omega

theorem hexUnit?_digit : ∀ n < 32,
    hexUnit? (ascii '0') (ascii '0') (ascii (Hex.digit (n / 16))) (ascii (Hex.digit (n % 16))) =
      some n := by decide

/-- A control character is escaped by its code. -/
theorem unitsText_hex {n : Nat} (h : n < 32) :
    UnitsText [.escape n]
      (Utf8.encode ['\\', 'u', '0', '0', Hex.digit (n / 16), Hex.digit (n % 16)]) := by
  have plain : ∀ m < 16, (Hex.digit m).toNat < 128 := by decide
  rw [utf8_of_lt (by simp [plain (n / 16) (by omega), plain (n % 16) (by omega)])]
  exact .hex (hexUnit?_digit n h) .nil

theorem unitsText_escape (c : Char) : UnitsText (charUnits c) (Utf8.encode (escape c)) := by
  unfold charUnits
  fun_cases escape c with
  | case1 quote =>
    subst quote
    exact .short (by decide) .nil
  | case2 _ backslash =>
    subst backslash
    exact .short (by decide) .nil
  | case3 _ _ h | case4 _ _ _ h | case5 _ _ _ _ h | case6 _ _ _ _ _ h | case7 _ _ _ _ _ _ h =>
    subst h
    exact .short (by decide) .nil
  | case8 _ _ _ _ _ _ _ control =>
    rw [if_pos (.inr (.inr control))]
    exact unitsText_hex control
  | case9 quote backslash _ _ _ _ _ control =>
    have plain : ¬ (c = '"' ∨ c = '\\' ∨ c.toNat < 32) := by
      rintro (h | h | h)
      · exact quote h
      · exact backslash h
      · exact control h
    rw [if_neg plain, Utf8.encode_cons, Utf8.encode_nil, List.append_nil]
    exact unitsText_of_plain plain

theorem unitsText_textUnits (s : String) :
    UnitsText (textUnits s) (Utf8.encode (s.toList.flatMap escape)) := by
  unfold textUnits
  induction s.toList with
  | nil => exact .nil
  | cons c cs ih =>
    rw [List.flatMap_cons, List.flatMap_cons, Utf8.encode_append]
    exact (unitsText_escape c).append ih

/-! ## Meaning -/

theorem unitBytes?_map_byte_append (bs : List UInt8) (units : List StringUnit) :
    unitBytes? (bs.map .byte ++ units) = (bs ++ ·) <$> unitBytes? units := by
  induction bs with
  | nil => simp
  | cons b bs ih =>
    rw [List.map_cons, List.cons_append, unitBytes?, ih, ← comp_map]
    rfl

/-- An escape for an ASCII character stands for its byte, whatever comes behind. -/
theorem unitBytes?_escape_cons {n : Nat} (h : n < 128) (units : List StringUnit) :
    unitBytes? (.escape n :: units) =
      (String.utf8EncodeChar (Char.ofNat n) ++ ·) <$> unitBytes? units := by
  have noLead : isLeadUnit n = false := by
    simp only [isLeadUnit, Bool.and_eq_false_iff, decide_eq_false_iff_not]
    omega
  have noTrail : isTrailUnit n = false := by
    simp only [isTrailUnit, Bool.and_eq_false_iff, decide_eq_false_iff_not]
    omega
  rcases units with _ | ⟨b | trail, units⟩
  · simp only [unitBytes?, noLead, noTrail, Bool.or_self, Bool.false_eq_true, if_false]
    rfl
  · simp only [unitBytes?, noLead, noTrail, Bool.or_self, Bool.false_eq_true, if_false]
    cases unitBytes? units <;> rfl
  · simp only [unitBytes?, noLead, noTrail, Bool.false_eq_true, if_false]
    cases unitBytes? (.escape trail :: units) <;> rfl

theorem unitBytes?_charUnits_append (c : Char) (units : List StringUnit) :
    unitBytes? (charUnits c ++ units) = (String.utf8EncodeChar c ++ ·) <$> unitBytes? units := by
  unfold charUnits
  split
  next special =>
    have small : c.toNat < 128 := by
      rcases special with rfl | rfl | control
      · decide
      · decide
      · omega
    rw [List.singleton_append, unitBytes?_escape_cons small, Char.ofNat_toNat]
  next => exact unitBytes?_map_byte_append _ units

@[simp] theorem unitText?_textUnits (s : String) : unitText? (textUnits s) = some s := by
  have bytes : unitBytes? (textUnits s) = some (Utf8.encode s.toList) := by
    unfold textUnits
    induction s.toList with
    | nil => rfl
    | cons c cs ih => rw [List.flatMap_cons, unitBytes?_charUnits_append, ih]; rfl
  rw [unitText?, bytes]
  exact Utf8.decode?_encode s

theorem text?_textUnits (s : String) : (Written.string (textUnits s)).text? = some s :=
  unitText?_textUnits s

end Rowset.Json
