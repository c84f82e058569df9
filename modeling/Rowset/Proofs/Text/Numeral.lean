import Mathlib.Data.List.Infix
import Rowset.Text.Numeral

/-!
# What numerals spell

A text spells a number when it is made of digits, with a plus sign before them or without. It
overruns when it begins that way with more digits than a signed 64-bit word holds; whatever stands
behind these digits is never looked at. A positive number is read exactly from the texts that spell
it, if the word holds it, and too large a number is reported exactly where a text overruns. So a
text can be reported as too large a number and be no number at all.
-/

namespace Rowset.Text.Numeral

/-- Digits, at least one, and the number that they make. -/
structure Row (ds : List Char) (n : Nat) : Prop where
  ne_nil : ds ≠ []
  digits : ∀ d ∈ ds, d.isDigit = true
  value : Decimal.toNat ds = n

/-- A text that is digits throughout, behind a plus sign or not. -/
inductive Spells : List Char → Nat → Prop
  | plain {ds : List Char} {n : Nat} (row : Row ds n) : Spells ds n
  | plus {ds : List Char} {n : Nat} (row : Row ds n) : Spells ('+' :: ds) n

/-- Digits in front that make too large a number, whatever comes behind them. -/
def Overlong (cs : List Char) : Prop :=
  ∃ ds, ds <+: cs ∧ (∀ d ∈ ds, d.isDigit = true) ∧ 0x7fffffffffffffff < Decimal.toNat ds

/-- A text that begins with the digits of too large a number, behind a plus sign or not. -/
inductive Overruns : List Char → Prop
  | plain {cs : List Char} (long : Overlong cs) : Overruns cs
  | plus {cs : List Char} (long : Overlong cs) : Overruns ('+' :: cs)

/-- A text that begins like too large a number and goes on as none. -/
def Strays (cs : List Char) : Prop := Overruns cs ∧ ∀ n, ¬ Spells cs n

variable {n : Nat} {c : Char} {cs : List Char}

/-! ## Signs -/

theorem Row.isDigit_of_cons (h : Row (c :: cs) n) : c.isDigit = true :=
  h.digits c List.mem_cons_self

theorem not_overlong_nil : ¬ Overlong [] := by
  rintro ⟨ds, start, _, large⟩
  rw [List.prefix_nil.1 start] at large
  exact absurd large (by decide)

theorem Overlong.isDigit_of_cons (h : Overlong (c :: cs)) : c.isDigit = true := by
  obtain ⟨ds, start, digits, large⟩ := h
  rcases List.prefix_cons_iff.1 start with rfl | ⟨others, rfl, _⟩
  · exact absurd large (by decide)
  · exact digits c List.mem_cons_self

theorem spells_plus_iff : Spells ('+' :: cs) n ↔ Row cs n := by
  constructor
  · intro h
    cases h with
    | plain row => exact absurd row.isDigit_of_cons (by decide)
    | plus row => exact row
  · exact .plus

theorem spells_iff_of_unsigned (h : ∀ ds, cs ≠ '+' :: ds) : Spells cs n ↔ Row cs n := by
  constructor
  · intro spelled
    cases spelled with
    | plain row => exact row
    | plus _ => exact absurd rfl (h _)
  · exact .plain

theorem not_spells_minus : ¬ Spells ('-' :: cs) n := by
  rw [spells_iff_of_unsigned (by simp)]
  intro row
  exact absurd row.isDigit_of_cons (by decide)

theorem overruns_plus_iff : Overruns ('+' :: cs) ↔ Overlong cs := by
  constructor
  · intro h
    cases h with
    | plain long => exact absurd long.isDigit_of_cons (by decide)
    | plus long => exact long
  · exact .plus

theorem overruns_iff_of_unsigned (h : ∀ ds, cs ≠ '+' :: ds) : Overruns cs ↔ Overlong cs := by
  constructor
  · intro overrun
    cases overrun with
    | plain long => exact long
    | plus _ => exact absurd rfl (h _)
  · exact .plain

theorem not_overruns_minus : ¬ Overruns ('-' :: cs) := by
  rw [overruns_iff_of_unsigned (by simp)]
  intro long
  exact absurd long.isDigit_of_cons (by decide)

/-! ## One digit -/

theorem extend_of_not_digit (h : c.isDigit = false) (negative : Bool) (i : Int) :
    extend negative i c = .error .notADigit := by
  rw [extend, h]
  rfl

/-- One more digit, unless the number grows out of the word. -/
theorem extend_of_digit (h : c.isDigit = true) : extend false n c =
    if Nat.ofDigitChars 10 [c] n ≤ 0x7fffffffffffffff then .ok (Nat.ofDigitChars 10 [c] n)
    else .error .tooLarge := by
  have value : (10 * n + (c.toNat - '0'.toNat : Nat) : Int) = Nat.ofDigitChars 10 [c] n := by
    rw [Nat.ofDigitChars_cons, Nat.ofDigitChars_nil]
    push_cast
    rfl
  have fits : (Nat.ofDigitChars 10 [c] n : Int) ≤ 0x7fffffffffffffff ↔
      Nat.ofDigitChars 10 [c] n ≤ 0x7fffffffffffffff := by omega
  simp only [extend, h, if_true, Bool.false_eq_true, if_false, value, fits]

/-- Behind a minus sign a digit leads down, and what fails there is not too large. -/
theorem extend_negative {i : Int} (low : i ≤ 0) (c : Char) :
    (∃ j ≤ 0, extend true i c = .ok j) ∨ ∃ e, e ≠ .tooLarge ∧ extend true i c = .error e := by
  cases digit : c.isDigit with
  | false => exact .inr ⟨.notADigit, nofun, extend_of_not_digit digit true i⟩
  | true =>
    simp only [extend, digit, if_true]
    split
    next => exact .inl ⟨_, by omega, rfl⟩
    next => exact .inr ⟨.tooSmall, nofun, rfl⟩

/-! ## Rows of digits -/

theorem ofDigitChars_cons (c : Char) (cs : List Char) (n : Nat) :
    Nat.ofDigitChars 10 (c :: cs) n = Nat.ofDigitChars 10 cs (Nat.ofDigitChars 10 [c] n) :=
  Nat.ofDigitChars_append (l := [c]) n

theorem le_ofDigitChars (cs : List Char) (n : Nat) : n ≤ Nat.ofDigitChars 10 cs n := by
  rw [Nat.ofDigitChars_eq_ofDigitChars_zero]
  have scale : 1 ≤ 10 ^ cs.length := Nat.one_le_pow _ _ (by decide)
  calc
    n = 1 * n := (Nat.one_mul n).symm
    _ ≤ 10 ^ cs.length * n := Nat.mul_le_mul_right n scale
    _ ≤ _ := Nat.le_add_right _ _

/-- A number that is spelled overruns if it is too large, since its first digits make no more. -/
theorem Spells.overruns_iff (h : Spells cs n) : Overruns cs ↔ 0x7fffffffffffffff < n := by
  have row : ∀ {ds : List Char}, Row ds n → (Overlong ds ↔ 0x7fffffffffffffff < n) := by
    rintro ds ⟨_, digits, rfl⟩
    constructor
    · rintro ⟨first, ⟨others, rfl⟩, _, large⟩
      refine Nat.lt_of_lt_of_le large ?_
      rw [Decimal.toNat, Decimal.toNat, Nat.ofDigitChars_append]
      exact le_ofDigitChars others _
    · intro large
      exact ⟨ds, List.prefix_refl ds, digits, large⟩
  cases h with
  | plain long =>
    rw [overruns_iff_of_unsigned, row long]
    rintro ds rfl
    exact absurd long.isDigit_of_cons (by decide)
  | plus long => rw [overruns_plus_iff, row long]

/-- A row is read to its end when it is digits throughout, of a number that fits. -/
theorem digits_eq_ok_iff (small : n ≤ 0x7fffffffffffffff) {i : Int} :
    digits false n cs = .ok i ↔ (∀ c ∈ cs, c.isDigit = true) ∧
      (Nat.ofDigitChars 10 cs n : Int) = i ∧ Nat.ofDigitChars 10 cs n ≤ 0x7fffffffffffffff := by
  induction cs generalizing n with
  | nil => simp [digits, small]
  | cons c cs ih =>
    rw [digits, ofDigitChars_cons, List.forall_mem_cons]
    cases digit : c.isDigit with
    | false => simp [extend_of_not_digit digit]
    | true =>
      rw [extend_of_digit digit]
      by_cases fits : Nat.ofDigitChars 10 [c] n ≤ 0x7fffffffffffffff
      · rw [if_pos fits]
        simpa only [true_and] using ih fits
      · rw [if_neg fits]
        have above := le_ofDigitChars cs (Nat.ofDigitChars 10 [c] n)
        exact iff_of_false nofun fun all => fits (Nat.le_trans above all.2.2)

/-- No digits leave the number as it is, so where the first digits are too large, the first character
is among them. -/
theorem exists_prefix_cons_iff {c : Char} (small : n ≤ 0x7fffffffffffffff) :
    (∃ ds, ds <+: c :: cs ∧ (∀ d ∈ ds, d.isDigit = true) ∧
        0x7fffffffffffffff < Nat.ofDigitChars 10 ds n) ↔
      c.isDigit = true ∧ ∃ ds, ds <+: cs ∧ (∀ d ∈ ds, d.isDigit = true) ∧
        0x7fffffffffffffff < Nat.ofDigitChars 10 ds (Nat.ofDigitChars 10 [c] n) := by
  constructor
  · rintro ⟨ds, start, all, large⟩
    rcases List.prefix_cons_iff.1 start with rfl | ⟨others, rfl, within⟩
    · exact absurd large (Nat.not_lt.2 small)
    · obtain ⟨digit, all⟩ := List.forall_mem_cons.1 all
      exact ⟨digit, others, within, all, by rwa [← ofDigitChars_cons]⟩
  · rintro ⟨digit, ds, start, all, large⟩
    exact ⟨c :: ds, List.cons_prefix_cons.2 ⟨rfl, start⟩, List.forall_mem_cons.2 ⟨digit, all⟩,
      by rwa [ofDigitChars_cons]⟩

/-- A row is too large when its first digits are, whatever it goes on with. -/
theorem digits_eq_tooLarge_iff (small : n ≤ 0x7fffffffffffffff) :
    digits false n cs = .error .tooLarge ↔ ∃ ds, ds <+: cs ∧ (∀ d ∈ ds, d.isDigit = true) ∧
      0x7fffffffffffffff < Nat.ofDigitChars 10 ds n := by
  induction cs generalizing n with
  | nil => simpa [digits] using small
  | cons c cs ih =>
    rw [digits, exists_prefix_cons_iff small]
    cases digit : c.isDigit with
    | false => simp [extend_of_not_digit digit]
    | true =>
      rw [extend_of_digit digit]
      by_cases fits : Nat.ofDigitChars 10 [c] n ≤ 0x7fffffffffffffff
      · rw [if_pos fits]
        simpa only [true_and] using ih fits
      · rw [if_neg fits]
        exact iff_of_true rfl ⟨rfl, [], List.nil_prefix, nofun, Nat.lt_of_not_le fits⟩

theorem digits_negative {i : Int} (low : i ≤ 0) (cs : List Char) :
    (∃ j ≤ 0, digits true i cs = .ok j) ∨ ∃ e, e ≠ .tooLarge ∧ digits true i cs = .error e := by
  induction cs generalizing i with
  | nil => exact .inl ⟨i, low, rfl⟩
  | cons c cs ih =>
    rw [digits]
    obtain ⟨j, lower, read⟩ | ⟨e, other, failed⟩ := extend_negative low c
    · rw [read]
      exact ih lower
    · rw [failed]
      exact .inr ⟨e, other, rfl⟩

/-! ## Whole texts -/

theorem digits_zero_eq_ok_iff (someDigits : cs ≠ []) :
    digits false 0 cs = .ok n ↔ Row cs n ∧ n ≤ 0x7fffffffffffffff := by
  refine (digits_eq_ok_iff (n := 0) (by decide)).trans ?_
  rw [Int.natCast_inj]
  constructor
  · rintro ⟨all, rfl, fits⟩
    exact ⟨⟨someDigits, all, rfl⟩, fits⟩
  · rintro ⟨⟨_, all, rfl⟩, fits⟩
    exact ⟨all, rfl, fits⟩

theorem digits_zero_eq_tooLarge_iff : digits false 0 cs = .error .tooLarge ↔ Overlong cs :=
  digits_eq_tooLarge_iff (n := 0) (by decide)

/-- A positive number is read from the texts that spell it, if it fits. -/
theorem read_eq_ok_iff (positive : 0 < n) :
    read cs = .ok n ↔ Spells cs n ∧ n ≤ 0x7fffffffffffffff := by
  fun_cases read cs with
  | case1 =>
    rw [spells_iff_of_unsigned (by simp)]
    exact iff_of_false nofun fun h => h.1.ne_nil rfl
  | case2 =>
    rw [spells_plus_iff]
    exact iff_of_false nofun fun h => h.1.ne_nil rfl
  | case3 => exact iff_of_false nofun fun h => not_spells_minus h.1
  | case4 ds someDigits => rw [digits_zero_eq_ok_iff someDigits, spells_plus_iff]
  | case5 ds =>
    refine iff_of_false (fun h => ?_) fun h => not_spells_minus h.1
    obtain ⟨j, low, read⟩ | ⟨e, _, failed⟩ := digits_negative (Int.le_refl 0) ds
    · obtain rfl : j = n := Except.ok.inj (read.symm.trans h)
      omega
    · rw [failed] at h
      cases h
  | case6 cs someDigits _ _ plus _ =>
    rw [digits_zero_eq_ok_iff someDigits, spells_iff_of_unsigned plus]

/-- Too large a number is reported where the text overruns. -/
theorem read_eq_tooLarge_iff : read cs = .error .tooLarge ↔ Overruns cs := by
  fun_cases read cs with
  | case1 =>
    rw [overruns_iff_of_unsigned (by simp)]
    exact iff_of_false nofun not_overlong_nil
  | case2 =>
    rw [overruns_plus_iff]
    exact iff_of_false nofun not_overlong_nil
  | case3 => exact iff_of_false nofun not_overruns_minus
  | case4 ds => rw [digits_zero_eq_tooLarge_iff, overruns_plus_iff]
  | case5 ds =>
    refine iff_of_false (fun h => ?_) not_overruns_minus
    obtain ⟨j, _, read⟩ | ⟨e, other, failed⟩ := digits_negative (Int.le_refl 0) ds
    · rw [read] at h
      cases h
    · exact other (Except.error.inj (failed.symm.trans h))
  | case6 cs _ _ _ plus => rw [digits_zero_eq_tooLarge_iff, overruns_iff_of_unsigned plus]

end Rowset.Text.Numeral
