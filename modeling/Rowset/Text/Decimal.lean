/-!
# Decimal digits

Numbers are written with the fewest ASCII digits, and read back digit by digit. Reading what was
written gives the number again, so two numbers never share a text.
-/

namespace Rowset.Text.Decimal

/-- The digits of a natural number, without leading zeros; zero is a single `0`. -/
def ofNat (n : Nat) : List Char := Nat.toDigits 10 n

/-- A negative number carries a minus sign in front of its digits. -/
def ofInt : Int → List Char
  | .ofNat n => ofNat n
  | .negSucc n => '-' :: ofNat (n + 1)

/-- The number that a row of digits spells. -/
def toNat (digits : List Char) : Nat := Nat.ofDigitChars 10 digits 0

/-- The digits of `n` with zeros in front, at least `width` of them. -/
def padded (width n : Nat) : List Char := (ofNat n).leftpad width '0'

@[simp] theorem toNat_ofNat (n : Nat) : toNat (ofNat n) = n := Nat.ofDigitChars_ten_toDigits

theorem ofNat_injective {m n : Nat} (h : ofNat m = ofNat n) : m = n := by
  simpa using congrArg toNat h

theorem isDigit_of_mem_ofNat {n : Nat} {c : Char} (h : c ∈ ofNat n) : c.isDigit = true :=
  Nat.isDigit_of_mem_toDigits (by decide) (by decide) h

@[simp] theorem ofNat_ne_nil (n : Nat) : ofNat n ≠ [] := Nat.toDigits_ne_nil

/-- No digits of a number but zero start with a zero. -/
theorem eq_zero_of_head?_ofNat {n : Nat} (h : (ofNat n).head? = some '0') : n = 0 := by
  induction n using Nat.strongRecOn with
  | ind n ih =>
    rw [ofNat, Nat.toDigits_eq_if (by decide)] at h
    split at h
    next small =>
      have digits : ∀ d < 10, Nat.digitChar d = '0' → d = 0 := by decide
      exact digits n small (by simpa using h)
    next large =>
      obtain ⟨d, rest, digits⟩ := List.exists_cons_of_ne_nil (Nat.toDigits_ne_nil (n := n / 10))
      rw [digits] at h
      have quotient := ih (n / 10) (by omega) (by rw [ofNat, digits]; exact h)
      omega

theorem toNat_padded (width n : Nat) : toNat (padded width n) = n := by
  simp [padded, toNat, List.leftpad, Nat.ofDigitChars_append]
  exact toNat_ofNat n

/-- The text of a natural number. -/
def natText (n : Nat) : String := String.ofList (ofNat n)

/-- The text of an integer. -/
def intText (n : Int) : String := String.ofList (ofInt n)

@[simp] theorem toList_natText (n : Nat) : (natText n).toList = ofNat n := by simp [natText]

@[simp] theorem toList_intText (n : Int) : (intText n).toList = ofInt n := by simp [intText]

end Rowset.Text.Decimal
