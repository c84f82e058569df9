import Rowset.Time.Timestamp

/-!
# Numbers of a fixed width

Dates and times are written in numbers with zeros in front. A number that fits its width fills it
exactly, so it is read off the front of a text whatever stands behind it. A number that may be wider
ends where the digits do.
-/

namespace Rowset

open Rowset.Text

/-! ## Digits -/

theorem isBlank_of_isDigit {c : Char} (h : c.isDigit = true) : isBlank c = false := by
  have digit : 48 ≤ c.toNat ∧ c.toNat ≤ 57 := by
    simpa [Char.isDigit, UInt32.le_iff_toNat_le] using h
  simp only [isBlank, blankRanges, List.any_cons, List.any_nil, Bool.or_false, Bool.or_eq_false_iff,
    Bool.and_eq_false_iff, decide_eq_false_iff_not]
  omega

theorem ne_of_isDigit {c d : Char} (h : c.isDigit = true) (hd : d.isDigit = false) : c ≠ d := by
  rintro rfl
  rw [h] at hd
  cases hd

/-- What comes behind a row of digits. -/
def EndOfDigits (rest : List Char) : Prop := ∀ c ∈ rest.head?, c.isDigit = false

theorem EndOfDigits.cons {c : Char} (h : c.isDigit = false) (rest : List Char) :
    EndOfDigits (c :: rest) := by
  intro _ head
  cases head
  exact h

theorem EndOfDigits.take {rest : List Char} (h : EndOfDigits rest) (k : Nat) :
    EndOfDigits (rest.take k) := by
  intro c head
  rw [List.head?_take] at head
  split at head
  · cases head
  · exact h c head

theorem EndOfDigits.takeWhile_eq_nil {rest : List Char} (h : EndOfDigits rest) :
    rest.takeWhile Char.isDigit = [] := by
  cases rest with
  | nil => rfl
  | cons c rest => exact List.takeWhile_cons_of_neg (by simp [h c rfl])

theorem EndOfDigits.dropWhile_eq {rest : List Char} (h : EndOfDigits rest) :
    rest.dropWhile Char.isDigit = rest := by
  cases rest with
  | nil => rfl
  | cons c rest => exact List.dropWhile_cons_of_neg (by simp [h c rfl])

namespace Text.Decimal

theorem isDigit_of_mem_padded {width n : Nat} {c : Char} (h : c ∈ padded width n) :
    c.isDigit = true := by
  rcases List.mem_append.1 h with zero | digit
  · rw [List.eq_of_mem_replicate zero]
    rfl
  · exact isDigit_of_mem_ofNat digit

theorem padded_ne_nil (width n : Nat) : padded width n ≠ [] := by
  intro none
  exact ofNat_ne_nil n (List.append_eq_nil_iff.1 none).2

theorem length_padded {width n : Nat} (pos : 0 < width) (h : n < Nat.pow 10 width) :
    (padded width n).length = width := by
  have fits : (ofNat n).length ≤ width := (Nat.length_toDigits_le_iff (by decide) pos).2 h
  rw [padded, List.length_leftpad, Nat.max_eq_left fits]

/-- Zeros behind a number multiply it. -/
theorem toNat_append_zeros (digits : List Char) (k : Nat) :
    toNat (digits ++ List.replicate k '0') = Nat.pow 10 k * toNat digits := by
  rw [toNat, Nat.ofDigitChars_append, Nat.ofDigitChars_replicate_zero]
  rfl

end Text.Decimal

/-! ## Reading -/

variable {limit width n : Nat} {ds : List Char}

/-- A row of digits is taken off the front: one that fills the limit, or one that ends before. -/
theorem digitsUpTo?_append (rest : List Char) (someDigits : ds ≠ [])
    (digits : ∀ d ∈ ds, d.isDigit = true)
    (h : ds.length = limit ∨ ds.length ≤ limit ∧ EndOfDigits rest) :
    digitsUpTo? limit (ds ++ rest) = some (ds, rest) := by
  have le : ds.length ≤ limit := h.elim Nat.le_of_eq And.left
  have row : ((ds ++ rest).take limit).takeWhile Char.isDigit = ds := by
    have stop : (rest.take (limit - ds.length)).takeWhile Char.isDigit = [] := by
      rcases h with full | ⟨-, behind⟩
      · rw [full, Nat.sub_self]
        rfl
      · exact (behind.take _).takeWhile_eq_nil
    rw [List.take_append, List.take_of_length_le le, List.takeWhile_append_of_pos digits, stop,
      List.append_nil]
  unfold digitsUpTo?
  split
  next none => exact absurd (row.symm.trans none) someDigits
  next =>
    rw [row, List.drop_left]

/-- A number of just this width is read, whatever comes behind. -/
theorem numberUpTo?_padded (pos : 0 < width) (h : n < Nat.pow 10 width) (rest : List Char) :
    numberUpTo? width (Decimal.padded width n ++ rest) = some (n, rest) := by
  have digits : ∀ d ∈ Decimal.padded width n, d.isDigit = true := fun _ =>
    Decimal.isDigit_of_mem_padded
  obtain ⟨d, tail, shape⟩ := List.exists_cons_of_ne_nil (Decimal.padded_ne_nil width n)
  have start : dropBlank (Decimal.padded width n ++ rest) = Decimal.padded width n ++ rest := by
    rw [shape]
    exact dropBlank_cons_of_not (isBlank_of_isDigit (digits d (shape ▸ List.mem_cons_self)))
  have row := digitsUpTo?_append rest (Decimal.padded_ne_nil width n) digits
    (.inl (Decimal.length_padded pos h))
  simp only [numberUpTo?, start, row, Option.map_some, Decimal.toNat_padded]

theorem mark?_cons {c : Char} (h : isBlank c = false) (rest : List Char) :
    mark? c (c :: rest) = some rest := by
  rw [mark?, dropBlank_cons_of_not h]
  exact if_pos rfl

end Rowset
