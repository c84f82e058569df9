import Rowset.Paging.Settings
import Rowset.Proofs.Text.Numeral

/-!
# The sizes that settings allow

Adjusted settings are consistent, and under consistent settings every page size lies between one and
the greatest size, whatever a client asks for. Clients ask in words: a positive number of any length
asks for that many rows, as far as settings allow, and other texts ask for nothing. Only a text that
begins like a number beyond 64 bits and goes on as none is taken for that number.
-/

namespace Rowset.PageSettings

open Rowset.Text

theorem toNat_max (a b : UInt32) : (max a b).toNat = max a.toNat b.toNat := by
  show (if a ≤ b then b else a).toNat = max a.toNat b.toNat
  split
  next h =>
    rw [UInt32.le_iff_toNat_le] at h
    omega
  next h =>
    rw [UInt32.le_iff_toNat_le] at h
    omega

theorem toNat_min (a b : UInt32) : (min a b).toNat = min a.toNat b.toNat := by
  show (if a ≤ b then a else b).toNat = min a.toNat b.toNat
  split
  next h =>
    rw [UInt32.le_iff_toNat_le] at h
    omega
  next h =>
    rw [UInt32.le_iff_toNat_le] at h
    omega

theorem adjusted_isConsistent (s : PageSettings) : s.adjusted.IsConsistent := by
  have one : (1 : UInt32).toNat = 1 := rfl
  constructor
  · rw [UInt32.le_iff_toNat_le, adjusted, toNat_min, toNat_max, toNat_max, one]
    omega
  · rw [UInt32.le_iff_toNat_le, adjusted, toNat_min]
    exact Nat.min_le_right _ _

variable {s : PageSettings}

theorem requestedLimit?_bounds (h : s.IsConsistent) {first : Option String} {limit : UInt32}
    (hl : s.requestedLimit? first = some limit) :
    1 ≤ limit.toNat ∧ limit.toNat ≤ s.maxLimit.toNat := by
  have positive : 1 ≤ s.maxLimit.toNat := UInt32.le_iff_toNat_le.1 (UInt32.le_trans h.1 h.2)
  have small := s.maxLimit.toNat_lt
  revert hl
  fun_cases requestedLimit? s first with
  | case1 | case3 | case5 => nofun
  | case2 text n _ hn =>
    rintro ⟨⟩
    rw [UInt32.toNat_ofNat']
    omega
  | case4 =>
    rintro ⟨⟩
    exact ⟨positive, Nat.le_refl _⟩

theorem limitFor_bounds (h : s.IsConsistent) (first : Option String) :
    1 ≤ (s.limitFor first).toNat ∧ (s.limitFor first).toNat ≤ s.maxLimit.toNat := by
  unfold limitFor
  cases hl : s.requestedLimit? first with
  | none => exact ⟨UInt32.le_iff_toNat_le.1 h.1, UInt32.le_iff_toNat_le.1 h.2⟩
  | some limit => exact requestedLimit?_bounds h hl

/-! ## The size that is asked for -/

/-- The size asked for is the positive number that the text spells, cut down to the greatest size.
A text that spells none asks for nothing. -/
structure ReadsSize (s : PageSettings) (text : String) : Prop where
  number : ∀ n, 1 ≤ n → Numeral.Spells (trimmed text.toList) n →
    ∃ limit, s.requestedLimit? (some text) = some limit ∧ limit.toNat = min n s.maxLimit.toNat
  other : (∀ n, 1 ≤ n → ¬ Numeral.Spells (trimmed text.toList) n) →
    s.requestedLimit? (some text) = none

theorem requestedLimit?_of_overruns {text : String} (h : Numeral.Overruns (trimmed text.toList)) :
    s.requestedLimit? (some text) = some s.maxLimit := by
  simp only [requestedLimit?, Numeral.read_eq_tooLarge_iff.2 h]

/-- A positive number within the signed range is read as it is. -/
theorem requestedLimit?_of_spells {text : String} {n : Nat} (positive : 1 ≤ n)
    (h : Numeral.Spells (trimmed text.toList) n) :
    ∃ limit, s.requestedLimit? (some text) = some limit ∧
      limit.toNat = min n s.maxLimit.toNat := by
  have small := s.maxLimit.toNat_lt
  by_cases fits : n ≤ 0x7fffffffffffffff
  · have read := (Numeral.read_eq_ok_iff positive).2 ⟨h, fits⟩
    refine ⟨UInt32.ofNat (min n s.maxLimit.toNat), ?_, ?_⟩
    · have above : (0 : Int) < n := by omega
      simp only [requestedLimit?, read, if_pos above, Int.toNat_natCast]
    · rw [UInt32.toNat_ofNat']
      omega
  · have large : 0x7fffffffffffffff < n := Nat.lt_of_not_le fits
    refine ⟨s.maxLimit, requestedLimit?_of_overruns (h.overruns_iff.2 large), ?_⟩
    omega

/-- A text that spells no positive number and does not overrun is nothing that is asked for. -/
theorem requestedLimit?_of_not_spells {text : String}
    (none : ∀ n, 1 ≤ n → ¬ Numeral.Spells (trimmed text.toList) n)
    (within : ¬ Numeral.Overruns (trimmed text.toList)) :
    s.requestedLimit? (some text) = Option.none := by
  cases read : Numeral.read (trimmed text.toList) with
  | ok i =>
    simp only [requestedLimit?, read]
    by_cases positive : 0 < i
    · obtain ⟨n, rfl⟩ := Int.eq_ofNat_of_zero_le (Int.le_of_lt positive)
      have above : 0 < n := Int.natCast_pos.1 positive
      exact absurd ((Numeral.read_eq_ok_iff above).1 read).1 (none n above)
    · rw [if_neg positive]
  | error e =>
    cases e with
    | tooLarge => exact absurd (Numeral.read_eq_tooLarge_iff.1 read) within
    | empty | notADigit | tooSmall => simp only [requestedLimit?, read]

/-- **A size is read as the number it spells, of any length, or not at all**, except for the texts
that begin like a number beyond the signed range and go on as none. These, and no others, are given
the greatest size although they spell nothing. -/
theorem readsSize_iff (s : PageSettings) (text : String) :
    (s.ReadsSize text ↔ ¬ Numeral.Strays (trimmed text.toList)) ∧
      ((s.requestedLimit? (some text) = some s.maxLimit ∧
          ∀ n, ¬ Numeral.Spells (trimmed text.toList) n) ↔
        Numeral.Strays (trimmed text.toList)) := by
  have stray : Numeral.Strays (trimmed text.toList) →
      s.requestedLimit? (some text) = some s.maxLimit := fun h => requestedLimit?_of_overruns h.1
  constructor
  · constructor
    · intro reads strays
      have nothing := reads.other fun n _ => strays.2 n
      rw [stray strays] at nothing
      cases nothing
    · intro keeps
      refine ⟨fun n positive spelled => requestedLimit?_of_spells positive spelled, fun none => ?_⟩
      refine requestedLimit?_of_not_spells none fun overrun => keeps ⟨overrun, fun n spelled => ?_⟩
      have large := spelled.overruns_iff.1 overrun
      exact none n (by omega) spelled
  · constructor
    · rintro ⟨capped, none⟩
      refine ⟨by_contra fun within => ?_, none⟩
      rw [requestedLimit?_of_not_spells (fun n _ => none n) within] at capped
      cases capped
    · intro strays
      exact ⟨stray strays, strays.2⟩

/-- Twenty nines and a letter are no number, and yet they are given the greatest size. -/
theorem not_readsSize_behind_overrun :
    let s : PageSettings := ⟨20, 50⟩
    let text := "99999999999999999999x"
    (∀ n, ¬ Numeral.Spells (trimmed text.toList) n) ∧ s.requestedLimit? (some text) = some 50 ∧
      ¬ s.ReadsSize text := by
  intro s text
  have spelled : ∀ n, ¬ Numeral.Spells (trimmed text.toList) n := by
    intro n h
    have start : (trimmed text.toList).head? = some '9' := by decide
    have unsigned : ∀ ds, trimmed text.toList ≠ '+' :: ds := by
      intro ds signed
      rw [signed] at start
      exact absurd start (by simp)
    have row := (Numeral.spells_iff_of_unsigned unsigned).1 h
    exact absurd (row.digits 'x' (by decide)) (by decide)
  have capped : s.requestedLimit? (some text) = some 50 := by decide +kernel
  refine ⟨spelled, capped, fun reads => ?_⟩
  rw [reads.other fun n _ => spelled n] at capped
  cases capped

end Rowset.PageSettings
