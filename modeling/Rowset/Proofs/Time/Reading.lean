import Rowset.Proofs.Time.Numbers

/-!
# Times read back

A date is read off the front of what is written, in any year that dates may have, and so is a time
of day, a leap second at the end of a minute with its fraction included. With an offset of nothing
behind them they are the timestamp that was written.

A leap second within a minute is the exception. It is written as the second that follows it, and that
is what its text is read as. So a text is read as what it spells, which is the time that was written
except where a leap second stands within a minute.
-/

namespace Rowset

open Rowset.Text

/-! ## Dates -/

namespace Date

theorem year?_of_isDigit {d : Char} (h : d.isDigit = true) (rest : List Char) :
    year? (d :: rest) = (digitsUpTo? 4 (d :: rest)).map
      fun (ds, rest) => ((Decimal.toNat ds : Int), rest) := by
  rw [year?, dropBlank_cons_of_not (isBlank_of_isDigit h)]
  split
  next same => exact absurd (List.cons.inj same).1 (ne_of_isDigit h rfl)
  next same => exact absurd (List.cons.inj same).1 (ne_of_isDigit h rfl)
  next => rfl

/-- A signed year goes on as long as there are digits. -/
theorem digitsUpTo?_year {rest : List Char} (behind : EndOfDigits rest) (n : Nat) :
    digitsUpTo? (Decimal.padded 4 n ++ rest).length (Decimal.padded 4 n ++ rest) =
      some (Decimal.padded 4 n, rest) := by
  refine digitsUpTo?_append rest (Decimal.padded_ne_nil 4 n) (fun _ => Decimal.isDigit_of_mem_padded)
    (.inr ⟨?_, behind⟩)
  rw [List.length_append]
  exact Nat.le_add_right _ _

theorem year?_yearText (year : Int) {rest : List Char} (behind : EndOfDigits rest) :
    year? (yearText year ++ rest) = some (year, rest) := by
  unfold yearText
  split
  next plain =>
    have four : year.toNat < Nat.pow 10 4 := by
      show year.toNat < 10000
      omega
    have digits : ∀ d ∈ Decimal.padded 4 year.toNat, d.isDigit = true := fun _ =>
      Decimal.isDigit_of_mem_padded
    have row := digitsUpTo?_append rest (Decimal.padded_ne_nil 4 year.toNat) digits
      (.inl (Decimal.length_padded (by decide) four))
    have value := Decimal.toNat_padded 4 year.toNat
    obtain ⟨d, ds, shape⟩ := List.exists_cons_of_ne_nil (Decimal.padded_ne_nil 4 year.toNat)
    rw [shape] at row value digits ⊢
    rw [List.cons_append] at row ⊢
    have same : (year.toNat : Int) = year := Int.toNat_of_nonneg plain.1
    simp only [year?_of_isDigit (digits d List.mem_cons_self), row, Option.map_some, value, same]
  next signed =>
    have row := digitsUpTo?_year behind year.natAbs
    split
    next negative =>
      have same : -(year.natAbs : Int) = year := by omega
      simp only [List.cons_append, year?, dropBlank_cons_of_not (show isBlank '-' = false by decide),
        row, Option.map_some, Decimal.toNat_padded, same]
    next positive =>
      have same : (year.natAbs : Int) = year := by omega
      simp only [List.cons_append, year?, dropBlank_cons_of_not (show isBlank '+' = false by decide),
        row, Option.map_some, Decimal.toNat_padded, same]

/-- Months and days have two digits. -/
theorem lt_of_valid (d : Date) : d.month < Nat.pow 10 2 ∧ d.day < Nat.pow 10 2 := by
  have valid := d.valid
  simp only [isCalendarDay, Bool.and_eq_true, decide_eq_true_eq] at valid
  obtain ⟨⟨⟨⟨_, _⟩, month⟩, _⟩, day⟩ := valid
  have longest : daysInMonth d.year d.month ≤ 31 := by
    unfold daysInMonth
    repeat' split
    all_goals decide
  show d.month < 100 ∧ d.day < 100
  omega

@[simp] theorem of?_self (d : Date) : of? d.year d.month d.day = some d := dif_pos d.valid

/-- A date is read off the front, whatever stands behind. -/
theorem take?_print_append (d : Date) (rest : List Char) : take? (d.print ++ rest) = some (d, rest) := by
  obtain ⟨month, day⟩ := d.lt_of_valid
  have year := year?_yearText d.year
    (EndOfDigits.cons (c := '-') rfl
      (Decimal.padded 2 d.month ++ '-' :: (Decimal.padded 2 d.day ++ rest)))
  have dash : isBlank '-' = false := by decide
  simp only [print, List.append_assoc, List.cons_append, take?, year, mark?_cons dash,
    numberUpTo?_padded (by decide : 0 < 2) month, numberUpTo?_padded (by decide : 0 < 2) day,
    Option.bind_eq_bind, Option.bind_some, of?_self]
  rfl

theorem parse?_print (d : Date) : parse? d.print = some d := by
  have read := d.take?_print_append []
  rw [List.append_nil] at read
  rw [parse?, read]
  rfl

end Date

/-! ## Times of day -/

namespace TimeOfDay

/-- What may stand behind a time of day: neither a digit nor a point. -/
def EndOfTime (rest : List Char) : Prop := ∀ c ∈ rest.head?, c.isDigit = false ∧ c ≠ '.'

theorem EndOfTime.cons {c : Char} (h : c.isDigit = false) (point : c ≠ '.') (rest : List Char) :
    EndOfTime (c :: rest) := by
  intro _ head
  cases head
  exact ⟨h, point⟩

theorem EndOfTime.endOfDigits {rest : List Char} (h : EndOfTime rest) : EndOfDigits rest :=
  fun c head => (h c head).1

theorem takeFraction?_of_endOfTime {rest : List Char} (h : EndOfTime rest) :
    takeFraction? rest = some (0, rest) := by
  unfold takeFraction?
  split
  next => exact absurd rfl (h '.' rfl).2
  next => rfl

/-- The digits behind a point are the first of nine. -/
theorem takeFraction?_padded {width n : Nat} (pos : 0 < width) (nine : width ≤ 9)
    (h : n < Nat.pow 10 width) {rest : List Char} (behind : EndOfDigits rest) :
    takeFraction? ('.' :: (Decimal.padded width n ++ rest)) =
      some (Nat.pow 10 (9 - width) * n, rest) := by
  have length := Decimal.length_padded pos h
  have row := digitsUpTo?_append rest (Decimal.padded_ne_nil width n)
    (fun _ => Decimal.isDigit_of_mem_padded) (.inr ⟨length.symm ▸ nine, behind⟩)
  have filled : (Decimal.padded width n ++ List.replicate 9 '0').take 9 =
      Decimal.padded width n ++ List.replicate (9 - width) '0' := by
    rw [List.take_append, length, List.take_of_length_le (length.symm ▸ nine), List.take_replicate,
      Nat.min_eq_left (Nat.sub_le 9 width)]
  simp only [takeFraction?, row, Option.map_some, filled, Decimal.toNat_append_zeros,
    Decimal.toNat_padded, behind.dropWhile_eq]

theorem takeFraction?_fractionText {n : Nat} (h : n < 1000000000) {rest : List Char}
    (behind : EndOfTime rest) : takeFraction? (fractionText n ++ rest) = some (n, rest) := by
  have digits := behind.endOfDigits
  fun_cases fractionText n with
  | case1 zero =>
    subst zero
    exact takeFraction?_of_endOfTime behind
  | case2 _ whole =>
    have fits : n / 1000000 < 1000 := by omega
    have value : Nat.pow 10 (9 - 3) * (n / 1000000) = n := by
      show 1000000 * (n / 1000000) = n
      omega
    rw [List.cons_append, takeFraction?_padded (by decide) (by decide) fits digits, value]
  | case3 _ _ whole =>
    have fits : n / 1000 < 1000000 := by omega
    have value : Nat.pow 10 (9 - 6) * (n / 1000) = n := by
      show 1000 * (n / 1000) = n
      omega
    rw [List.cons_append, takeFraction?_padded (by decide) (by decide) fits digits, value]
  | case4 =>
    have value : Nat.pow 10 (9 - 9) * n = n := Nat.one_mul n
    rw [List.cons_append, takeFraction?_padded (by decide) (by decide) h digits, value]

/-! ### Leap seconds within a minute -/

/-- A leap second that does not end a minute. -/
def LeapsMidMinute (t : TimeOfDay) : Prop := 1000000000 ≤ t.nanosecond ∧ t.second % 60 ≠ 59

instance (t : TimeOfDay) : Decidable t.LeapsMidMinute :=
  inferInstanceAs (Decidable (1000000000 ≤ t.nanosecond ∧ t.second % 60 ≠ 59))

/-- The time of day that is spelled by what is written for `t`: a leap second within a minute passes
for the second behind it. -/
def spelled (t : TimeOfDay) : TimeOfDay :=
  if leap : t.LeapsMidMinute then
    have within : t.second + 1 < 86400 := by
      have range := t.second_lt
      have minute := leap.2
      omega
    ⟨t.second + 1, t.nanosecond - 1000000000, within,
      Nat.lt_of_le_of_lt (Nat.sub_le _ _) t.nanosecond_lt⟩
  else t

variable {t : TimeOfDay}

theorem spelled_of_leapsMidMinute (h : t.LeapsMidMinute) :
    t.spelled.second = t.second + 1 ∧ t.spelled.nanosecond = t.nanosecond - 1000000000 := by
  rw [spelled, dif_pos h]
  exact ⟨rfl, rfl⟩

theorem spelled_eq_self_iff : t.spelled = t ↔ ¬ t.LeapsMidMinute := by
  constructor
  · intro same leap
    have second := (spelled_of_leapsMidMinute leap).1
    rw [same] at second
    omega
  · intro plain
    exact dif_neg plain

/-- What is spelled has its leap seconds at the ends of minutes. -/
theorem not_leapsMidMinute_spelled (t : TimeOfDay) : ¬ t.spelled.LeapsMidMinute := by
  by_cases leap : t.LeapsMidMinute
  · have range := t.nanosecond_lt
    rw [LeapsMidMinute, (spelled_of_leapsMidMinute leap).2]
    omega
  · rwa [spelled_eq_self_iff.2 leap]

theorem print_spelled (t : TimeOfDay) : t.spelled.print = t.print := by
  by_cases leap : t.LeapsMidMinute
  · obtain ⟨second, nanosecond⟩ := spelled_of_leapsMidMinute leap
    have range := t.nanosecond_lt
    obtain ⟨billion, minute⟩ := leap
    have hours : (t.second + 1) / 3600 = t.second / 3600 := by omega
    have minutes : (t.second + 1) / 60 % 60 = t.second / 60 % 60 := by omega
    have seconds : (t.second + 1) % 60 + (t.nanosecond - 1000000000) / 1000000000 =
        t.second % 60 + t.nanosecond / 1000000000 := by omega
    have fraction : (t.nanosecond - 1000000000) % 1000000000 = t.nanosecond % 1000000000 := by omega
    rw [print, second, nanosecond, hours, minutes, seconds, fraction, ← print]
  · rw [spelled_eq_self_iff.2 leap]

/-- A time of day is made from its parts, unless it is a leap second within a minute. -/
theorem of?_self (h : ¬ t.LeapsMidMinute) : of? t.second t.nanosecond = some t := by
  have plain : t.nanosecond < 1000000000 ∨ t.second % 60 = 59 := by
    unfold LeapsMidMinute at h
    omega
  rw [of?, dif_pos ⟨t.second_lt, t.nanosecond_lt⟩, if_pos plain]

/-- A time of day is read off the front; a leap second that ends a minute is the second before it
with its own nanoseconds. -/
theorem take?_print_append_of_not (h : ¬ t.LeapsMidMinute) {rest : List Char}
    (behind : EndOfTime rest) : take? (t.print ++ rest) = some (t, rest) := by
  have range := t.second_lt
  have nanoseconds := t.nanosecond_lt
  have whole := of?_self h
  unfold LeapsMidMinute at h
  have hour : t.second / 3600 < 100 := by omega
  have minute : t.second / 60 % 60 < 100 := by omega
  have second : t.second % 60 + t.nanosecond / 1000000000 < 100 := by omega
  have fraction := takeFraction?_fractionText (Nat.mod_lt t.nanosecond (by decide)) behind
  have colon : isBlank ':' = false := by decide
  have two : 0 < 2 := by decide
  simp only [print, List.append_assoc, List.cons_append, take?, mark?_cons colon,
    numberUpTo?_padded two hour, numberUpTo?_padded two minute, numberUpTo?_padded two second,
    fraction, Option.bind_eq_bind, Option.bind_some]
  rw [if_neg (by omega)]
  rcases Nat.lt_or_ge t.nanosecond 1000000000 with plain | leap
  · have parts : 3600 * (t.second / 3600) + 60 * (t.second / 60 % 60) +
        (t.second % 60 + t.nanosecond / 1000000000) = t.second := by omega
    rw [if_neg (by omega), parts, Nat.mod_eq_of_lt plain, whole]
    rfl
  · have parts : 3600 * (t.second / 3600) + 60 * (t.second / 60 % 60) + 59 = t.second := by omega
    have nanosecond : 1000000000 + t.nanosecond % 1000000000 = t.nanosecond := by omega
    rw [if_pos (by omega), parts, nanosecond, whole]
    rfl

/-- The time of day that is spelled is read off the front. -/
theorem take?_print_append (t : TimeOfDay) {rest : List Char} (behind : EndOfTime rest) :
    take? (t.print ++ rest) = some (t.spelled, rest) := by
  rw [← t.print_spelled]
  exact take?_print_append_of_not t.not_leapsMidMinute_spelled behind

end TimeOfDay

/-! ## Timestamps -/

namespace Timestamp

/-- The timestamp that is spelled by what is written for `t`. -/
def spelled (t : Timestamp) : Timestamp := ⟨t.date, t.time.spelled⟩

theorem spelled_eq_self_iff {t : Timestamp} : t.spelled = t ↔ ¬ t.time.LeapsMidMinute := by
  rw [← TimeOfDay.spelled_eq_self_iff]
  exact ⟨congrArg time, congrArg (mk t.date)⟩

theorem print_spelled (t : Timestamp) : t.spelled.print = t.print := by
  have unchanged : t.spelled.localText = t.localText :=
    congrArg (fun time => t.date.print ++ 'T' :: time) t.time.print_spelled
  rw [print, print, unchanged]

/-- Clocks that are not ahead show the time as it is. -/
theorem behind?_zero (t : Timestamp) : behind? t 0 = some t := by
  have range := t.time.second_lt
  have same : (((t.time.second : Int) - 60 * 0) % 86400).toNat = t.time.second := by omega
  simp only [behind?, same]
  rw [if_neg (by omega), if_neg (by omega)]
  rfl

/-- Date and time of day are read back before any offset of nothing, as what they spell. -/
theorem parse?_localText_append (t : Timestamp) {offset : List Char}
    (behind : TimeOfDay.EndOfTime offset) (none : takeOffset? (dropBlank offset) = some (0, [])) :
    parse? (t.localText ++ offset) = some t.spelled := by
  simp only [localText, List.append_assoc, List.cons_append, parse?, Date.take?_print_append,
    TimeOfDay.take?_print_append t.time behind, none, Option.bind_eq_bind, Option.bind_some]
  exact t.spelled.behind?_zero

/-- A timestamp with its offset spelled out is read as what it spells. -/
theorem parse?_print (t : Timestamp) : parse? t.print = some t.spelled :=
  t.parse?_localText_append (.cons (by decide) (by decide) _) (by decide)

/-- A timestamp with the short mark of universal time is read as what it spells. -/
theorem parse?_printShort (t : Timestamp) : parse? t.printShort = some t.spelled :=
  t.parse?_localText_append (.cons (by decide) (by decide) _) (by decide)

end Timestamp

end Rowset
