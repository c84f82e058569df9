import Rowset.Proofs.Json.Lexemes

/-!
# Reading what the grammar derives

The reader accepts every text of the grammar and finds the value that it is a text of. The steps it
allows itself are enough for that: every byte of a text pays for two.
-/

namespace Rowset.Json

/-! ## First bytes -/

theorem NumeralText.exists_cons {n : Numeral} {bs : List UInt8} (h : NumeralText n bs) :
    ∃ b tail, bs = b :: tail ∧ (isDigit b = true ∨ b = ascii '-') := by
  cases h with
  | positive sign hw hf he =>
    obtain ⟨d, ds, hds⟩ := List.exists_cons_of_ne_nil hw.ne_nil
    rw [hds, List.map_cons]
    exact ⟨_, _, rfl, .inl (isDigit_ascii (hw.digits d (hds ▸ List.mem_cons_self)))⟩
  | negative sign hw hf he => exact ⟨_, _, rfl, .inr rfl⟩

/-- The bytes that open values of other kinds than numbers, the bracket that closes an array, and
space. -/
def openers : List UInt8 :=
  [ascii 'n', ascii 't', ascii 'f', ascii '"', ascii '[', ascii '\x7b', ascii ']', 0x20, 0x09,
    0x0A, 0x0D]

theorem notMem_openers {b : UInt8} (h : isDigit b = true ∨ b = ascii '-') : b ∉ openers := by
  intro mem
  have others : openers.all (fun c => !isDigit c && c != ascii '-') = true := by decide
  have other := List.all_eq_true.1 others b mem
  rcases h with digit | rfl
  · rw [digit] at other
    cases other
  · cases other

theorem isSpace_eq_false_of_notMem {b : UInt8} (h : b ∉ openers) : isSpace b = false := by
  simp only [openers, List.mem_cons, List.not_mem_nil, or_false, not_or] at h
  simp [isSpace, h]

/-- A value does not open with space, nor with the bracket that closes an array. -/
theorem ValueText.exists_cons {v : Written} {bs : List UInt8} (h : ValueText v bs) :
    ∃ b tail, bs = b :: tail ∧ isSpace b = false ∧ b ≠ ascii ']' := by
  cases h with
  | number h =>
    obtain ⟨b, tail, rfl, hb⟩ := h.exists_cons
    have other := notMem_openers hb
    refine ⟨b, tail, rfl, isSpace_eq_false_of_notMem other, ?_⟩
    rintro rfl
    exact other (by decide)
  | null | boolTrue | boolFalse | string | emptyArray | array | emptyObject | object =>
    exact ⟨_, _, rfl, by decide, by decide⟩

theorem ItemsText.skipSpace_append {items : List Written} {bs : List UInt8}
    (h : ItemsText items bs) (rest : List UInt8) :
    ∃ c tail, skipSpace (bs ++ rest) = c :: tail ∧ c ≠ ascii ']' := by
  have first : ∀ {v : Written} {bs : List UInt8}, ItemText v bs → ∀ rest,
      ∃ c tail, skipSpace (bs ++ rest) = c :: tail ∧ c ≠ ascii ']' := by
    rintro v bs ⟨hw, h, hu⟩ rest
    obtain ⟨b, tail, rfl, space, bracket⟩ := h.exists_cons
    rw [List.append_assoc, Json.skipSpace_append hw]
    exact ⟨b, _, skipSpace_cons_of_not space _, bracket⟩
  cases h with
  | last h => exact first h rest
  | cons h hs =>
    rw [List.append_assoc]
    exact first h _

theorem MembersText.skipSpace_append {members : List (List StringUnit × Written)}
    {bs : List UInt8} (h : MembersText members bs) (rest : List UInt8) :
    ∃ tail, skipSpace (bs ++ rest) = ascii '"' :: tail := by
  have first : ∀ {m : List StringUnit × Written} {bs : List UInt8}, MemberText m bs → ∀ rest,
      ∃ tail, skipSpace (bs ++ rest) = ascii '"' :: tail := by
    rintro m bs ⟨hw, hn, hu, h⟩ rest
    rw [List.append_assoc, List.cons_append]
    exact ⟨_, skipSpace_append_cons hw (by decide) _⟩
  cases h with
  | last h => exact first h rest
  | cons h hs =>
    rw [List.append_assoc]
    exact first h _

/-! ## Space in front -/

theorem value?_skipSpace (fuel : Nat) (bs : List UInt8) :
    value? fuel (skipSpace bs) = value? fuel bs := by
  cases fuel with
  | zero => rfl
  | succ fuel => rw [value?, value?, skipSpace_skipSpace]

theorem items?_skipSpace (fuel : Nat) (bs : List UInt8) :
    items? fuel (skipSpace bs) = items? fuel bs := by
  cases fuel with
  | zero => rfl
  | succ fuel => rw [items?, items?, value?_skipSpace]

theorem members?_skipSpace (fuel : Nat) (bs : List UInt8) :
    members? fuel (skipSpace bs) = members? fuel bs := by
  cases fuel with
  | zero => rfl
  | succ fuel => rw [members?, members?, skipSpace_skipSpace]

/-! ## Behind a numeral -/

theorem Ends.of_head {b : UInt8}
    (h : isDigit b = false ∧ b ≠ ascii '.' ∧ b ≠ ascii 'e' ∧ b ≠ ascii 'E') (rest : List UInt8) :
    Ends (b :: rest) := by
  obtain ⟨digit, point, mark⟩ := h
  constructor
  · intro _ head
    cases head
    exact digit
  · intro _ head
    cases head
    exact point
  · intro _ head
    cases head
    exact mark

theorem Ends.append {us rest : List UInt8} (hr : Ends rest) (hu : Spaces us) : Ends (us ++ rest) := by
  cases us with
  | nil => exact hr
  | cons b us =>
    have space : isSpace b = true := hu b List.mem_cons_self
    simp only [isSpace, Bool.or_eq_true, beq_iff_eq] at space
    refine .of_head ?_ (us ++ rest)
    rcases space with ((rfl | rfl) | rfl) | rfl <;> decide

/-- A comma or a closing bracket or brace. -/
theorem Ends.mark {b : UInt8} (h : b = ascii ',' ∨ b = ascii ']' ∨ b = ascii '\x7d')
    (rest : List UInt8) : Ends (b :: rest) := by
  refine .of_head ?_ rest
  rcases h with rfl | rfl | rfl <;> decide

/-! ## Values -/

theorem value?_number {n : Numeral} {bs : List UInt8} (h : NumeralText n bs) (fuel : Nat)
    {rest : List UInt8} (hr : Ends rest) :
    value? (fuel + 1) (bs ++ rest) = some (.number n, rest) := by
  have read := numeral?_append h hr
  obtain ⟨b, tail, rfl, hb⟩ := h.exists_cons
  have other := notMem_openers hb
  have space := isSpace_eq_false_of_notMem other
  simp only [openers, List.mem_cons, List.not_mem_nil, or_false, not_or] at other
  rw [List.cons_append] at read
  rw [List.cons_append, value?, skipSpace_cons_of_not space]
  simp [other, read]

mutual

theorem value?_append {v : Written} {bs : List UInt8} (h : ValueText v bs) (fuel : Nat)
    {rest : List UInt8} (hr : Ends rest) (hf : 2 * bs.length ≤ fuel + 1) :
    value? fuel (bs ++ rest) = some (v, rest) := by
  cases fuel with
  | zero =>
    obtain ⟨b, tail, rfl, -⟩ := h.exists_cons
    rw [List.length_cons] at hf
    omega
  | succ fuel =>
    cases h with
    | null =>
      rw [List.cons_append, value?, skipSpace_cons_of_not (by decide)]
      simp [word?]
    | boolTrue =>
      rw [List.cons_append, value?, skipSpace_cons_of_not (by decide)]
      simp +decide [word?]
    | boolFalse =>
      rw [List.cons_append, value?, skipSpace_cons_of_not (by decide)]
      simp +decide [word?]
    | number h => exact value?_number h fuel hr
    | string h =>
      have read := stringUnits?_append h rest
      rw [List.cons_append, value?, skipSpace_cons_of_not (by decide)]
      simp +decide [read]
    | @emptyArray us hu =>
      have close := skipSpace_append_cons hu (b := ascii ']') (by decide) rest
      rw [List.cons_append, value?, skipSpace_cons_of_not (by decide)]
      simp +decide [close]
    | @array items bs h =>
      obtain ⟨c, tail, hc, hne⟩ := h.skipSpace_append (ascii ']' :: rest)
      have read := items?_append h fuel rest (by
        simp only [List.length_cons, List.length_append] at hf
        omega)
      rw [← items?_skipSpace, hc] at read
      rw [List.cons_append, value?, skipSpace_cons_of_not (by decide)]
      simp +decide [hc, hne, read]
    | @emptyObject us hu =>
      have close := skipSpace_append_cons hu (b := ascii '\x7d') (by decide) rest
      rw [List.cons_append, value?, skipSpace_cons_of_not (by decide)]
      simp +decide [close]
    | @object members bs h =>
      obtain ⟨tail, hc⟩ := h.skipSpace_append (ascii '\x7d' :: rest)
      have read := members?_append h fuel rest (by
        simp only [List.length_cons, List.length_append] at hf
        omega)
      rw [← members?_skipSpace, hc] at read
      rw [List.cons_append, value?, skipSpace_cons_of_not (by decide)]
      simp +decide [hc, read]

/-- Space behind a value is left to whoever reads on. -/
theorem value?_spaced {v : Written} {bs : List UInt8} (h : ItemText v bs) (fuel : Nat)
    {rest : List UInt8} (hr : Ends rest) (hf : 2 * bs.length ≤ fuel + 1) :
    ∃ us, Spaces us ∧ value? fuel (bs ++ rest) = some (v, us ++ rest) := by
  cases h with
  | @spaced _ ws bs us hw h hu =>
    have read := value?_append h fuel (hr.append hu) (by
      simp only [List.length_append] at hf
      omega)
    refine ⟨us, hu, ?_⟩
    rw [← value?_skipSpace, List.append_assoc, skipSpace_append hw, value?_skipSpace,
      List.append_assoc, read]

theorem items?_append {items : List Written} {bs : List UInt8} (h : ItemsText items bs)
    (fuel : Nat) (rest : List UInt8) (hf : 2 * bs.length ≤ fuel) :
    items? fuel (bs ++ ascii ']' :: rest) = some (items, rest) := by
  cases fuel with
  | zero =>
    obtain rfl : bs = [] := List.length_eq_zero_iff.1 (by omega)
    obtain ⟨_, _, first, -⟩ := h.skipSpace_append []
    cases first
  | succ fuel =>
    cases h with
    | last h =>
      have ends : Ends (ascii ']' :: rest) := .mark (.inr (.inl rfl)) rest
      obtain ⟨us, hu, read⟩ := value?_spaced h fuel ends (by omega)
      have close := skipSpace_append_cons hu (b := ascii ']') (by decide) rest
      rw [items?, read]
      simp [close]
    | @cons v items bs cs h hs =>
      have ends : Ends (ascii ',' :: (cs ++ ascii ']' :: rest)) := .mark (.inl rfl) _
      simp only [List.length_append, List.length_cons] at hf
      obtain ⟨us, hu, read⟩ := value?_spaced h fuel ends (by omega)
      have comma := skipSpace_append_cons hu (b := ascii ',') (by decide) (cs ++ ascii ']' :: rest)
      have others := items?_append hs fuel rest (by omega)
      rw [List.append_assoc, List.cons_append, items?, read]
      simp +decide [comma, others]

/-- Space behind a member is left to whoever reads on. -/
theorem value?_named {m : List StringUnit × Written} {bs : List UInt8} (h : MemberText m bs)
    (fuel : Nat) {rest : List UInt8} (hr : Ends rest) (hf : 2 * bs.length ≤ fuel + 1) :
    ∃ tail after us vs, skipSpace (bs ++ rest) = ascii '"' :: tail ∧
      stringUnits? tail = some (m.1, after) ∧ skipSpace after = ascii ':' :: vs ∧
      Spaces us ∧ value? fuel vs = some (m.2, us ++ rest) := by
  cases h with
  | @named name v ws ns us bs hw hn hu h =>
    simp only [List.length_append, List.length_cons] at hf
    obtain ⟨xs, hx, read⟩ := value?_spaced h fuel hr (by omega)
    refine ⟨_, _, xs, bs ++ rest, ?_, stringUnits?_append hn (us ++ ascii ':' :: (bs ++ rest)),
      skipSpace_append_cons hu (by decide) _, hx, read⟩
    simp only [List.append_assoc, List.cons_append]
    exact skipSpace_append_cons hw (by decide) _

theorem members?_append {members : List (List StringUnit × Written)} {bs : List UInt8}
    (h : MembersText members bs) (fuel : Nat) (rest : List UInt8) (hf : 2 * bs.length ≤ fuel) :
    members? fuel (bs ++ ascii '\x7d' :: rest) = some (members, rest) := by
  cases fuel with
  | zero =>
    obtain rfl : bs = [] := List.length_eq_zero_iff.1 (by omega)
    obtain ⟨_, first⟩ := h.skipSpace_append []
    cases first
  | succ fuel =>
    cases h with
    | last h =>
      have ends : Ends (ascii '\x7d' :: rest) := .mark (.inr (.inr rfl)) rest
      obtain ⟨_, _, us, _, quote, name, colon, hu, read⟩ :=
        value?_named h fuel ends (by omega)
      have close := skipSpace_append_cons hu (b := ascii '\x7d') (by decide) rest
      simp [members?, quote, name, colon, read, close]
    | @cons m members bs cs h hs =>
      have ends : Ends (ascii ',' :: (cs ++ ascii '\x7d' :: rest)) := .mark (.inl rfl) _
      simp only [List.length_append, List.length_cons] at hf
      obtain ⟨_, _, us, _, quote, name, colon, hu, read⟩ :=
        value?_named h fuel ends (by omega)
      have comma := skipSpace_append_cons hu (b := ascii ',') (by decide)
        (cs ++ ascii '\x7d' :: rest)
      have others := members?_append hs fuel rest (by omega)
      rw [List.append_assoc, List.cons_append, members?, quote]
      simp +decide [name, colon, read, comma, others]

end

/-- A text of the grammar is read as the value that it is a text of. -/
theorem Written.ofBytes?_eq_some {v : Written} {bs : List UInt8} (h : ItemText v bs) :
    Written.ofBytes? bs = some v := by
  obtain ⟨us, hu, read⟩ := value?_spaced h (2 * bs.length + 2) .nil (by omega)
  have finished : skipSpace us = [] := by
    have skipped := skipSpace_append hu []
    rwa [List.append_nil] at skipped
  rw [List.append_nil, List.append_nil] at read
  rw [Written.ofBytes?, read]
  simp [finished]

end Rowset.Json
