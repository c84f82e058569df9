import Rowset.Proofs.Json.Printed

/-!
# Equal documents of different texts

Equality compares the floating-point numbers of documents as numbers, and texts tell the two zeros
apart. This is the only thing that equality overlooks: equal documents are the same unless somewhere
a zero of one sign stands against a zero of the other, and then their texts differ at that place.
-/

namespace Rowset

/-! ## Numbers -/

namespace Binary64

theorem eq_zero_of_isZero {x : Binary64} (h : x.isZero = true) : ∃ negative, x = zero negative := by
  obtain ⟨⟨n⟩⟩ := x
  rw [isZero, Bool.and_eq_true, beq_iff_eq, beq_iff_eq, exponentBits, fractionBits,
    Nat.shiftRight_eq_div_pow] at h
  obtain ⟨exponent, fraction⟩ := h
  have bound := n.isLt
  -- Only the sign bit is left.
  have sign : n.toNat = 0 ∨ n.toNat = 0x8000000000000000 := by
    simp only [UInt64.toNat] at exponent fraction
    omega
  rcases sign with plus | minus
  · exact ⟨false, congrArg mk (UInt64.toNat_inj.1 plus)⟩
  · exact ⟨true, congrArg mk (UInt64.toNat_inj.1 minus)⟩

theorem isZero_zero (negative : Bool) : (zero negative).isZero = true := by
  cases negative <;> decide

/-- Equal numbers are the same or the two zeros. -/
theorem eq_or_zeros_of_numEq {x y : Binary64} (h : x.numEq y = true) :
    x = y ∨ ∃ negative, x = zero negative ∧ y = zero !negative := by
  simp only [numEq, Bool.and_eq_true, Bool.or_eq_true, beq_iff_eq] at h
  rcases h.2 with bits | ⟨hx, hy⟩
  · exact .inl (by cases x; cases y; exact congrArg mk bits)
  · obtain ⟨m, rfl⟩ := eq_zero_of_isZero hx
    obtain ⟨n, rfl⟩ := eq_zero_of_isZero hy
    by_cases same : m = n
    · exact .inl (congrArg zero same)
    · have opposite : n = !m := Bool.eq_not.2 (Ne.symm same)
      exact .inr ⟨m, rfl, congrArg zero opposite⟩

end Binary64

namespace Json

open Binary64

/-! ## Zeros of different signs -/

mutual

/-- Somewhere in the two a zero of one sign stands against a zero of the other. -/
inductive OppositeZeros : Json → Json → Prop
  | here (negative : Bool) (h h') :
    OppositeZeros (.number (.float (zero negative) h)) (.number (.float (zero !negative) h'))
  | array {xs ys : List Json} : OppositeItems xs ys → OppositeZeros (.array xs) (.array ys)
  | object {ms ns : List (String × Json)} :
    OppositeMembers ms ns → OppositeZeros (.object ms) (.object ns)

inductive OppositeItems : List Json → List Json → Prop
  | head {x y : Json} {xs ys : List Json} : OppositeZeros x y → OppositeItems (x :: xs) (y :: ys)
  | tail {x y : Json} {xs ys : List Json} : OppositeItems xs ys → OppositeItems (x :: xs) (y :: ys)

inductive OppositeMembers : List (String × Json) → List (String × Json) → Prop
  | head {m n : String × Json} {ms ns : List (String × Json)} :
    OppositeZeros m.2 n.2 → OppositeMembers (m :: ms) (n :: ns)
  | tail {m n : String × Json} {ms ns : List (String × Json)} :
    OppositeMembers ms ns → OppositeMembers (m :: ms) (n :: ns)

end

mutual

theorem OppositeZeros.ne : {j k : Json} → OppositeZeros j k → j ≠ k
  | _, _, .here negative _ _ => by
    intro same
    injection same with same
    injection same with same
    cases negative <;> exact absurd same (by decide)
  | _, _, .array items => fun same => items.ne (array.inj same)
  | _, _, .object members => fun same => members.ne (object.inj same)

theorem OppositeItems.ne : {xs ys : List Json} → OppositeItems xs ys → xs ≠ ys
  | _, _, .head item => fun same => item.ne (List.cons.inj same).1
  | _, _, .tail items => fun same => items.ne (List.cons.inj same).2

theorem OppositeMembers.ne : {ms ns : List (String × Json)} → OppositeMembers ms ns → ms ≠ ns
  | _, _, .head member => fun same => member.ne (congrArg Prod.snd (List.cons.inj same).1)
  | _, _, .tail members => fun same => members.ne (List.cons.inj same).2

end

mutual

/-- Documents without floating-point numbers have no zeros to differ in. -/
theorem OppositeZeros.not_floatFree : {j k : Json} → OppositeZeros j k → ¬ k.FloatFree
  | _, _, .here .. => id
  | _, _, .array items => items.not_floatFree
  | _, _, .object members => members.not_floatFree

theorem OppositeItems.not_floatFree : {xs ys : List Json} → OppositeItems xs ys →
    ¬ FloatFreeItems ys
  | _, _, .head item => fun free => item.not_floatFree free.1
  | _, _, .tail items => fun free => items.not_floatFree free.2

theorem OppositeMembers.not_floatFree : {ms ns : List (String × Json)} → OppositeMembers ms ns →
    ¬ FloatFreeMembers ns
  | _, _, .head member => fun free => member.not_floatFree free.1
  | _, _, .tail members => fun free => members.not_floatFree free.2

end

/-! ## What equality overlooks -/

theorem Number.eq_or_opposite_of_eqv {m n : Number} (h : m.eqv n = true) :
    m = n ∨ OppositeZeros (.number m) (.number n) := by
  cases m with
  | integer m hm =>
    cases n with
    | integer n hn =>
      obtain rfl := eq_of_beq h
      exact .inl rfl
    | float y hy => cases h
  | float x hx =>
    cases n with
    | integer n hn => cases h
    | float y hy =>
      rcases eq_or_zeros_of_numEq h with rfl | ⟨negative, rfl, rfl⟩
      · exact .inl rfl
      · exact .inr (.here negative hx hy)

/-- Equal values are of one kind, and equal in what they are made of. -/
inductive Alike : Json → Json → Prop
  | null : Alike .null .null
  | bool (b : Bool) : Alike (.bool b) (.bool b)
  | number {m n : Number} (same : m.eqv n = true) : Alike (.number m) (.number n)
  | string (s : String) : Alike (.string s) (.string s)
  | array {xs ys : List Json} (same : eqvItems xs ys = true) : Alike (.array xs) (.array ys)
  | object {ms ns : List (String × Json)} (same : eqvMembers ms ns = true) :
    Alike (.object ms) (.object ns)

theorem alike_of_eqv {j k : Json} (h : j.eqv k = true) : Alike j k := by
  cases j with
  | null =>
    cases k with
    | null => exact .null
    | _ => cases h
  | bool a =>
    cases k with
    | bool b =>
      obtain rfl := eq_of_beq h
      exact .bool a
    | _ => cases h
  | number m =>
    cases k with
    | number n => exact .number h
    | _ => cases h
  | string s =>
    cases k with
    | string t =>
      obtain rfl := eq_of_beq h
      exact .string s
    | _ => cases h
  | array xs =>
    cases k with
    | array ys => exact .array h
    | _ => cases h
  | object ms =>
    cases k with
    | object ns => exact .object h
    | _ => cases h

mutual

/-- Equal values are the same, apart from the signs of zeros. -/
theorem eq_or_opposite_of_eqv : (j : Json) → {k : Json} → j.eqv k = true → j = k ∨ OppositeZeros j k
  | .null, _, h | .bool _, _, h | .string _, _, h => by
    cases alike_of_eqv h
    exact .inl rfl
  | .number _, _, h => by
    cases alike_of_eqv h with
    | number same => exact (Number.eq_or_opposite_of_eqv same).imp_left (congrArg number)
  | .array xs, _, h => by
    cases alike_of_eqv h with
    | array same => exact (eq_or_opposite_of_eqvItems xs same).imp (congrArg array) .array
  | .object ms, _, h => by
    cases alike_of_eqv h with
    | object same => exact (eq_or_opposite_of_eqvMembers ms same).imp (congrArg object) .object

theorem eq_or_opposite_of_eqvItems : (xs : List Json) → {ys : List Json} → eqvItems xs ys = true →
    xs = ys ∨ OppositeItems xs ys
  | [], [], _ => .inl rfl
  | x :: xs, y :: ys, h => by
    obtain ⟨item, items⟩ := Bool.and_eq_true_iff.1 h
    rcases eq_or_opposite_of_eqv x item with rfl | item
    · exact (eq_or_opposite_of_eqvItems xs items).imp (congrArg (x :: ·)) .tail
    · exact .inr (.head item)

theorem eq_or_opposite_of_eqvMembers : (ms : List (String × Json)) →
    {ns : List (String × Json)} → eqvMembers ms ns = true →
    ms = ns ∨ OppositeMembers ms ns
  | [], [], _ => .inl rfl
  | (k, x) :: ms, (l, y) :: ns, h => by
    rw [eqvMembers, Bool.and_eq_true, Bool.and_eq_true, beq_iff_eq] at h
    obtain ⟨⟨rfl, value⟩, members⟩ := h
    rcases eq_or_opposite_of_eqv x value with rfl | value
    · exact (eq_or_opposite_of_eqvMembers ms members).imp (congrArg ((k, x) :: ·)) .tail
    · exact .inr (.head value)

end

/-! ## What texts tell apart -/

/-- Texts that are told apart whatever follows are told apart one behind the other. -/
theorem eq_of_append_append {α β : Type} {f : α → List Char} {g : β → List Char} {x y : α} {u v : β}
    {a b : List Char} (first : ∀ {c d}, f x ++ c = f y ++ d → x = y)
    (second : ∀ {c d}, g u ++ c = g v ++ d → u = v)
    (text : f x ++ (g u ++ a) = f y ++ (g v ++ b)) : x = y ∧ u = v := by
  obtain rfl := first text
  exact ⟨rfl, second (List.append_cancel_left text)⟩

theorem Number.eq_of_print_append {m n : Number} {a b : List Char} (h : m.eqv n = true)
    (text : m.print ++ a = n.print ++ b) : m = n := by
  obtain rfl | ⟨negative, _, _⟩ := eq_or_opposite_of_eqv h
  · rfl
  · have plus : numberStyle.print (zero false) = ['0', '.', '0'] := by decide +kernel
    have minus : numberStyle.print (zero true) = ['-', '0', '.', '0'] := by decide +kernel
    -- One text starts with a sign and the other with a digit.
    cases negative with
    | false =>
      rw [print, print, plus, Bool.not_false, minus] at text
      exact absurd (List.cons.inj text).1 (by decide)
    | true =>
      rw [print, print, minus, Bool.not_true, plus] at text
      exact absurd (List.cons.inj text).1 (by decide)

mutual

/-- Equal values that are printed alike, whatever follows them, are the same. -/
theorem eq_of_print_append : (j : Json) → {k : Json} → {a b : List Char} → j.eqv k = true →
    j.print ++ a = k.print ++ b → j = k
  | .null, _, _, _, h, _ | .bool _, _, _, _, h, _ | .string _, _, _, _, h, _ => by
    cases alike_of_eqv h
    rfl
  | .number _, _, _, _, h, text => by
    cases alike_of_eqv h with
    | number same =>
      rw [print, print] at text
      exact congrArg number (Number.eq_of_print_append same text)
  | .array xs, _, _, _, h, text => by
    cases alike_of_eqv h with
    | array same => exact congrArg array (eq_of_print_array_append xs same text)
  | .object ms, _, _, _, h, text => by
    cases alike_of_eqv h with
    | object same => exact congrArg object (eq_of_print_object_append ms same text)

theorem eq_of_print_array_append : (xs : List Json) → {ys : List Json} → {a b : List Char} →
    eqvItems xs ys = true → print (.array xs) ++ a = print (.array ys) ++ b → xs = ys
  | [], [], _, _, _, _ => rfl
  | x :: xs, y :: ys, _, _, h, text => by
    obtain ⟨item, items⟩ := Bool.and_eq_true_iff.1 h
    simp only [print, List.cons_append, List.append_assoc] at text
    obtain ⟨rfl, rfl⟩ := eq_of_append_append (f := print) (g := printItems)
      (eq_of_print_append x item) (eq_of_printItems_append xs items) (List.cons.inj text).2
    rfl

theorem eq_of_printItems_append : (xs : List Json) → {ys : List Json} → {a b : List Char} →
    eqvItems xs ys = true → printItems xs ++ a = printItems ys ++ b → xs = ys
  | [], [], _, _, _, _ => rfl
  | x :: xs, y :: ys, _, _, h, text => by
    obtain ⟨item, items⟩ := Bool.and_eq_true_iff.1 h
    simp only [printItems, List.cons_append, List.append_assoc] at text
    obtain ⟨rfl, rfl⟩ := eq_of_append_append (f := print) (g := printItems)
      (eq_of_print_append x item) (eq_of_printItems_append xs items) (List.cons.inj text).2
    rfl

theorem eq_of_print_object_append : (ms : List (String × Json)) → {ns : List (String × Json)} →
    {a b : List Char} → eqvMembers ms ns = true →
    print (.object ms) ++ a = print (.object ns) ++ b → ms = ns
  | [], [], _, _, _, _ => rfl
  | (k, x) :: ms, (l, y) :: ns, _, _, h, text => by
    rw [eqvMembers, Bool.and_eq_true, Bool.and_eq_true, beq_iff_eq] at h
    obtain ⟨⟨rfl, value⟩, members⟩ := h
    simp only [print, List.cons_append, List.append_assoc] at text
    have unnamed := List.append_cancel_left (List.cons.inj text).2
    obtain ⟨rfl, rfl⟩ := eq_of_append_append (f := print) (g := printMembers)
      (eq_of_print_append x value) (eq_of_printMembers_append ms members) (List.cons.inj unnamed).2
    rfl

theorem eq_of_printMembers_append : (ms : List (String × Json)) → {ns : List (String × Json)} →
    {a b : List Char} → eqvMembers ms ns = true →
    printMembers ms ++ a = printMembers ns ++ b → ms = ns
  | [], [], _, _, _, _ => rfl
  | (k, x) :: ms, (l, y) :: ns, _, _, h, text => by
    rw [eqvMembers, Bool.and_eq_true, Bool.and_eq_true, beq_iff_eq] at h
    obtain ⟨⟨rfl, value⟩, members⟩ := h
    simp only [printMembers, List.cons_append, List.append_assoc] at text
    have unnamed := List.append_cancel_left (List.cons.inj text).2
    obtain ⟨rfl, rfl⟩ := eq_of_append_append (f := print) (g := printMembers)
      (eq_of_print_append x value) (eq_of_printMembers_append ms members) (List.cons.inj unnamed).2
    rfl

end

/-- Equal documents have one text exactly if no zeros of different signs stand against each
other. -/
theorem Document.text_eq_iff {d e : Document} (h : d.eqv e = true) :
    d.text = e.text ↔ ¬ d.value.OppositeZeros e.value := by
  constructor
  · intro texts opposite
    have printed : d.value.print ++ [] = e.value.print ++ [] :=
      congrArg (· ++ []) (String.ofList_injective texts)
    exact opposite.ne (eq_of_print_append d.value h printed)
  · intro none
    have same := (eq_or_opposite_of_eqv d.value h).resolve_right none
    rw [text, text, same]

end Json

end Rowset
