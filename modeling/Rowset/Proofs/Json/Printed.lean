import Rowset.Proofs.Json.Literals

/-!
# Printed values are in the grammar

A printed value without floating-point numbers is a text of the grammar, written without any space
and with the members in their order. So reading it gives back what was printed.
-/

namespace Rowset.Json

open Rowset.Text

mutual

/-- Whether no floating-point number occurs in a value. -/
def FloatFree : Json → Prop
  | .number (.float _ _) => False
  | .array xs => FloatFreeItems xs
  | .object ms => FloatFreeMembers ms
  | _ => True

def FloatFreeItems : List Json → Prop
  | [] => True
  | x :: xs => x.FloatFree ∧ FloatFreeItems xs

def FloatFreeMembers : List (String × Json) → Prop
  | [] => True
  | (_, x) :: ms => x.FloatFree ∧ FloatFreeMembers ms

end

mutual

/-- A value as it is written on printing. -/
def written : (j : Json) → j.FloatFree → Written
  | .null, _ => .null
  | .bool b, _ => .bool b
  | .number (.integer n _), _ => .number (.ofInt n)
  | .string s, _ => .string (textUnits s)
  | .array xs, h => .array (writtenItems xs h)
  | .object ms, h => .object (writtenMembers ms h)

def writtenItems : (xs : List Json) → FloatFreeItems xs → List Written
  | [], _ => []
  | x :: xs, h => x.written h.1 :: writtenItems xs h.2

def writtenMembers : (ms : List (String × Json)) → FloatFreeMembers ms →
    List (List StringUnit × Written)
  | [], _ => []
  | (k, x) :: ms, h => (textUnits k, x.written h.1) :: writtenMembers ms h.2

end

theorem ValueText.item {v : Written} {bs : List UInt8} (h : ValueText v bs) : ItemText v bs := by
  have spaced := ItemText.spaced .nil h .nil
  rwa [List.nil_append, List.append_nil] at spaced

theorem encode_quote (s : String) : Utf8.encode (quote s) =
    ascii '"' :: (Utf8.encode (s.toList.flatMap escape) ++ [ascii '"']) := by
  rw [quote, List.cons_append, Utf8.encode_cons, Utf8.encode_append]
  rfl

theorem memberText_quote (name : String) {v : Written} {bs : List UInt8} (h : ValueText v bs) :
    MemberText (textUnits name, v) (Utf8.encode (quote name) ++ ascii ':' :: bs) := by
  have named := MemberText.named .nil (unitsText_textUnits name) .nil h.item
  rw [encode_quote]
  simpa using named

mutual

theorem valueText_print : (j : Json) → (h : j.FloatFree) →
    ValueText (j.written h) (Utf8.encode j.print)
  | .null, _ => .null
  | .bool true, _ => .boolTrue
  | .bool false, _ => .boolFalse
  | .number (.integer n _), _ => .number (numeralText_ofInt n)
  | .string s, _ => by
    rw [print, encode_quote]
    exact .string (unitsText_textUnits s)
  | .array [], _ => .emptyArray .nil
  | .array (x :: xs), h => by
    obtain ⟨bs, items, same⟩ := itemsText_printItems xs h.2 (valueText_print x h.1).item
    rw [print, Utf8.encode_append, Utf8.encode_cons, List.append_assoc, same]
    exact .array items
  | .object [], _ => .emptyObject .nil
  | .object ((k, x) :: ms), h => by
    obtain ⟨bs, members, same⟩ := membersText_printMembers ms h.2
      (memberText_quote k (valueText_print x h.1))
    have start : Utf8.encode (print (.object ((k, x) :: ms))) = ascii '\x7b' ::
        ((Utf8.encode (quote k) ++ ascii ':' :: Utf8.encode x.print) ++
          Utf8.encode (printMembers ms)) := by
      rw [print, Utf8.encode_append, Utf8.encode_append, Utf8.encode_cons, Utf8.encode_cons]
      rfl
    rw [start, same]
    exact .object members

theorem itemsText_printItems : (xs : List Json) → (h : FloatFreeItems xs) → {v : Written} →
    {bs : List UInt8} → ItemText v bs → ∃ cs, ItemsText (v :: writtenItems xs h) cs ∧
      bs ++ Utf8.encode (printItems xs) = cs ++ [ascii ']']
  | [], _, _, bs, first => ⟨bs, .last first, rfl⟩
  | x :: xs, h, _, bs, first => by
    obtain ⟨cs, items, same⟩ := itemsText_printItems xs h.2 (valueText_print x h.1).item
    refine ⟨bs ++ ascii ',' :: cs, .cons first items, ?_⟩
    rw [List.append_assoc, List.cons_append, ← same, printItems, Utf8.encode_append,
      Utf8.encode_cons]
    rfl

theorem membersText_printMembers : (ms : List (String × Json)) → (h : FloatFreeMembers ms) →
    {m : List StringUnit × Written} → {bs : List UInt8} → MemberText m bs →
    ∃ cs, MembersText (m :: writtenMembers ms h) cs ∧
      bs ++ Utf8.encode (printMembers ms) = cs ++ [ascii '\x7d']
  | [], _, _, bs, first => ⟨bs, .last first, rfl⟩
  | (k, x) :: ms, h, _, bs, first => by
    obtain ⟨cs, members, same⟩ := membersText_printMembers ms h.2
      (memberText_quote k (valueText_print x h.1))
    refine ⟨bs ++ ascii ',' :: cs, .cons first members, ?_⟩
    rw [List.append_assoc, List.cons_append, ← same, printMembers, Utf8.encode_append,
      Utf8.encode_append, Utf8.encode_cons, Utf8.encode_cons]
    rfl

end

/-- What is printed is read back as it was written. -/
theorem ofBytes?_print (j : Json) (h : j.FloatFree) :
    Written.ofBytes? (Utf8.encode j.print) = some (j.written h) :=
  Written.ofBytes?_eq_some (valueText_print j h).item

end Rowset.Json
