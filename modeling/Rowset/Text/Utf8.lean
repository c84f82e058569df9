/-!
# Bytes of a text

Texts become bytes in UTF-8. Only well-formed bytes become a text again.
-/

namespace Rowset.Text.Utf8

/-- The bytes of a row of characters. -/
def encode (cs : List Char) : List UInt8 := cs.flatMap String.utf8EncodeChar

/-- The text that the bytes spell, if they are well formed. -/
def decode? (bs : List UInt8) : Option String := String.fromUTF8? bs.toByteArray

@[simp] theorem encode_nil : encode [] = [] := rfl

@[simp] theorem encode_cons (c : Char) (cs : List Char) :
    encode (c :: cs) = String.utf8EncodeChar c ++ encode cs := rfl

@[simp] theorem encode_append (cs ds : List Char) : encode (cs ++ ds) = encode cs ++ encode ds := by
  simp [encode]

theorem utf8EncodeChar_of_lt {c : Char} (h : c.toNat < 128) :
    String.utf8EncodeChar c = [UInt8.ofNat c.toNat] := by
  have small : c.val.toNat ≤ 127 := Nat.le_of_lt_succ h
  rw [String.utf8EncodeChar.eq_1, if_pos small]
  rfl

/-- A text that is read back from its own bytes is the same text. -/
@[simp] theorem decode?_encode (s : String) : decode? (encode s.toList) = some s := by
  have valid : (encode s.toList).toByteArray = s.toByteArray := by
    rw [← String.utf8Encode_toList]; rfl
  simp only [decode?, String.fromUTF8?, valid, s.isValidUTF8, ↓reduceDIte]
  rfl

end Rowset.Text.Utf8
