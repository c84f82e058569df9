import Rowset.Proofs.Paging.Token

/-!
# Tokens of objects

A client may send any token. A token of an object that names an offset and a size once each is
classified by these two numbers alone: a negative offset is reported first, then a size that is not a
positive number of 32 bits, and otherwise the token gives a cursor of exactly these numbers. The
order of the members, space between them, other members and blank space around the token make no
difference, as long as every member has a text for its name. Whatever token a cursor comes from, the
cursor's own token leads back to it.
-/

namespace Rowset.Cursor

open Rowset.Text

/-- A token of an object: a JSON text of it in base64, blank space around. -/
inductive Carries (members : List (List Json.StringUnit × Json.Written)) : String → Prop
  | spaced {payload : List UInt8} {before after : List Char}
    (object : Json.ItemText (.object members) payload) (hb : ∀ b ∈ before, isBlank b = true)
    (ha : ∀ a ∈ after, isBlank a = true) :
    Carries members (String.ofList (before ++ (Base64Url.chars payload ++ after)))

/-- Among the members an offset and a size are named once each and written as plain integers. -/
structure Gives (members : List (List Json.StringUnit × Json.Written)) (offset limit : Int64) :
    Prop where
  offset : Json.valuesOf members "offset" = [.number (.ofInt offset.toInt)]
  limit : Json.valuesOf members "limit" = [.number (.ofInt limit.toInt)]

variable {members : List (List Json.StringUnit × Json.Written)} {text : String}
  {offset limit : Int64}

/-- A token by its characters. -/
theorem Carries.of_object {payload : List UInt8} (before after : List Char)
    (object : Json.ItemText (.object members) payload) (hb : before.all isBlank = true)
    (ha : after.all isBlank = true)
    (same : before ++ (Base64Url.chars payload ++ after) = text.toList) : Carries members text := by
  have carried := Carries.spaced object (List.all_eq_true.1 hb) (List.all_eq_true.1 ha)
  rwa [same, String.ofList_toList] at carried

/-- Half a surrogate pair can be written, but it is no text. -/
theorem unitsText_surrogate :
    Json.UnitsText [.escape 0xd800] (Utf8.encode ['\\', 'u', 'd', '8', '0', '0']) :=
  .hex (by decide) .nil

/-! ## Reading the object -/

/-- The object is read as it was written. -/
theorem Carries.exists_payload (h : Carries members text) :
    ∃ payload, decode text = ofPayload payload ∧
      Json.Written.ofBytes? payload = some (.object members) := by
  obtain ⟨object, hb, ha⟩ := h
  exact ⟨_, decode_spaced hb ha _, Json.Written.ofBytes?_eq_some object⟩

/-- A name that is no text spoils the object, also where nobody asks for its member. -/
theorem Carries.decode_of_not_named (h : Carries members text) (unnamed : ¬ Json.Named members) :
    decode text = .error .format := by
  obtain ⟨payload, decoded, read⟩ := h.exists_payload
  rw [decoded, ofPayload_eq, read, Option.bind_some, readPair?_of_not_named _ _ _ _ unnamed]

theorem signed?_ofInt (n : Int64) : signed? (.number (.ofInt n.toInt)) = some n.toInt := by
  have low := n.le_toInt
  have high := n.toInt_lt
  rw [signed?, Json.integer?_number (by omega), if_pos (by omega)]

/-- Where all names are texts, the two numbers are found and checked. -/
theorem Carries.decode_of_named (h : Carries members text) (gives : Gives members offset limit)
    (named : Json.Named members) : decode text = ofSigned offset.toInt limit.toInt := by
  obtain ⟨payload, decoded, read⟩ := h.exists_payload
  have pair := readPair?_of_valuesOf (by decide) signed? signed? named gives.offset gives.limit
  rw [signed?_ofInt, signed?_ofInt] at pair
  rw [decoded, ofPayload_eq, read, Option.bind_some, pair]
  rfl

/-! ## Checking the numbers -/

theorem ofSigned_of_neg {o : Int} (l : Int) (h : o < 0) : ofSigned o l = .error (.negative o) :=
  if_pos h

theorem ofSigned_of_badLimit {o l : Int} (h : 0 ≤ o) (bad : l < 1 ∨ 0xffffffff < l) :
    ofSigned o l = .error (.badLimit l) := by
  rw [ofSigned, if_neg (Int.not_lt.2 h), if_neg (by omega)]

theorem exists_ofSigned_eq_ok {o l : Int} (h : 0 ≤ o) (small : o ≤ 0x7fffffffffffffff)
    (positive : 1 ≤ l) (fits : l ≤ 0xffffffff) :
    ∃ c, ofSigned o l = .ok c ∧ (c.offset.toNat : Int) = o ∧ (c.limit.toNat : Int) = l := by
  refine ⟨⟨UInt64.ofNat o.toNat, UInt32.ofNat l.toNat⟩, ?_, ?_, ?_⟩
  · rw [ofSigned, if_neg (Int.not_lt.2 h), if_pos ⟨positive, fits⟩]
  · rw [UInt64.toNat_ofNat']
    omega
  · rw [UInt32.toNat_ofNat']
    omega

/-- **Every token of an object that names an offset and a size is classified by them**, and only
valid cursors are accepted: from whatever text a cursor is read, its offset is in the signed range
and its size positive, so that the token written for it is read as the same cursor. -/
theorem decode_classifies :
    (∀ (members : List (List Json.StringUnit × Json.Written)) (text : String)
      (offset limit : Int64), Carries members text → Gives members offset limit →
      (¬ Json.Named members → decode text = .error .format) ∧
      (Json.Named members →
        (offset.toInt < 0 → decode text = .error (.negative offset.toInt)) ∧
        (0 ≤ offset.toInt → limit.toInt < 1 ∨ 0xffffffff < limit.toInt →
          decode text = .error (.badLimit limit.toInt)) ∧
        (0 ≤ offset.toInt → 1 ≤ limit.toInt → limit.toInt ≤ 0xffffffff →
          ∃ c, decode text = .ok c ∧
            (c.offset.toNat : Int) = offset.toInt ∧ (c.limit.toNat : Int) = limit.toInt))) ∧
    ∀ (text : String) (c : Cursor), decode text = .ok c →
      c.offset.toNat ≤ 0x7fffffffffffffff ∧ 1 ≤ c.limit.toNat ∧ decode c.encode = .ok c := by
  constructor
  · intro members text offset limit carries gives
    refine ⟨carries.decode_of_not_named, fun named => ?_⟩
    have small := offset.toInt_lt
    rw [carries.decode_of_named gives named]
    exact ⟨ofSigned_of_neg _, ofSigned_of_badLimit,
      fun h => exists_ofSigned_eq_ok h (by omega)⟩
  · intro text c read
    obtain ⟨small, positive⟩ := bounds_of_decode_eq_ok read
    exact ⟨small, positive, (c.decode_encode_eq_ok_iff positive).2 small⟩

/-- The offset may come last, behind a string that is no text, with blank space around. -/
theorem decode_classifies_spaced :
    let members : List (List Json.StringUnit × Json.Written) :=
      [(Json.textUnits "limit", .number (.ofInt 20)),
        (Json.textUnits "x", .string [.escape 0xd800]),
        (Json.textUnits "offset", .number (.ofInt 40))]
    let text := " eyJsaW1pdCI6IDIwICwieCI6Ilx1ZDgwMCIsIm9mZnNldCI6NDB9\n"
    Carries members text ∧ Gives members 40 20 ∧ Json.Named members ∧
      ∃ c, decode text = .ok c ∧ c.offset.toNat = 40 ∧ c.limit.toNat = 20 ∧
        decode c.encode = .ok c := by
  intro members text
  have carries : Carries members text := by
    have space : Json.Spaces [0x20] := by simp [Json.Spaces, Json.isSpace]
    have limit := Json.MemberText.named .nil (Json.unitsText_textUnits "limit") .nil
      (.spaced space (.number (Json.numeralText_ofInt 20)) space)
    have x := Json.memberText_quote "x" (.string unitsText_surrogate)
    have offset := Json.memberText_quote "offset" (.number (Json.numeralText_ofInt 40))
    have object := (Json.ValueText.object (.cons limit (.cons x (.last offset)))).item
    exact Carries.of_object [' '] ['\n'] object rfl rfl (by decide +kernel)
  have gives : Gives members 40 20 :=
    ⟨by simp [members, Json.valuesOf], by simp [members, Json.valuesOf]⟩
  have named : Json.Named members := by simp [members, Json.Named]
  obtain ⟨-, -, accepts⟩ := (decode_classifies.1 members text 40 20 carries gives).2 named
  obtain ⟨c, read, offset, limit⟩ := accepts (by decide) (by decide) (by decide)
  obtain ⟨-, -, again⟩ := decode_classifies.2 text c read
  exact ⟨carries, gives, named, c, read, Int.ofNat_inj.1 offset, Int.ofNat_inj.1 limit, again⟩

/-- Beside a member that has no text for its name, not even a valid cursor is found. -/
theorem not_read_beside_surrogate :
    let members : List (List Json.StringUnit × Json.Written) :=
      [([.escape 0xd800], .number (.ofInt 0)), (Json.textUnits "offset", .number (.ofInt 0)),
        (Json.textUnits "limit", .number (.ofInt 1))]
    let text := "eyJcdWQ4MDAiOjAsIm9mZnNldCI6MCwibGltaXQiOjF9"
    Carries members text ∧ Gives members 0 1 ∧ decode text = .error .format := by
  intro members text
  have carries : Carries members text := by
    have surrogate := Json.MemberText.named .nil unitsText_surrogate .nil
      (Json.ValueText.number (Json.numeralText_ofInt 0)).item
    have offset := Json.memberText_quote "offset" (.number (Json.numeralText_ofInt 0))
    have limit := Json.memberText_quote "limit" (.number (Json.numeralText_ofInt 1))
    have object := (Json.ValueText.object (.cons surrogate (.cons offset (.last limit)))).item
    exact Carries.of_object [] [] object rfl rfl (by decide +kernel)
  have noText : Json.unitText? [.escape 0xd800] = none := by decide
  have gives : Gives members 0 1 :=
    ⟨by simp [members, Json.valuesOf, noText], by simp [members, Json.valuesOf, noText]⟩
  have unnamed : ¬ Json.Named members := by simp [members, Json.Named, noText]
  exact ⟨carries, gives, carries.decode_of_not_named unnamed⟩

end Rowset.Cursor
