import Rowset.Paging.Cursor
import Rowset.Proofs.Json.Members
import Rowset.Proofs.Json.Printed
import Rowset.Proofs.Text.Base64Url

/-!
# Tokens read back

A token carries its payload through base64 unharmed, and the payload of a cursor is a text of the
grammar that names its offset and its page size. So reading a cursor's token comes down to reading
two numbers: the cursor comes back if its offset is one that a signed 64-bit number can hold and its
page size is not zero, and no cursor comes back from any other. The token itself tells all cursors
apart, since each of these stages can be undone.
-/

namespace Rowset

open Rowset.Text

/-! ## Bytes and characters -/

namespace Text.Base64Url

/-- The characters of a base64 text. -/
def chars (bytes : List UInt8) : List Char := (encode bytes).map Json.asciiChar

theorem exists_symbol_of_mem_chars {bytes : List UInt8} {c : Char} (h : c ∈ chars bytes) :
    ∃ n < 64, Json.asciiChar (symbol n) = c := by
  obtain ⟨b, hb, rfl⟩ := List.mem_map.1 h
  obtain ⟨n, hn, rfl⟩ := List.mem_map.1 hb
  exact ⟨n, lt_of_mem_sextets hn, rfl⟩

theorem isBlank_of_mem_chars {bytes : List UInt8} {c : Char} (h : c ∈ chars bytes) :
    isBlank c = false := by
  have symbols : ∀ n < 64, isBlank (Json.asciiChar (symbol n)) = false := by decide
  obtain ⟨n, small, rfl⟩ := exists_symbol_of_mem_chars h
  exact symbols n small

/-- Letters, digits, hyphens and underscores; no padding is among them. -/
theorem isAlphanum_of_mem_chars {bytes : List UInt8} {c : Char} (h : c ∈ chars bytes) :
    c.isAlphanum = true ∨ c = '-' ∨ c = '_' := by
  have symbols : ∀ n < 64, (Json.asciiChar (symbol n)).isAlphanum = true ∨
      Json.asciiChar (symbol n) = '-' ∨ Json.asciiChar (symbol n) = '_' := by decide
  obtain ⟨n, small, rfl⟩ := exists_symbol_of_mem_chars h
  exact symbols n small

theorem utf8_chars (bytes : List UInt8) : Utf8.encode (chars bytes) = encode bytes := by
  have each : ∀ ns : List Nat, (∀ n ∈ ns, n < 64) →
      Utf8.encode ((ns.map symbol).map Json.asciiChar) = ns.map symbol := by
    intro ns
    induction ns with
    | nil => intro _; rfl
    | cons n ns ih =>
      intro small
      have one : ∀ n < 64, String.utf8EncodeChar (Json.asciiChar (symbol n)) = [symbol n] := by
        decide
      rw [List.map_cons, List.map_cons, Utf8.encode_cons, one n (small n List.mem_cons_self),
        ih fun m hm => small m (List.mem_cons_of_mem _ hm)]
      rfl
  exact each (sextets bytes) fun n hn => lt_of_mem_sextets hn

theorem chars_injective {bytes others : List UInt8} (h : chars bytes = chars others) :
    bytes = others := by
  have same : encode bytes = encode others := by rw [← utf8_chars, h, utf8_chars]
  have read := decode_encode bytes
  rw [same, decode_encode] at read
  cases read
  rfl

end Text.Base64Url

namespace Cursor

/-! ## Tokens and payloads -/

/-- The token that carries a payload. -/
def token (payload : List UInt8) : String := String.ofList (Base64Url.chars payload)

/-- Blank characters around a token do not count. -/
theorem decode_spaced {before after : List Char} (hb : ∀ b ∈ before, isBlank b = true)
    (ha : ∀ a ∈ after, isBlank a = true) (payload : List UInt8) :
    decode (String.ofList (before ++ (Base64Url.chars payload ++ after))) = ofPayload payload := by
  rw [decode, String.toList_ofList,
    trimmed_spaced hb ha fun c => Base64Url.isBlank_of_mem_chars, Base64Url.utf8_chars,
    Base64Url.decode_encode]

theorem decode_token (payload : List UInt8) : decode (token payload) = ofPayload payload := by
  have none : ∀ c ∈ ([] : List Char), isBlank c = true := nofun
  have bare := decode_spaced none none payload
  rwa [List.nil_append, List.append_nil] at bare

/-- The payload of a cursor's token. -/
def payload (c : Cursor) : List UInt8 := Utf8.encode c.toJson.print

theorem encode_eq_token (c : Cursor) : c.encode = token c.payload := rfl

/-- A token is never blank, so it is never taken for a missing one. -/
theorem isBlankText_encode (c : Cursor) : isBlankText c.encode = false := by
  have start : Base64Url.chars c.payload ≠ [] := by
    intro none
    have read := Base64Url.decode_encode c.payload
    rw [List.map_eq_nil_iff.1 none] at read
    cases read
  obtain ⟨symbol, symbols, shape⟩ := List.exists_cons_of_ne_nil start
  have found : symbol ∈ Base64Url.chars c.payload := by
    rw [shape]
    exact List.mem_cons_self
  rw [encode_eq_token, token, isBlankText, String.toList_ofList, shape, List.all_cons,
    Base64Url.isBlank_of_mem_chars found]
  rfl

/-! ## The payload of a cursor -/

/-- Two members that occur once each are found by their names. -/
theorem readPair?_of_valuesOf {α β : Type} {first second : String} (ne : first ≠ second)
    (readFirst : Json.Written → Option α) (readSecond : Json.Written → Option β)
    {members : List (List Json.StringUnit × Json.Written)} (named : Json.Named members)
    {x y : Json.Written} (hx : Json.valuesOf members first = [x])
    (hy : Json.valuesOf members second = [y]) :
    readPair? first second readFirst readSecond (.object members) =
      (do return (← readFirst x, ← readSecond y)) := by
  have distinct : [first, second].Nodup := by simp [ne]
  have found := Json.selectMembers?_of_named distinct named (by simp [hx, hy])
  simp [readPair?, found, hx, hy]

theorem readPair?_of_not_named {α β : Type} (first second : String)
    (readFirst : Json.Written → Option α) (readSecond : Json.Written → Option β)
    {members : List (List Json.StringUnit × Json.Written)} (h : ¬ Json.Named members) :
    readPair? first second readFirst readSecond (.object members) = none := by
  rw [readPair?, Json.selectMembers?_of_not_named _ h]
  rfl

/-- The members of a printed pair are found by their names. -/
theorem readPair?_object {α β : Type} {first second : String} (ne : first ≠ second)
    (readFirst : Json.Written → Option α) (readSecond : Json.Written → Option β)
    (x y : Json.Written) :
    readPair? first second readFirst readSecond
        (.object [(Json.textUnits first, x), (Json.textUnits second, y)]) =
      (do return (← readFirst x, ← readSecond y)) := by
  apply readPair?_of_valuesOf ne
  · simp [Json.Named]
  · simp [Json.valuesOf, ne.symm]
  · simp [Json.valuesOf, ne]

theorem ofBytes?_payload (c : Cursor) : Json.Written.ofBytes? c.payload =
    some (.object [(Json.textUnits "offset", .number (.ofInt c.offset.toNat)),
      (Json.textUnits "limit", .number (.ofInt c.limit.toNat))]) :=
  Json.ofBytes?_print c.toJson ⟨trivial, trivial, trivial⟩

/-- A signed 64-bit number. -/
def signed? : Json.Written → Option Int :=
  Json.Written.integer? (-0x8000000000000000) 0x7fffffffffffffff

theorem ofPayload_eq (payload : List UInt8) : ofPayload payload =
    match (Json.Written.ofBytes? payload).bind (readPair? "offset" "limit" signed? signed?) with
    | some (offset, limit) => ofSigned offset limit
    | none => .error .format := rfl

/-- An offset beyond the signed range makes the payload malformed. -/
theorem ofPayload_payload (c : Cursor) : ofPayload c.payload =
    if c.offset.toNat ≤ 0x7fffffffffffffff then ofSigned c.offset.toNat c.limit.toNat
    else .error .format := by
  have offset := c.offset.toNat_lt
  have limit := c.limit.toNat_lt
  have signed : (-0x8000000000000000 : Int) ≤ c.limit.toNat ∧
      (c.limit.toNat : Int) ≤ 0x7fffffffffffffff := by omega
  rw [ofPayload_eq, ofBytes?_payload, Option.bind_some, readPair?_object (by decide), signed?,
    Json.integer?_number (by omega), Json.integer?_number (by omega), if_pos signed]
  by_cases h : c.offset.toNat ≤ 0x7fffffffffffffff
  · rw [if_pos h, if_pos (by omega)]
    rfl
  · rw [if_neg h, if_neg (by omega)]
    rfl

/-! ## Cursors read back -/

theorem decode_encode (c : Cursor) : decode c.encode =
    if c.offset.toNat ≤ 0x7fffffffffffffff then ofSigned c.offset.toNat c.limit.toNat
    else .error .format := by
  rw [encode_eq_token, decode_token, ofPayload_payload]

theorem ofSigned_toNat (c : Cursor) (h : 1 ≤ c.limit.toNat) :
    ofSigned c.offset.toNat c.limit.toNat = .ok c := by
  have limit := c.limit.toNat_lt
  have range : (1 : Int) ≤ c.limit.toNat ∧ (c.limit.toNat : Int) ≤ 0xffffffff := by omega
  rw [ofSigned, if_neg (by omega), if_pos range, Int.toNat_natCast, Int.toNat_natCast,
    UInt64.ofNat_toNat, UInt32.ofNat_toNat]

/-- A cursor with a positive size comes back exactly from offsets within the signed range. -/
theorem decode_encode_eq_ok_iff (c : Cursor) (h : 1 ≤ c.limit.toNat) :
    decode c.encode = .ok c ↔ c.offset.toNat ≤ 0x7fffffffffffffff := by
  rw [decode_encode, ofSigned_toNat c h]
  by_cases small : c.offset.toNat ≤ 0x7fffffffffffffff
  · rw [if_pos small]
    exact iff_of_true rfl small
  · rw [if_neg small]
    exact iff_of_false nofun small

/-! ## Tokens of different cursors -/

/-- A payload names both numbers, also those that cannot be read back as signed ones. -/
theorem payload_injective {c d : Cursor} (h : c.payload = d.payload) : c = d := by
  have written := ofBytes?_payload c
  rw [h, ofBytes?_payload d] at written
  simp only [Option.some.injEq, Json.Written.object.injEq, List.cons.injEq, Prod.mk.injEq,
    true_and, and_true] at written
  obtain ⟨offset, limit⟩ := written
  have number {m n : Nat} (hm : m < 0x10000000000000000) (hn : n < 0x10000000000000000)
      (same : Json.Written.number (.ofInt m) = .number (.ofInt n)) : m = n := by
    have read := congrArg (Json.Written.integer? 0 0xffffffffffffffff) same
    rw [Json.integer?_number (by omega), Json.integer?_number (by omega), if_pos (by omega),
      if_pos (by omega)] at read
    exact Int.ofNat_inj.1 (Option.some.inj read)
  have hc := c.limit.toNat_lt
  have hd := d.limit.toNat_lt
  have offsets := UInt64.toNat_inj.1 (number d.offset.toNat_lt c.offset.toNat_lt offset)
  have limits := UInt32.toNat_inj.1 (number (by omega) (by omega) limit)
  cases c
  cases d
  rw [Cursor.mk.injEq]
  exact ⟨offsets.symm, limits.symm⟩

theorem encode_injective {c d : Cursor} (h : c.encode = d.encode) : c = d := by
  rw [encode_eq_token, encode_eq_token, token, token] at h
  exact payload_injective (Base64Url.chars_injective (String.ofList_injective h))

/-! ## Cursors that are read -/

theorem bounds_of_signed?_eq_some {w : Json.Written} {n : Int} (h : signed? w = some n) :
    -0x8000000000000000 ≤ n ∧ n ≤ 0x7fffffffffffffff := by
  cases w with
  | number numeral =>
    obtain ⟨i, _, range⟩ := Option.bind_eq_some_iff.1 h
    split at range
    next bounds =>
      cases range
      exact bounds
    next => cases range
  | _ => cases h

theorem exists_of_readPair?_eq_some {α β : Type} {first second : String}
    {readFirst : Json.Written → Option α} {readSecond : Json.Written → Option β} {w : Json.Written}
    {a : α} {b : β} (h : readPair? first second readFirst readSecond w = some (a, b)) :
    (∃ x, readFirst x = some a) ∧ ∃ y, readSecond y = some b := by
  have both : ∀ x y, (do return (← readFirst x, ← readSecond y)) = some (a, b) →
      (∃ x, readFirst x = some a) ∧ ∃ y, readSecond y = some b := by
    intro x y read
    obtain ⟨a', ha, read⟩ := Option.bind_eq_some_iff.1 read
    obtain ⟨b', hb, read⟩ := Option.bind_eq_some_iff.1 read
    cases read
    exact ⟨⟨x, ha⟩, ⟨y, hb⟩⟩
  revert h
  fun_cases readPair? first second readFirst readSecond w with
  | case1 x y => exact both x y
  | case2 members =>
    intro h
    obtain ⟨found, _, h⟩ := Option.bind_eq_some_iff.1 h
    split at h
    next => exact both _ _ h
    next => cases h
  | case3 => nofun

/-- Unless a token is not base64 or its payload is malformed, it says two numbers, the first in the
signed range, and these are checked. -/
theorem exists_ofSigned_eq {token : String} {outcome : Except CursorError Cursor}
    (h : decode token = outcome) (encoded : ∀ failure, outcome ≠ .error (.encoding failure))
    (formed : outcome ≠ .error .format) :
    ∃ offset limit : Int, offset ≤ 0x7fffffffffffffff ∧ ofSigned offset limit = outcome := by
  unfold decode at h
  split at h
  next payload _ =>
    rw [ofPayload_eq] at h
    split at h
    next offset limit read =>
      obtain ⟨w, _, pair⟩ := Option.bind_eq_some_iff.1 read
      obtain ⟨⟨x, hx⟩, _⟩ := exists_of_readPair?_eq_some pair
      exact ⟨offset, limit, (bounds_of_signed?_eq_some hx).2, h⟩
    next => exact absurd h.symm formed
  next failure _ => exact absurd h.symm (encoded failure)

/-- A token leads neither beyond the signed range nor to pages without rows. -/
theorem bounds_of_decode_eq_ok {token : String} {c : Cursor} (h : decode token = .ok c) :
    c.offset.toNat ≤ 0x7fffffffffffffff ∧ 1 ≤ c.limit.toNat := by
  obtain ⟨offset, limit, small, checked⟩ := exists_ofSigned_eq h nofun nofun
  revert checked
  fun_cases ofSigned offset limit with
  | case1 | case3 => nofun
  | case2 low size =>
    rintro ⟨⟩
    rw [UInt64.toNat_ofNat', UInt32.toNat_ofNat']
    omega

theorem le_of_decode_eq_ok {token : String} {c : Cursor} (h : decode token = .ok c) :
    c.offset.toNat ≤ 0x7fffffffffffffff := (bounds_of_decode_eq_ok h).1

/-! ## The whole domain -/

/-- In the signed range nothing but a size of zero can be wrong with a cursor. -/
theorem decode_encode_eq_badLimit_iff (c : Cursor) :
    decode c.encode = .error (.badLimit 0) ↔
      c.offset.toNat ≤ 0x7fffffffffffffff ∧ c.limit.toNat = 0 := by
  rw [decode_encode]
  by_cases small : c.offset.toNat ≤ 0x7fffffffffffffff
  · rw [if_pos small]
    by_cases positive : 1 ≤ c.limit.toNat
    · rw [ofSigned_toNat c positive]
      exact iff_of_false nofun fun both => absurd both.2 (Nat.ne_of_gt positive)
    · have none : c.limit.toNat = 0 := by omega
      rw [none]
      exact iff_of_true rfl ⟨small, rfl⟩
  · rw [if_neg small]
    exact iff_of_false nofun fun both => small both.1

theorem decode_encode_eq_format_iff (c : Cursor) :
    decode c.encode = .error .format ↔ 0x7fffffffffffffff < c.offset.toNat := by
  rw [decode_encode]
  by_cases small : c.offset.toNat ≤ 0x7fffffffffffffff
  · rw [if_pos small]
    refine iff_of_false ?_ (Nat.not_lt.2 small)
    fun_cases ofSigned c.offset.toNat c.limit.toNat <;> nofun
  · rw [if_neg small]
    exact iff_of_true rfl (Nat.not_le.1 small)

/-- **Writing and reading a token are inverse exactly on the valid domain**, the cursors with an
offset in the signed range and a positive size. A size of zero is reported as such, an offset beyond
the signed range as a malformed payload. Different cursors have different tokens all the same, and
every token is of the URL-safe alphabet, without padding. -/
theorem codec_inverse_on_valid_domain (c : Cursor) :
    (decode c.encode = .ok c ↔ c.offset.toNat ≤ 0x7fffffffffffffff ∧ 1 ≤ c.limit.toNat) ∧
      (decode c.encode = .error (.badLimit 0) ↔
        c.offset.toNat ≤ 0x7fffffffffffffff ∧ c.limit.toNat = 0) ∧
      (decode c.encode = .error .format ↔ 0x7fffffffffffffff < c.offset.toNat) ∧
      (∀ d : Cursor, d.encode = c.encode ↔ d = c) ∧
      (∀ x ∈ c.encode.toList, x.isAlphanum = true ∨ x = '-' ∨ x = '_') ∧
      '=' ∉ c.encode.toList := by
  have alphabet : ∀ x ∈ c.encode.toList, x.isAlphanum = true ∨ x = '-' ∨ x = '_' := by
    intro x hx
    rw [encode_eq_token, token, String.toList_ofList] at hx
    exact Base64Url.isAlphanum_of_mem_chars hx
  refine ⟨?_, c.decode_encode_eq_badLimit_iff, c.decode_encode_eq_format_iff, ?_, alphabet, ?_⟩
  · constructor
    · intro read
      have small : c.offset.toNat ≤ 0x7fffffffffffffff := le_of_decode_eq_ok read
      refine ⟨small, Nat.pos_of_ne_zero fun none => ?_⟩
      rw [c.decode_encode_eq_badLimit_iff.2 ⟨small, none⟩] at read
      cases read
    · rintro ⟨small, positive⟩
      exact (c.decode_encode_eq_ok_iff positive).2 small
  · intro d
    constructor
    · exact encode_injective
    · rintro rfl
      rfl
  · intro padded
    have marks : ¬ ('='.isAlphanum = true ∨ '=' = '-' ∨ '=' = '_') := by decide
    exact marks (alphabet '=' padded)

/-- The last cursor that comes back, and the first one that does not. -/
example : (decode (encode ⟨0x7fffffffffffffff, 1⟩)).toOption = some ⟨0x7fffffffffffffff, 1⟩ ∧
    (decode (encode ⟨0x8000000000000000, 1⟩)).toOption = none := by
  decide +kernel

end Cursor

end Rowset
