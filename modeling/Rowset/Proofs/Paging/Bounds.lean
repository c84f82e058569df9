import Rowset.Proofs.Paging.Resolution
import Rowset.Proofs.Paging.Resume
import Rowset.Proofs.Paging.Sizes
import Rowset.Proofs.Sql.Texts

/-!
# The sizes of pages served

Whatever settings an endpoint was given, it serves pages of at least one row and of no more rows
than the adjusted settings allow, and none of the ways in which a request comes to its page changes
the size, nor does the size in a token that it follows. A page names its size in three places: in
the directive, in the clause for the query and in the token for the client. These agree, as numbers
that are read back from the texts and not only as texts.
-/

namespace Rowset

open Rowset.Text

/-! ## Numbers in a clause -/

namespace Sql

theorem isWordStart_of_isDigit {c : Char} (h : c.isDigit = true) : isWordStart c = false := by
  have digits : ∀ n < 58, 48 ≤ n → isWordStart (Char.ofNat n) = false := by decide
  obtain ⟨low, high⟩ := Json.toNat_of_isDigit h
  rw [← Char.ofNat_toNat c]
  exact digits c.toNat (by omega) low

theorem isSpace_of_isDigit {c : Char} (h : c.isDigit = true) : isSpace c = false := by
  have apart : isSeparator c = false :=
    isSeparator_eq_false (fun _ => isDigit_of_isSeparator) h
  exact (Bool.or_eq_false_iff.1 apart).1

/-- A number is a token of its own. -/
theorem tokens?_natText (n : Nat) : tokens? (Decimal.natText n).toList = some [.number n] := by
  have digits : ∀ c ∈ Decimal.ofNat n, c.isDigit = true := fun c => Decimal.isDigit_of_mem_ofNat
  have value : Nat.ofDigitChars 10 (Decimal.ofNat n) 0 = n := Decimal.toNat_ofNat n
  rw [Decimal.toList_natText]
  cases shape : Decimal.ofNat n with
  | nil => exact absurd shape (Decimal.ofNat_ne_nil n)
  | cons c cs =>
    rw [shape] at digits value
    have first : c.isDigit = true := digits c List.mem_cons_self
    have rest : ∀ d ∈ cs, d.isDigit = true := fun d hd => digits d (List.mem_cons_of_mem c hd)
    rw [tokens?.eq_2, isSpace_of_isDigit first, isWordStart_of_isDigit first, if_neg (by decide),
      if_neg (by decide), if_pos first, List.takeWhile_eq_self_iff.2 rest,
      List.dropWhile_eq_nil_iff.2 rest, value, tokens?.eq_1]
    rfl

/-- The clause of a page is read as a window of as many rows from its offset on. -/
theorem window?_clause (c : Cursor) :
    (tokens? (PageDirective.clause c).toList).bind window? =
      some (some ⟨c.limit.toNat, c.offset.toNat⟩, []) := by
  have limit : Leads "LIMIT " [.word "LIMIT"] := by decide +kernel
  have offset : Separates " OFFSET " (.word "OFFSET") := by decide +kernel
  have numbers := offset.tokens?_between (tokens?_natText c.limit.toNat)
    (tokens?_natText c.offset.toNat)
  have tokens := tokens?_lead _ limit numbers
  rw [PageDirective.clause, String.toList_append, String.toList_append, String.toList_append,
    List.append_assoc, List.append_assoc, tokens]
  rfl

end Sql

/-! ## Numbers in a token -/

theorem Cursor.parse?_text (c : Cursor) : parse? (String.ofList c.toJson.print) = some c := by
  have offset := c.offset.toNat_lt
  have limit := c.limit.toNat_lt
  have payload : Utf8.encode c.toJson.print = c.payload := rfl
  rw [parse?, String.toList_ofList, payload, ofBytes?_payload]
  show (readPair? _ _ _ _ _).bind _ = _
  rw [readPair?_object (by decide), Json.integer?_number (by omega), Json.integer?_number (by omega),
    if_pos (by omega), if_pos (by omega)]
  show some (Cursor.mk _ _) = _
  rw [Int.toNat_natCast, Int.toNat_natCast, UInt64.ofNat_toNat, UInt32.ofNat_toNat]

/-! ## Settings -/

namespace PageSettings

variable {s : PageSettings}

theorem adjusted_of_isConsistent (h : s.IsConsistent) : s.adjusted = s := by
  have positive : 1 ≤ s.defaultLimit.toNat := UInt32.le_iff_toNat_le.1 h.1
  have below : s.defaultLimit.toNat ≤ s.maxLimit.toNat := UInt32.le_iff_toNat_le.1 h.2
  have one : (1 : UInt32).toNat = 1 := rfl
  have most : max s.maxLimit 1 = s.maxLimit := by
    rw [← UInt32.toNat_inj, toNat_max, one]
    omega
  have fallback : min (max s.defaultLimit 1) s.maxLimit = s.defaultLimit := by
    rw [← UInt32.toNat_inj, toNat_min, toNat_max, one]
    omega
  rw [adjusted, most, fallback]

end PageSettings

/-! ## Pages -/

/-- A directive names a place throughout: as its page, in its clause as the query's reader reads it,
and in the payload of its token. -/
structure PageDirective.Names (d : PageDirective) (c : Cursor) : Prop where
  limit : d.limit = c.limit
  offset : d.offset = some c.offset
  clause : ∃ sql, d.sql = some sql ∧ (Sql.tokens? sql.toList).bind Sql.window? =
    some (some ⟨c.limit.toNat, c.offset.toNat⟩, [])
  token : ∃ token text, d.cursor = some token ∧
    Base64Url.decode (Utf8.encode token.toList) = .ok (Utf8.encode text.toList) ∧
    Cursor.parse? text = some c

namespace PageDirective

theorem names_atCursor (c : Cursor) : (atCursor c).Names c where
  limit := rfl
  offset := rfl
  clause := ⟨clause c, rfl, Sql.window?_clause c⟩
  token := by
    refine ⟨c.encode, String.ofList c.toJson.print, rfl, ?_, c.parse?_text⟩
    rw [Cursor.encode_eq_token, Cursor.token, String.toList_ofList, Base64Url.utf8_chars,
      Base64Url.decode_encode, String.toList_ofList]
    rfl

end PageDirective

namespace Paginator

open PageDirective

/-- **Every page is within the bounds of its endpoint.** Adjusting settings makes them consistent,
leaves consistent ones alone and is done once and for all. Under adjusted settings, whatever a client
sends, the page size is at least one and at most the greatest size, also where no page is served. A
positive number that is asked for is served as it is, of any length, or cut down to that size. A page
that is served names this very size throughout, beside its offset; one that is not names nothing. -/
theorem directive_within_bounds (settings : PageSettings) :
    settings.adjusted.IsConsistent ∧ (settings.IsConsistent → settings.adjusted = settings) ∧
      settings.adjusted.adjusted = settings.adjusted ∧ ({} : Paginator) = ofSettings {} ∧
      ∀ request : PageRequest,
        let d := (ofSettings settings).directive request
        let most := settings.adjusted.maxLimit.toNat
        1 ≤ d.limit.toNat ∧ d.limit.toNat ≤ most ∧
          (∀ text n, request.first = some text → 1 ≤ n → Numeral.Spells (trimmed text.toList) n →
            d.limit.toNat = min n most) ∧
          (d.isSuppressed = true → d.cursor = none ∧ d.sql = none) ∧
          ∀ offset, d.offset = some offset → d.Names ⟨offset, d.limit⟩ := by
  have consistent := settings.adjusted_isConsistent
  refine ⟨consistent, PageSettings.adjusted_of_isConsistent,
    PageSettings.adjusted_of_isConsistent consistent, rfl, fun request => ?_⟩
  obtain ⟨low, high⟩ := PageSettings.limitFor_bounds consistent request.first
  have asked : ∀ text n, request.first = some text → 1 ≤ n →
      Numeral.Spells (trimmed text.toList) n →
      (settings.adjusted.limitFor request.first).toNat = min n settings.adjusted.maxLimit.toNat := by
    intro text n first positive spelled
    obtain ⟨limit, found, value⟩ := PageSettings.requestedLimit?_of_spells positive spelled
    rw [first, PageSettings.limitFor, found]
    exact value
  intro d most
  rcases directive_cases (ofSettings settings) request with ⟨page, -⟩ | ⟨place, page, -⟩
  · have none : d = suppressed (settings.adjusted.limitFor request.first) := page
    rw [none]
    exact ⟨low, high, asked, fun _ => ⟨rfl, rfl⟩, nofun⟩
  · have served : d = atCursor ⟨place, settings.adjusted.limitFor request.first⟩ := page
    rw [served]
    refine ⟨low, high, asked, nofun, ?_⟩
    rintro _ ⟨⟩
    exact names_atCursor _

/-- Settings that say nothing sensible, and a client that asks for more than 64 bits can count: a
single row is served, from the start for want of a token. -/
theorem directive_within_bounds_of_overrun :
    let settings : PageSettings := ⟨80, 0⟩
    let request : PageRequest := { first := some "+99999999999999999999", after := some "%" }
    let d := (ofSettings settings).directive request
    settings.adjusted = ⟨1, 1⟩ ∧ settings.adjusted.adjusted = settings.adjusted ∧
      d.limit.toNat = 1 ∧ d.offset = some 0 ∧ d.Names ⟨0, d.limit⟩ := by
  intro settings request d
  obtain ⟨-, -, again, -, served⟩ := directive_within_bounds settings
  obtain ⟨-, -, asked, -, named⟩ := served request
  have nines : trimmed "+99999999999999999999".toList = '+' :: List.replicate 20 '9' := by
    decide +kernel
  have spelled : Numeral.Spells (trimmed "+99999999999999999999".toList) 99999999999999999999 := by
    have digits : ∀ c ∈ List.replicate 20 '9', c.isDigit = true := by
      intro c hc
      rw [List.eq_of_mem_replicate hc]
      rfl
    rw [nines]
    exact .plus ⟨by simp, digits, by decide +kernel⟩
  have size := asked _ _ rfl (by omega) spelled
  have place : d.offset = some 0 := by decide +kernel
  have one : settings.adjusted = ⟨1, 1⟩ := by decide
  rw [one] at size
  exact ⟨one, again, size, place, named 0 place⟩

end Paginator

end Rowset
