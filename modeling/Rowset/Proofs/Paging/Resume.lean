import Rowset.Paging.Directive
import Rowset.Proofs.Paging.Sizes
import Rowset.Proofs.Paging.Token

/-!
# Going on from a page

A page can be taken up again if its token leads back to it. What a token says is read as signed
numbers, while a step counts in unsigned ones. So a step forward from the top of the signed range
gives a page whose own token is malformed, and a client that follows it is sent back to the first
page. There is no other way to such a page.
-/

namespace Rowset

/-! ## Steps -/

namespace Cursor

variable {c : Cursor}

theorem toNat_offset_add (h : c.offset.toNat ≤ 0x7fffffffffffffff) (limit : UInt32) :
    (c.offset + limit.toUInt64).toNat = c.offset.toNat + limit.toNat := by
  have small := limit.toNat_lt
  rw [UInt64.toNat_add, UInt32.toNat_toUInt64]
  omega

/-- From within the signed range there is always a page further on. -/
theorem step?_after (h : c.offset.toNat ≤ 0x7fffffffffffffff) (limit : UInt32) :
    c.step? .after limit = some ⟨c.offset + limit.toUInt64, limit⟩ := by
  have small := limit.toNat_lt
  exact if_pos (by omega)

theorem step?_before_eq_some {limit : UInt32} {next : Cursor}
    (h : c.step? .before limit = some next) :
    next.limit = limit ∧ next.offset.toNat + limit.toNat = c.offset.toNat := by
  have fits : limit.toNat ≤ c.offset.toNat ∧ ⟨c.offset - limit.toUInt64, limit⟩ = next := by
    simpa [step?] using h
  obtain ⟨le, rfl⟩ := fits
  have same : (c.offset - limit.toUInt64).toNat = c.offset.toNat - limit.toNat := by
    rw [UInt64.toNat_sub_of_le, UInt32.toNat_toUInt64]
    rwa [UInt64.le_iff_toNat_le, UInt32.toNat_toUInt64]
  refine ⟨rfl, ?_⟩
  show (c.offset - limit.toUInt64).toNat + limit.toNat = _
  omega

end Cursor

/-! ## Pages and their tokens -/

namespace PageDirective

/-- A page with an offset in the signed range and a token that leads back to it. -/
def Resumable (d : PageDirective) : Prop :=
  ∃ offset token, d.offset = some offset ∧ d.cursor = some token ∧
    offset.toNat ≤ 0x7fffffffffffffff ∧ Cursor.decode token = .ok ⟨offset, d.limit⟩

/-- A page beyond the signed range, whose token is malformed. -/
def Stranded (d : PageDirective) : Prop :=
  ∃ offset token, d.offset = some offset ∧ d.cursor = some token ∧
    0x7fffffffffffffff < offset.toNat ∧ Cursor.decode token = .error .format

theorem resumable_atCursor {c : Cursor} (h : 1 ≤ c.limit.toNat) :
    (atCursor c).Resumable ↔ c.offset.toNat ≤ 0x7fffffffffffffff := by
  constructor
  · rintro ⟨offset, token, ⟨⟩, _, small, _⟩
    exact small
  · intro small
    exact ⟨c.offset, c.encode, rfl, rfl, small, (c.decode_encode_eq_ok_iff h).2 small⟩

theorem stranded_atCursor (c : Cursor) :
    (atCursor c).Stranded ↔ 0x7fffffffffffffff < c.offset.toNat := by
  constructor
  · rintro ⟨offset, token, ⟨⟩, _, large, _⟩
    exact large
  · intro large
    refine ⟨c.offset, c.encode, rfl, rfl, large, ?_⟩
    rw [Cursor.decode_encode, if_neg (Nat.not_le_of_lt large)]

theorem not_resumable_suppressed (limit : UInt32) : ¬ (suppressed limit).Resumable := by
  rintro ⟨_, _, ⟨⟩, _⟩

theorem not_stranded_suppressed (limit : UInt32) : ¬ (suppressed limit).Stranded := by
  rintro ⟨_, _, ⟨⟩, _⟩

end PageDirective

/-! ## Pages of a request -/

namespace Paginator

open PageDirective

/-- Whether a request goes on from a page behind which the signed range ends. -/
def Overshoots (p : Paginator) (request : PageRequest) : Prop :=
  ∃ token c, request.cursor? = some (.after, token) ∧ Cursor.decode token = .ok c ∧
    0x7fffffffffffffff < c.offset.toNat + (p.settings.limitFor request.first).toNat

variable {p : Paginator} {request : PageRequest}

theorem not_overshoots_of_cursor? {direction : Direction} {token : String}
    (h : request.cursor? = some (direction, token)) (other : direction ≠ .after) :
    ¬ p.Overshoots request := by
  rintro ⟨_, _, hc, _⟩
  rw [h] at hc
  cases hc
  exact other rfl

theorem not_overshoots_of_decode {direction : Direction} {token : String} {e : CursorError}
    (h : request.cursor? = some (direction, token)) (he : Cursor.decode token = .error e) :
    ¬ p.Overshoots request := by
  rintro ⟨_, c, hc, hd, _⟩
  rw [h] at hc
  cases hc
  rw [he] at hd
  cases hd

theorem overshoots_iff_of_decode {token : String} {c : Cursor}
    (h : request.cursor? = some (.after, token)) (hd : Cursor.decode token = .ok c) :
    p.Overshoots request ↔
      0x7fffffffffffffff < c.offset.toNat + (p.settings.limitFor request.first).toNat := by
  constructor
  · rintro ⟨_, c', hc, hd', large⟩
    rw [h] at hc
    cases hc
    rw [hd] at hd'
    cases hd'
    exact large
  · intro large
    exact ⟨token, c, h, hd, large⟩

theorem directive_of_fresh (h : request.cursor? = none) :
    p.directive request = atCursor ⟨0, p.settings.limitFor request.first⟩ := by
  rw [directive, resolve, h]
  rfl

theorem directive_of_cursor? {direction : Direction} {token : String}
    (h : request.cursor? = some (direction, token)) : p.directive request =
      (follow direction token (p.settings.limitFor request.first)).directive := by
  rw [directive, resolve, h]

theorem directive_after {token : String} {c : Cursor}
    (h : request.cursor? = some (.after, token)) (hd : Cursor.decode token = .ok c) :
    p.directive request =
      atCursor ⟨c.offset + (p.settings.limitFor request.first).toUInt64,
        p.settings.limitFor request.first⟩ := by
  rw [directive_of_cursor? h, follow, hd]
  simp only [Cursor.step?_after (Cursor.le_of_decode_eq_ok hd)]
  rfl

/-- Whoever follows the token of a stranded page is back on the first page. -/
theorem follow_of_stranded {d : PageDirective} (h : d.Stranded) {token : String}
    (ht : d.cursor = some token) (direction : Direction) (limit : UInt32) :
    (follow direction token limit).directive = atCursor ⟨0, limit⟩ := by
  obtain ⟨_, _, _, found, _, malformed⟩ := h
  rw [ht] at found
  cases found
  rw [follow, malformed]
  rfl

/-- A page starts beyond the signed range only if a step overshoots it. -/
theorem directive_cases (p : Paginator) (request : PageRequest) :
    (p.directive request = suppressed (p.settings.limitFor request.first) ∧
        ¬ p.Overshoots request) ∨
      ∃ offset, p.directive request = atCursor ⟨offset, p.settings.limitFor request.first⟩ ∧
        (0x7fffffffffffffff < offset.toNat ↔ p.Overshoots request) := by
  have first : ¬ 0x7fffffffffffffff < (0 : UInt64).toNat := by decide
  cases hc : request.cursor? with
  | none =>
    refine .inr ⟨0, directive_of_fresh hc, iff_of_false first ?_⟩
    rintro ⟨_, _, found, _⟩
    rw [hc] at found
    cases found
  | some followed =>
    obtain ⟨direction, token⟩ := followed
    cases hd : Cursor.decode token with
    | error e =>
      have within : ¬ p.Overshoots request := not_overshoots_of_decode hc hd
      rw [directive_of_cursor? hc, follow, hd]
      cases e with
      | negative offset => exact .inl ⟨rfl, within⟩
      | encoding failure => exact .inr ⟨0, rfl, iff_of_false first within⟩
      | format => exact .inr ⟨0, rfl, iff_of_false first within⟩
      | badLimit limit => exact .inr ⟨0, rfl, iff_of_false first within⟩
    | ok c =>
      have small := Cursor.le_of_decode_eq_ok hd
      cases direction with
      | after =>
        refine .inr ⟨_, directive_after hc hd, ?_⟩
        rw [overshoots_iff_of_decode hc hd, Cursor.toNat_offset_add small]
      | before =>
        have within : ¬ p.Overshoots request := not_overshoots_of_cursor? hc nofun
        rw [directive_of_cursor? hc, follow, hd]
        cases step : c.step? .before (p.settings.limitFor request.first) with
        | none =>
          refine .inl ⟨?_, within⟩
          simp only [step]
          rfl
        | some next =>
          obtain ⟨size, place⟩ := Cursor.step?_before_eq_some step
          obtain ⟨offset, limit⟩ := next
          obtain rfl : limit = _ := size
          refine .inr ⟨offset, ?_, iff_of_false ?_ within⟩
          · simp only [step]
            rfl
          · show ¬ 0x7fffffffffffffff < offset.toNat
            have : offset.toNat + (p.settings.limitFor request.first).toNat = c.offset.toNat := place
            omega

/-- Every page can be taken up again but for those that a step over the end of the signed range
leads to, and those never can. -/
theorem directive_resumable_iff (settings : PageSettings) (request : PageRequest) :
    (((ofSettings settings).directive request).Resumable ↔
        ((ofSettings settings).directive request).isSuppressed = false ∧
          ¬ (ofSettings settings).Overshoots request) ∧
      (((ofSettings settings).directive request).Stranded ↔
        (ofSettings settings).Overshoots request) := by
  obtain ⟨positive, _⟩ := PageSettings.limitFor_bounds settings.adjusted_isConsistent request.first
  rcases directive_cases (ofSettings settings) request with ⟨page, within⟩ | ⟨offset, page, beyond⟩
  · rw [page]
    refine ⟨iff_of_false (not_resumable_suppressed _) ?_,
      iff_of_false (not_stranded_suppressed _) within⟩
    rintro ⟨⟨⟩, _⟩
  · rw [page, resumable_atCursor positive, stranded_atCursor, ← beyond, isSuppressed_atCursor]
    refine ⟨?_, Iff.rfl⟩
    rw [Nat.not_lt]
    exact ⟨fun small => ⟨rfl, small⟩, fun both => both.2⟩

/-- One row behind the greatest signed offset there is a page that nobody can go on from. -/
theorem not_resumable_behind_signed_end :
    let page := (ofSettings {}).directive
      { first := some "1", after := some "eyJvZmZzZXQiOjkyMjMzNzIwMzY4NTQ3NzU4MDcsImxpbWl0IjoxfQ" }
    page.isSuppressed = false ∧ page.offset = some 0x8000000000000000 ∧ ¬ page.Resumable := by
  intro page
  have place : page.offset = some 0x8000000000000000 := by decide +kernel
  refine ⟨by decide +kernel, place, ?_⟩
  rintro ⟨offset, token, found, _, small, _⟩
  rw [place] at found
  cases found
  exact absurd small (by decide)

end Paginator

end Rowset
