import Rowset.Proofs.Paging.Session

/-!
# What the page of a request depends on

Two things settle the page of a request: the page size that it asks for and the token that it
follows. Of the token only the offset counts, and a page lies one page size on or back from there.
An offset that a token can name is small enough for a page further on, so going on never fails;
going back fails before the first row, and so does a token that points there itself. Without a
token that can be read, the page is the first one.
-/

namespace Rowset

open Rowset.Text

/-! ## The token that is followed -/

namespace PageRequest

/-- A request follows its token to go on after. If that is missing or blank, it follows its token to
go back before, unless that is missing or blank as well. -/
def Follows (r : PageRequest) (direction : Direction) (token : String) : Prop :=
  isBlankText token = false ∧
    match direction with
    | .after => r.after = some token
    | .before => (∀ other ∈ r.after, isBlankText other = true) ∧ r.before = some token

variable {r : PageRequest} {direction : Direction} {token : String}

theorem followable_eq_some_iff {given : Option String} :
    followable given = some token ↔ given = some token ∧ isBlankText token = false := by
  rw [followable, Option.filter_eq_some_iff, Bool.not_eq_true']

theorem followable_eq_none_iff {given : Option String} :
    followable given = none ↔ ∀ other ∈ given, isBlankText other = true := by
  rw [followable, Option.filter_eq_none_iff]
  simp

theorem cursor?_eq_some_iff : r.cursor? = some (direction, token) ↔ r.Follows direction token := by
  unfold cursor? Follows
  cases after : followable r.after with
  | some other =>
    obtain ⟨given, visible⟩ := followable_eq_some_iff.1 after
    cases direction with
    | after =>
      simp only [given, Option.some.injEq, Prod.mk.injEq, true_and]
      exact ⟨fun same => ⟨same ▸ visible, same⟩, And.right⟩
    | before => simp [given, visible]
  | none =>
    have blank := followable_eq_none_iff.1 after
    cases direction with
    | after =>
      refine iff_of_false (by simp) ?_
      rintro ⟨visible, given⟩
      rw [blank token given] at visible
      cases visible
    | before =>
      simp only [Option.map_eq_some_iff, Prod.mk.injEq, true_and, exists_eq_right,
        followable_eq_some_iff]
      exact ⟨fun ⟨given, visible⟩ => ⟨visible, blank, given⟩,
        fun ⟨visible, _, given⟩ => ⟨given, visible⟩⟩

theorem cursor?_eq_none_iff :
    r.cursor? = none ↔ ∀ direction token, ¬ r.Follows direction token := by
  simp only [← cursor?_eq_some_iff]
  constructor
  · intro none direction token found
    rw [none] at found
    cases found
  · intro never
    exact Option.eq_none_iff_forall_ne_some.2 fun followed => never followed.1 followed.2

end PageRequest

/-! ## Pages at signed offsets -/

/-- A directive for a signed offset: the page of a size there, with its token and its clause, or no
page where the offset lies before the first row. -/
structure PageDirective.IsAt (d : PageDirective) (place : Int) (limit : UInt32) : Prop where
  size : d.limit = limit
  page : 0 ≤ place → ∃ offset : UInt64, (offset.toNat : Int) = place ∧ d.offset = some offset ∧
    d.cursor = some (Cursor.encode ⟨offset, limit⟩) ∧
    d.sql = some ("LIMIT " ++ Decimal.natText limit.toNat ++
      " OFFSET " ++ Decimal.natText offset.toNat)
  noPage : place < 0 → d.offset = none ∧ d.cursor = none ∧ d.sql = none

namespace PageDirective

variable {place : Int} {limit : UInt32}

theorem isAt_atPlace (high : place < 0x10000000000000000) (limit : UInt32) :
    (atPlace place limit).IsAt place limit where
  size := limit_atPlace place limit
  page low := by
    refine ⟨UInt64.ofNat place.toNat, ?_, ?_⟩
    · rw [UInt64.toNat_ofNat']
      omega
    · rw [atPlace, if_pos low]
      exact ⟨rfl, rfl, rfl⟩
  noPage negative := by
    rw [atPlace_of_neg negative]
    exact ⟨rfl, rfl, rfl⟩

theorem IsAt.isSuppressed_iff {d : PageDirective} (h : d.IsAt place limit) :
    d.isSuppressed = true ↔ place < 0 := by
  rw [isSuppressed, Option.isNone_iff_eq_none]
  constructor
  · intro none
    by_contra low
    obtain ⟨offset, _, found, _⟩ := h.page (Int.not_lt.1 low)
    rw [none] at found
    cases found
  · intro negative
    exact (h.noPage negative).1

end PageDirective

/-! ## What tokens lead to -/

namespace Cursor

/-- Only offsets before the first row are reported as such. -/
theorem neg_of_decode_eq_negative {token : String} {offset : Int}
    (h : decode token = .error (.negative offset)) : offset < 0 := by
  obtain ⟨place, limit, _, checked⟩ := exists_ofSigned_eq h nofun nofun
  revert checked
  fun_cases ofSigned place limit with
  | case1 low =>
    rintro ⟨⟩
    exact low
  | case2 | case3 => rintro ⟨⟩

end Cursor

namespace Paginator

open PageDirective

variable {p : Paginator} {request : PageRequest} {direction : Direction} {token : String}

/-- A token that can be read leads one page size on or back from its offset. -/
theorem directive_of_follows {c : Cursor} (h : request.Follows direction token)
    (read : Cursor.decode token = .ok c) : p.directive request =
      atPlace (c.offset.toNat + Cursor.shift direction (p.settings.limitFor request.first))
        (p.settings.limitFor request.first) := by
  rw [directive_of_cursor? (PageRequest.cursor?_eq_some_iff.2 h), follow_of_decode read]

theorem directive_of_follows_negative {offset : Int} (h : request.Follows direction token)
    (read : Cursor.decode token = .error (.negative offset)) : p.directive request =
      atPlace offset (p.settings.limitFor request.first) := by
  rw [directive_of_cursor? (PageRequest.cursor?_eq_some_iff.2 h), follow, read,
    atPlace_of_neg (Cursor.neg_of_decode_eq_negative read)]
  rfl

/-- A token that cannot be read leads to the first page. -/
theorem directive_of_follows_error {e : CursorError} (h : request.Follows direction token)
    (read : Cursor.decode token = .error e) (other : ∀ offset, e ≠ .negative offset) :
    p.directive request = atPlace 0 (p.settings.limitFor request.first) := by
  rw [directive_of_cursor? (PageRequest.cursor?_eq_some_iff.2 h), follow, read]
  cases e with
  | negative offset => exact absurd rfl (other offset)
  | encoding _ | format | badLimit _ => rfl

theorem directive_of_not_follows (h : ∀ direction token, ¬ request.Follows direction token) :
    p.directive request = atPlace 0 (p.settings.limitFor request.first) :=
  directive_of_fresh (PageRequest.cursor?_eq_none_iff.2 h)

/-- **The page size and the followed token settle the page.** Without a token, or with one that
cannot be read, it is the first page, as for a request without tokens. A token before the first row
leads to no page. Any other leads one page size on or back from its offset, and there is always a
page further on. So tokens with the same offset lead to the same page, whatever their sizes, and a
token to go back before makes no difference beside one to go on after. -/
theorem directive_determined (settings : PageSettings) (request : PageRequest) :
    let p := ofSettings settings
    let limit := p.settings.limitFor request.first
    let fresh := p.directive { first := request.first }
    fresh.IsAt 0 limit ∧
      ((∀ direction token, ¬ request.Follows direction token) → p.directive request = fresh) ∧
      (∀ direction token e, request.Follows direction token → Cursor.decode token = .error e →
        (∀ offset, e ≠ .negative offset) → p.directive request = fresh) ∧
      (∀ direction token offset, request.Follows direction token →
        Cursor.decode token = .error (.negative offset) →
        offset < 0 ∧ (p.directive request).IsAt offset limit) ∧
      (∀ direction token c, request.Follows direction token → Cursor.decode token = .ok c →
        (p.directive request).IsAt (c.offset.toNat + Cursor.shift direction limit) limit ∧
        (direction = .after → (p.directive request).isSuppressed = false) ∧
        ∀ (request' : PageRequest) token' c', p.settings.limitFor request'.first = limit →
          request'.Follows direction token' → Cursor.decode token' = .ok c' →
          c'.offset = c.offset → p.directive request' = p.directive request) ∧
      ∀ token before, request.Follows .after token →
        p.directive { request with before } = p.directive request := by
  intro p limit fresh
  have first : fresh = atPlace 0 limit := directive_of_fresh rfl
  refine ⟨first ▸ isAt_atPlace (by decide) limit, ?_, ?_, ?_, ?_, ?_⟩
  · intro none
    rw [first, directive_of_not_follows none]
  · intro direction token e h read other
    rw [first, directive_of_follows_error h read other]
  · intro direction token offset h read
    have negative := Cursor.neg_of_decode_eq_negative read
    rw [directive_of_follows_negative h read]
    exact ⟨negative, isAt_atPlace (by omega) limit⟩
  · intro direction token c h read
    have small := Cursor.le_of_decode_eq_ok read
    have step := Cursor.shift_lt direction limit
    have high : c.offset.toNat + Cursor.shift direction limit < 0x10000000000000000 := by omega
    have page : (p.directive request).IsAt (c.offset.toNat + Cursor.shift direction limit) limit := by
      rw [directive_of_follows h read]
      exact isAt_atPlace high limit
    refine ⟨page, ?_, ?_⟩
    · rintro rfl
      rw [← Bool.not_eq_true, page.isSuppressed_iff]
      simp only [Cursor.shift]
      omega
    · intro request' token' c' size h' read' same
      rw [directive_of_follows h read, directive_of_follows h' read', size, same]
  · intro token before h
    have kept : ({ request with before } : PageRequest).Follows .after token := h
    rw [directive_of_cursor? (PageRequest.cursor?_eq_some_iff.2 h),
      directive_of_cursor? (PageRequest.cursor?_eq_some_iff.2 kept)]

/-- Ten rows on from the fortieth, by a token for pages of five thousand; and the first page for a
token that is no token, although the one beside it could be read. -/
theorem directive_determined_beside_other_token :
    let p := ofSettings {}
    let token := Cursor.encode ⟨40, 5000⟩
    let on : PageRequest := { first := some "10", after := some token, before := some "%" }
    let lost : PageRequest := { first := some "10", after := some "%", before := some token }
    on.Follows .after token ∧ lost.Follows .after "%" ∧
      (∃ offset : UInt64, (offset.toNat : Int) = 50 ∧ (p.directive on).offset = some offset) ∧
      p.directive lost = p.directive { first := some "10" } := by
  intro p token on lost
  have size : (p.settings.limitFor (some "10")).toNat = 10 := by decide +kernel
  have follows : on.Follows .after token := ⟨Cursor.isBlankText_encode _, rfl⟩
  have strays : lost.Follows .after "%" := ⟨by decide, rfl⟩
  have read : Cursor.decode token = .ok ⟨40, 5000⟩ :=
    (Cursor.decode_encode_eq_ok_iff ⟨40, 5000⟩ (by decide)).2 (by decide)
  refine ⟨follows, strays, ?_, ?_⟩
  · obtain ⟨_, _, _, _, page, _⟩ := directive_determined {} on
    obtain ⟨⟨_, there, _⟩, _⟩ := page .after token _ follows read
    have place : ((40 : UInt64).toNat : Int) + Cursor.shift .after (p.settings.limitFor on.first)
        = 50 := by
      simp only [Cursor.shift]
      rw [show on.first = some "10" from rfl, size]
      rfl
    obtain ⟨offset, value, found, _⟩ := there (place ▸ by decide)
    exact ⟨offset, value.trans place, found⟩
  · obtain ⟨_, _, fresh, _⟩ := directive_determined {} lost
    have fails : Cursor.decode "%" = .error (.encoding (.invalidByte 0 37)) := rfl
    refine fresh .after "%" _ strays fails fun offset same => ?_
    cases same

end Paginator

end Rowset
