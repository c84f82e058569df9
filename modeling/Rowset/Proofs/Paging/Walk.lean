import Rowset.Paging.Page
import Rowset.Proofs.Paging.Resume

/-!
# Walking through a list

A client walks forward through a list by following the token of each page as long as it gets one.
Each full page brings the walk one page size nearer to the end of the rows, and the first page that
is not full ends it. Whatever the offset, the pages still to come hold exactly the rows still to
come, which is the invariant of the walk.
-/

namespace Rowset

/-! ## Serving pages -/

/-- The rows of a run, by number. -/
def RowRange.rows (r : RowRange) : List Nat := List.range' r.start r.count

namespace PageDirective

/-- The page of `total` rows, numbered from zero, that a directive cuts out. -/
def serve (total : Nat) (d : PageDirective) : Page Nat := .ofRows (d.rowsOf total).rows d

variable {total : Nat} {c : Cursor}

theorem rows_serve_atCursor (total : Nat) (c : Cursor) : ((atCursor c).serve total).rows =
    List.range' c.offset.toNat (min (c.offset.toNat + c.limit.toNat) total - c.offset.toNat) := rfl

theorem cursor_serve_atCursor (total : Nat) (c : Cursor) :
    ((atCursor c).serve total).pagination.cursor =
      if ((atCursor c).serve total).rows.length < c.limit.toNat then none else some c.encode := rfl

/-- A page that reaches beyond the rows holds those that are left, and is the last. -/
theorem serve_of_short (place : c.offset.toNat ≤ total)
    (h : total < c.offset.toNat + c.limit.toNat) :
    ((atCursor c).serve total).rows = List.range' c.offset.toNat (total - c.offset.toNat) ∧
      ((atCursor c).serve total).pagination.cursor = none := by
  have rows := rows_serve_atCursor total c
  rw [Nat.min_eq_right (Nat.le_of_lt h)] at rows
  refine ⟨rows, ?_⟩
  rw [cursor_serve_atCursor, rows, List.length_range', if_pos (by omega)]

/-- A page within the rows is full and offers its token. -/
theorem serve_of_full (h : c.offset.toNat + c.limit.toNat ≤ total) :
    ((atCursor c).serve total).rows = List.range' c.offset.toNat c.limit.toNat ∧
      ((atCursor c).serve total).pagination.cursor = some c.encode := by
  have rows := rows_serve_atCursor total c
  rw [Nat.min_eq_left h, Nat.add_sub_cancel_left] at rows
  refine ⟨rows, ?_⟩
  rw [cursor_serve_atCursor, rows, List.length_range', if_neg (Nat.lt_irrefl _)]

end PageDirective

/-! ## Requests of a walk -/

namespace PageRequest

theorem followable_encode (c : Cursor) : followable (some c.encode) = some c.encode := by
  rw [followable, Option.filter_some, c.isBlankText_encode]
  rfl

theorem cursor?_goingAfter (r : PageRequest) (c : Cursor) :
    (r.goingAfter c.encode).cursor? = some (.after, c.encode) := by
  rw [cursor?, goingAfter, followable_encode]

end PageRequest

namespace Paginator

open PageDirective

/-- The directives of a forward walk through `total` rows, from a request on. -/
inductive Walk (p : Paginator) (total : Nat) : PageRequest → List PageDirective → Prop
  | last {request : PageRequest}
    (h : ((p.directive request).serve total).pagination.cursor = none) :
    Walk p total request [p.directive request]
  | next {request : PageRequest} {token : String} {rest : List PageDirective}
    (h : ((p.directive request).serve total).pagination.cursor = some token)
    (hs : Walk p total (request.goingAfter token) rest) :
    Walk p total request (p.directive request :: rest)

variable {p : Paginator} {total : Nat} {request : PageRequest}

theorem Walk.unique {ds es : List PageDirective} (h : p.Walk total request ds)
    (k : p.Walk total request es) : es = ds := by
  induction h generalizing es with
  | last hd =>
    cases k with
    | last _ => rfl
    | next hn _ =>
      rw [hd] at hn
      cases hn
  | next hd _ ih =>
    cases k with
    | last hn =>
      rw [hd] at hn
      cases hn
    | next hn ks =>
      rw [hd] at hn
      cases hn
      rw [ih ks]

/-- What a walk from an offset on has to come to: one page for every full page of rows that are
left and one more, none of them empty-handed, and together just those rows. -/
structure Serves (total limit offset : Nat) (ds : List PageDirective) : Prop where
  unsuppressed : ∀ d ∈ ds, d.isSuppressed = false
  length : ds.length = (total - offset) / limit + 1
  rows : ds.flatMap (fun d => (d.serve total).rows) = List.range' offset (total - offset)

theorem Serves.last {c : Cursor} (place : c.offset.toNat ≤ total)
    (short : total < c.offset.toNat + c.limit.toNat) :
    Serves total c.limit.toNat c.offset.toNat [atCursor c] where
  unsuppressed d hd := by
    obtain rfl := List.mem_singleton.1 hd
    rfl
  length := by
    rw [Nat.div_eq_of_lt (by omega)]
    rfl
  rows := by
    rw [List.flatMap_singleton]
    exact (serve_of_short place short).1

/-- A full page before the pages for the rows behind it. -/
theorem Serves.cons {c : Cursor} {ds : List PageDirective} (positive : 1 ≤ c.limit.toNat)
    (full : c.offset.toNat + c.limit.toNat ≤ total)
    (h : Serves total c.limit.toNat (c.offset.toNat + c.limit.toNat) ds) :
    Serves total c.limit.toNat c.offset.toNat (atCursor c :: ds) where
  unsuppressed d hd := by
    rcases List.mem_cons.1 hd with rfl | later
    · rfl
    · exact h.unsuppressed d later
  length := by
    have pages : (total - c.offset.toNat) / c.limit.toNat =
        (total - c.offset.toNat - c.limit.toNat) / c.limit.toNat + 1 :=
      Nat.div_eq_sub_div positive (by omega)
    rw [List.length_cons, h.length, pages, Nat.sub_add_eq]
  rows := by
    rw [List.flatMap_cons, (serve_of_full full).1, h.rows, List.range'_append_1]
    congr 1
    omega

/-- From an offset within the rows a walk serves all the rows that are left. -/
theorem exists_walk {limit : UInt32} (positive : 1 ≤ limit.toNat)
    (small : total ≤ 0x7fffffffffffffff) {offset : UInt64} (place : offset.toNat ≤ total)
    (size : p.settings.limitFor request.first = limit)
    (page : p.directive request = atCursor ⟨offset, limit⟩) :
    ∃ ds, p.Walk total request ds ∧ Serves total limit.toNat offset.toNat ds := by
  -- The rows that are left become fewer with every full page.
  induction left : total - offset.toNat using Nat.strongRecOn generalizing request offset with
  | ind n ih =>
    by_cases short : total < offset.toNat + limit.toNat
    · refine ⟨[p.directive request], .last ?_, ?_⟩
      · rw [page]
        exact (serve_of_short place short).2
      · rw [page]
        exact Serves.last (c := ⟨offset, limit⟩) place short
    · have full : offset.toNat + limit.toNat ≤ total := Nat.le_of_not_lt short
      have within : offset.toNat ≤ 0x7fffffffffffffff := Nat.le_trans place small
      let token := Cursor.encode ⟨offset, limit⟩
      have offered : ((p.directive request).serve total).pagination.cursor = some token := by
        rw [page]
        exact (serve_of_full full).2
      have size' : p.settings.limitFor (request.goingAfter token).first = limit := size
      have read : Cursor.decode token = .ok ⟨offset, limit⟩ :=
        (Cursor.decode_encode_eq_ok_iff ⟨offset, limit⟩ positive).2 within
      have page' : p.directive (request.goingAfter token) =
          atCursor ⟨offset + limit.toUInt64, limit⟩ := by
        rw [directive_after (request.cursor?_goingAfter ⟨offset, limit⟩) read, size']
      have place' : (offset + limit.toUInt64).toNat = offset.toNat + limit.toNat :=
        Cursor.toNat_offset_add (c := ⟨offset, limit⟩) within limit
      obtain ⟨ds, walk, serves⟩ := ih (total - (offset + limit.toUInt64).toNat) (by omega)
        (by omega) size' page' rfl
      refine ⟨p.directive request :: ds, .next offered walk, ?_⟩
      rw [place'] at serves
      rw [page]
      exact Serves.cons (c := ⟨offset, limit⟩) positive full serves

/-- **A forward walk serves every row exactly once and ends**, after as many pages as the rows fill
and one more. -/
theorem forward_walk (settings : PageSettings) (first : Option String) (total : Nat)
    (small : total ≤ 0x7fffffffffffffff) :
    ∃ ds, (ofSettings settings).Walk total { first } ds ∧
      (∀ es, (ofSettings settings).Walk total { first } es → es = ds) ∧
      (∀ d ∈ ds, d.isSuppressed = false) ∧
      ds.length = total / ((ofSettings settings).settings.limitFor first).toNat + 1 ∧
      ds.flatMap (fun d => (d.serve total).rows) = List.range total := by
  obtain ⟨positive, _⟩ := PageSettings.limitFor_bounds settings.adjusted_isConsistent first
  have fresh : (ofSettings settings).directive { first } =
      atCursor ⟨0, (ofSettings settings).settings.limitFor first⟩ := directive_of_fresh rfl
  have start : (0 : UInt64).toNat ≤ total := Nat.zero_le total
  obtain ⟨ds, walk, serves⟩ := exists_walk positive small start rfl fresh
  refine ⟨ds, walk, fun es => walk.unique, serves.unsuppressed, serves.length, ?_⟩
  rw [serves.rows, List.range_eq_range']
  rfl

/-- Rows that fill two pages exactly take three requests, the last of which gets an empty page. -/
theorem forward_walk_over_full_pages :
    40 ≤ 0x7fffffffffffffff ∧ ∃ ds, (ofSettings {}).Walk 40 { first := some "20" } ds ∧
      ds.length = 3 ∧ ds.flatMap (fun d => (d.serve 40).rows) = List.range 40 := by
  obtain ⟨ds, walk, _, _, length, rows⟩ := forward_walk {} (some "20") 40 (by decide)
  have size : ((ofSettings {}).settings.limitFor (some "20")).toNat = 20 := by decide +kernel
  rw [size] at length
  exact ⟨by decide, ds, walk, length, rows⟩

end Paginator

end Rowset
