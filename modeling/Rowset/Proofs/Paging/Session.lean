import Mathlib.Algebra.Ring.Int.Defs
import Mathlib.Data.List.Induction
import Rowset.Proofs.Paging.Walk

/-!
# Sessions of moves

A session starts on the first page and makes moves, on or back, each from the page that the last one
led to and by a page size of its own. Nothing but a token connects a page with the next, yet a
session always knows where it is: it stands at the signed sum of its moves, and it falls off the
list with the first move that takes this sum below zero. That holds as long as the pages that moves
start from lie in the signed range, whose tokens can be read back.
-/

namespace Rowset

/-! ## Moves -/

/-- A move from a page: which way, and the page size asked for. -/
structure Move where
  direction : Direction
  first : Option String := none

namespace Move

/-- The request for a move from the page with a token. -/
def request (m : Move) (token : Option String) : PageRequest :=
  match m.direction with
  | .after => { first := m.first, after := token }
  | .before => { first := m.first, before := token }

/-- The step that makes a move from the page of an earlier step. -/
def step (m : Move) (page : Nat) : SessionStep :=
  match m.direction with
  | .after => { request := { first := m.first }, afterStep := some page }
  | .before => { request := { first := m.first }, beforeStep := some page }

theorem resolve_step (m : Move) (page : Nat) (earlier : List PageDirective) :
    (m.step page).resolve earlier = m.request (earlierToken earlier page) := by
  unfold step request
  cases m.direction <;> rfl

@[simp] theorem first_request (m : Move) (token : Option String) :
    (m.request token).first = m.first := by
  unfold request
  cases m.direction <;> rfl

theorem cursor?_request (m : Move) (c : Cursor) :
    (m.request (some c.encode)).cursor? = some (m.direction, c.encode) := by
  unfold request PageRequest.cursor?
  cases m.direction with
  | after => rw [PageRequest.followable_encode]
  | before =>
    show (PageRequest.followable (some c.encode)).map _ = _
    rw [PageRequest.followable_encode]
    rfl

end Move

/-! ## Pages at signed offsets -/

/-- The page at a signed offset; before the first row there is none. -/
def PageDirective.atPlace (place : Int) (limit : UInt32) : PageDirective :=
  if 0 ≤ place then atCursor ⟨UInt64.ofNat place.toNat, limit⟩ else suppressed limit

namespace PageDirective

variable {place : Int}

theorem atPlace_toNat (offset : UInt64) (limit : UInt32) :
    atPlace offset.toNat limit = atCursor ⟨offset, limit⟩ := by
  rw [atPlace, if_pos (Int.natCast_nonneg _), Int.toNat_natCast, UInt64.ofNat_toNat]

@[simp] theorem limit_atPlace (place : Int) (limit : UInt32) :
    (atPlace place limit).limit = limit := by
  unfold atPlace
  split <;> rfl

theorem offset_atPlace (h : 0 ≤ place) (limit : UInt32) :
    (atPlace place limit).offset = some (UInt64.ofNat place.toNat) := by
  rw [atPlace, if_pos h]
  rfl

theorem atPlace_of_neg (h : place < 0) (limit : UInt32) : atPlace place limit = suppressed limit :=
  if_neg (Int.not_le.2 h)

end PageDirective

namespace Cursor

/-- Going back leads before the first row or to the page so many rows before. -/
theorem step?_before (c : Cursor) (limit : UInt32) : c.step? .before limit =
    if limit.toNat ≤ c.offset.toNat then some ⟨c.offset - limit.toUInt64, limit⟩ else none := rfl

/-- How far a step leads. -/
def shift : Direction → UInt32 → Int
  | .after, limit => limit.toNat
  | .before, limit => -limit.toNat

theorem shift_lt (direction : Direction) (limit : UInt32) :
    shift direction limit < 0x100000000 := by
  have size := limit.toNat_lt
  cases direction with
  | after =>
    simp only [shift]
    omega
  | before =>
    simp only [shift]
    omega

end Cursor

namespace Paginator

open PageDirective

/-- Following a token that can be read leads as far from its offset as the step goes. -/
theorem follow_of_decode {token : String} {c : Cursor} (read : Cursor.decode token = .ok c)
    (direction : Direction) (limit : UInt32) : (follow direction token limit).directive =
      atPlace (c.offset.toNat + Cursor.shift direction limit) limit := by
  have small := Cursor.le_of_decode_eq_ok read
  rw [follow, read]
  cases direction with
  | after =>
    simp only [Cursor.step?_after small]
    rw [Resolution.directive, ← atPlace_toNat, Cursor.toNat_offset_add small, Int.natCast_add]
    rfl
  | before =>
    cases step : c.step? .before limit with
    | none =>
      have beyond : c.offset.toNat < limit.toNat := by simpa [Cursor.step?_before] using step
      have negative : (c.offset.toNat : Int) + Cursor.shift .before limit < 0 := by
        simp only [Cursor.shift]
        omega
      simp only [step]
      exact (atPlace_of_neg negative limit).symm
    | some next =>
      obtain ⟨size, place⟩ := Cursor.step?_before_eq_some step
      have there : (c.offset.toNat : Int) + Cursor.shift .before limit = next.offset.toNat := by
        simp only [Cursor.shift]
        omega
      simp only [step]
      rw [there, atPlace_toNat, ← size]
      rfl

/-! ## Sessions -/

/-- The page that a move leads to. -/
def move (p : Paginator) (d : PageDirective) (m : Move) : PageDirective :=
  p.directive (m.request d.cursor)

/-- The steps of a session: one for the first page, then one for each move from the page before. -/
def steps (first : Option String) (moves : List Move) : List SessionStep :=
  { request := { first } } :: moves.mapIdx fun page m => m.step page

/-- The page that a session is on after so many moves. -/
def page? (p : Paginator) (first : Option String) (moves : List Move) (count : Nat) :
    Option PageDirective :=
  ((p.session (steps first moves))[count]?).map Prod.snd

/-- How far a move leads. -/
def shift (p : Paginator) (m : Move) : Int :=
  Cursor.shift m.direction (p.settings.limitFor m.first)

/-- How far moves lead together. -/
def place (p : Paginator) (moves : List Move) : Int := (moves.map p.shift).sum

/-- The page size asked for last. -/
def lastSize (p : Paginator) (first : Option String) (moves : List Move) : UInt32 :=
  p.settings.limitFor ((moves.getLast?.map Move.first).getD first)

/-- Before each of so many moves, the page lies in the signed range. -/
def StaysWithin (p : Paginator) (moves : List Move) (count : Nat) : Prop :=
  ∀ k < count, 0 ≤ p.place (moves.take k) ∧ p.place (moves.take k) ≤ 0x7fffffffffffffff

variable {p : Paginator} {first : Option String} {moves : List Move} {count : Nat}

theorem place_append (p : Paginator) (moves more : List Move) :
    p.place (moves ++ more) = p.place moves + p.place more := by
  simp [place]

theorem place_take_succ {m : Move} (h : moves[count]? = some m) :
    p.place (moves.take (count + 1)) = p.place (moves.take count) + p.shift m := by
  rw [List.take_add_one, place_append, h]
  simp [place]

/-- The steps of moves that go on from a page lead to the pages of the moves. -/
theorem map_snd_go (p : Paginator) (before : List PageDirective) (d : PageDirective)
    (moves : List Move) :
    d :: (session.go p (before ++ [d])
        (moves.mapIdx fun i m => m.step (before.length + i))).map Prod.snd =
      moves.scanl p.move d := by
  induction moves generalizing before d with
  | nil => rfl
  | cons m moves ih =>
    have last : earlierToken (before ++ [d]) (before.length + 0) = d.cursor := by
      simp [earlierToken]
    have rest := ih (before ++ [d]) (p.move d m)
    rw [List.length_append, List.length_singleton] at rest
    simp only [List.mapIdx_cons, session.go, List.map_cons, Move.resolve_step, last,
      List.scanl_cons, ← Nat.add_assoc, Nat.add_right_comm _ _ 1]
    exact congrArg (d :: ·) rest

/-- A session is on the page that its moves lead to one after another. -/
theorem page?_eq (h : count ≤ moves.length) : p.page? first moves count =
    some ((moves.take count).foldl p.move (p.directive { first })) := by
  have run : (p.session (steps first moves)).map Prod.snd =
      moves.scanl p.move (p.directive { first }) := by
    have rest := map_snd_go p [] (p.directive { first }) moves
    simp only [List.length_nil, Nat.zero_add, List.nil_append] at rest
    exact rest
  rw [page?, ← List.getElem?_map, run, List.getElem?_scanl, if_pos h]

/-- A move from a page in the signed range leads as far as it says. -/
theorem move_atPlace {place : Int} {limit : UInt32} (low : 0 ≤ place)
    (high : place ≤ 0x7fffffffffffffff) (positive : 1 ≤ limit.toNat) (m : Move) :
    p.move (atPlace place limit) m =
      atPlace (place + p.shift m) (p.settings.limitFor m.first) := by
  have exact : (UInt64.ofNat place.toNat).toNat = place.toNat := by
    rw [UInt64.toNat_ofNat']
    omega
  let c : Cursor := ⟨UInt64.ofNat place.toNat, limit⟩
  have page : atPlace place limit = atCursor c := if_pos low
  have there : (c.offset.toNat : Int) = place := by
    show ((UInt64.ofNat place.toNat).toNat : Int) = place
    omega
  have read : Cursor.decode c.encode = .ok c := (c.decode_encode_eq_ok_iff positive).2 (by omega)
  rw [move, page, show (atCursor c).cursor = some c.encode from rfl,
    directive_of_cursor? (m.cursor?_request c), Move.first_request, follow_of_decode read, there]
  rfl

/-- As long as it stays within the signed range, a session stands at the sum of its moves. -/
theorem foldl_move_fresh (consistent : p.settings.IsConsistent)
    (within : p.StaysWithin moves moves.length) :
    moves.foldl p.move (p.directive { first }) =
      atPlace (p.place moves) (p.lastSize first moves) := by
  -- From the end, since the last move starts from where the others have led.
  induction moves using List.reverseRecOn with
  | nil => exact directive_of_fresh rfl
  | append_singleton moves m ih =>
    have before : p.StaysWithin moves moves.length := by
      intro k hk
      have there := within k (by simp; omega)
      rwa [List.take_append_of_le_length (Nat.le_of_lt hk)] at there
    have here := within moves.length (by simp)
    rw [List.take_left] at here
    have positive : 1 ≤ (p.lastSize first moves).toNat :=
      (PageSettings.limitFor_bounds consistent _).1
    rw [List.foldl_append, ih before]
    simp only [List.foldl_cons, List.foldl_nil]
    rw [move_atPlace here.1 here.2 positive, place_append]
    simp [place, lastSize]

theorem page?_eq_atPlace (consistent : p.settings.IsConsistent) (h : count ≤ moves.length)
    (within : p.StaysWithin moves count) : p.page? first moves count =
      some (atPlace (p.place (moves.take count)) (p.lastSize first (moves.take count))) := by
  have length : (moves.take count).length = count := by simp [h]
  rw [page?_eq h, foldl_move_fresh consistent]
  intro k hk
  rw [length] at hk
  rw [List.take_take, Nat.min_eq_left (Nat.le_of_lt hk)]
  exact within k hk

/-- One more move leads out of the signed range, but not out of the unsigned one. -/
theorem place_lt_of_staysWithin (h : count ≤ moves.length) (within : p.StaysWithin moves count) :
    p.place (moves.take count) < 0x10000000000000000 := by
  cases count with
  | zero => simp [place]
  | succ k =>
    have before := (within k (Nat.lt_succ_self k)).2
    have bound : p.shift moves[k] < 0x100000000 := Cursor.shift_lt _ _
    rw [place_take_succ (List.getElem?_eq_getElem h)]
    omega

theorem exists_offset_atPlace {place : Int} (low : 0 ≤ place) (high : place < 0x10000000000000000)
    (limit : UInt32) :
    ∃ offset, (atPlace place limit).offset = some offset ∧ (offset.toNat : Int) = place := by
  refine ⟨_, offset_atPlace low limit, ?_⟩
  rw [UInt64.toNat_ofNat']
  omega

/-- Going on and back again by the same size leads nowhere. -/
theorem place_take_add_two {size size' : Option String}
    (after : moves[count]? = some ⟨.after, size⟩)
    (before : moves[count + 1]? = some ⟨.before, size'⟩)
    (same : p.settings.limitFor size = p.settings.limitFor size') :
    p.place (moves.take (count + 2)) = p.place (moves.take count) := by
  rw [place_take_succ before, place_take_succ after, shift, shift, same]
  simp only [Cursor.shift]
  omega

/-- **A session stands at the signed sum of its moves**, as long as each of them starts within the
signed range, and the first one that takes the sum below zero gets no page. So where sessions stand
depends on the sums alone: with the same sum and the same last size they get the same page, and
going on and then back by the same size leads to the offset that they came from. -/
theorem session_stands_at_sum (settings : PageSettings) :
    let p := ofSettings settings
    (∀ first moves count, count ≤ moves.length → p.StaysWithin moves count →
      ∃ d, p.page? first moves count = some d ∧ d.limit = p.lastSize first (moves.take count) ∧
        (0 ≤ p.place (moves.take count) →
          ∃ offset, d.offset = some offset ∧ (offset.toNat : Int) = p.place (moves.take count)) ∧
        (p.place (moves.take count) < 0 → d.offset = none ∧ d.cursor = none ∧ d.sql = none)) ∧
    (∀ first moves count first' moves' count', count ≤ moves.length → count' ≤ moves'.length →
      p.StaysWithin moves count → p.StaysWithin moves' count' →
      p.place (moves.take count) = p.place (moves'.take count') →
      p.lastSize first (moves.take count) = p.lastSize first' (moves'.take count') →
      p.page? first moves count = p.page? first' moves' count') ∧
    (∀ first moves count size size', moves[count]? = some ⟨.after, size⟩ →
      moves[count + 1]? = some ⟨.before, size'⟩ →
      p.settings.limitFor size = p.settings.limitFor size' → p.StaysWithin moves (count + 2) →
      ∃ d e, p.page? first moves count = some d ∧ p.page? first moves (count + 2) = some e ∧
        e.offset = d.offset) := by
  intro p
  have consistent : p.settings.IsConsistent := settings.adjusted_isConsistent
  refine ⟨?_, ?_, ?_⟩
  · intro first moves count h within
    refine ⟨_, page?_eq_atPlace consistent h within, limit_atPlace _ _, ?_, ?_⟩
    · intro low
      exact exists_offset_atPlace low (place_lt_of_staysWithin h within) _
    · intro negative
      rw [atPlace_of_neg negative]
      exact ⟨rfl, rfl, rfl⟩
  · intro first moves count first' moves' count' h h' within within' sum size
    rw [page?_eq_atPlace consistent h within, page?_eq_atPlace consistent h' within', sum, size]
  · intro first moves count size size' after before same within
    have two : count + 2 ≤ moves.length := (List.getElem?_eq_some_iff.1 before).1
    have start : p.StaysWithin moves count := fun k hk => within k (by omega)
    have low := (within count (by omega)).1
    refine ⟨_, _, page?_eq_atPlace consistent (by omega) start,
      page?_eq_atPlace consistent two within, ?_⟩
    rw [place_take_add_two after before same, offset_atPlace low, offset_atPlace low]

/-- Five rows on, three back and three more back: the second move leads to the third row, the last
one out of the list. -/
theorem session_stands_at_sum_beyond_start :
    let p := ofSettings {}
    let moves : List Move := [⟨.after, "5"⟩, ⟨.before, "3"⟩, ⟨.before, "3"⟩]
    p.StaysWithin moves 3 ∧ p.place moves = -1 ∧
      (∃ d, p.page? none moves 2 = some d ∧ d.offset = some 2) ∧
      ∃ d, p.page? none moves 3 = some d ∧ d.offset = none ∧ d.cursor = none ∧ d.sql = none := by
  intro p moves
  have within : p.StaysWithin moves 3 := by
    unfold StaysWithin
    decide +kernel
  have sum : p.place moves = -1 := by decide +kernel
  have second : p.place (moves.take 2) = (2 : UInt64).toNat := by decide +kernel
  obtain ⟨stands, _⟩ := session_stands_at_sum {}
  obtain ⟨d, page, _, there, _⟩ := stands none moves 2 (by decide) fun k hk => within k (by omega)
  obtain ⟨e, last, _, _, out⟩ := stands none moves 3 (by decide) within
  obtain ⟨offset, found, value⟩ := there (second ▸ (by decide))
  have two : offset = 2 := UInt64.toNat_inj.1 (Int.ofNat_inj.1 (value.trans second))
  exact ⟨within, sum, ⟨d, page, two ▸ found⟩, e, last, out (sum ▸ (by decide))⟩

end Paginator

end Rowset
