import Rowset.Proofs.Json.Printed

/-!
# Documents read back

What is read off a printed value is that value again, as long as it does not nest deeper than its
reader allows; one that does is refused. Bringing a document into canonical form changes nothing,
since it is in that form already.
-/

namespace Rowset.Json

/-! ## Values -/

theorem number?_ofInt {n : Int} (bounds : -0x8000000000000000 ≤ n ∧ n ≤ 0xffffffffffffffff) :
    (Numeral.ofInt n).number? = some (.integer n bounds) := by
  simp [Numeral.number?, integer?_ofInt bounds, bounds]

mutual

/-- A printed value is read within its depth, and within no less. -/
theorem json?_written : (limit : Nat) → (j : Json) → (h : j.FloatFree) →
    (j.written h).json? limit = if j.depth ≤ limit then some j else none
  | _, .null, _ => rfl
  | _, .bool _, _ => rfl
  | _, .number (.integer n bounds), _ => by simp [written, Written.json?, number?_ofInt bounds, depth]
  | _, .string s, _ => by simp [written, Written.json?, depth]
  | 0, .array _, _ => rfl
  | 0, .object _, _ => rfl
  | limit + 1, .array xs, h => by
    rw [written, Written.json?, jsonItems?_writtenItems limit xs h, depth]
    split <;> simp_all
  | limit + 1, .object ms, h => by
    rw [written, Written.json?, jsonMembers?_writtenMembers limit ms h, depth]
    split <;> simp_all

theorem jsonItems?_writtenItems : (limit : Nat) → (xs : List Json) → (h : FloatFreeItems xs) →
    jsonItems? limit (writtenItems xs h) = if depthItems xs ≤ limit then some xs else none
  | _, [], _ => rfl
  | limit, x :: xs, h => by
    rw [writtenItems, jsonItems?, json?_written limit x h.1, jsonItems?_writtenItems limit xs h.2,
      depthItems]
    simp only [Nat.max_le]
    by_cases first : x.depth ≤ limit <;> by_cases others : depthItems xs ≤ limit <;>
      simp [first, others]

theorem jsonMembers?_writtenMembers : (limit : Nat) → (ms : List (String × Json)) →
    (h : FloatFreeMembers ms) →
    jsonMembers? limit (writtenMembers ms h) = if depthMembers ms ≤ limit then some ms else none
  | _, [], _ => rfl
  | limit, (k, x) :: ms, h => by
    rw [writtenMembers, jsonMembers?, json?_written limit x h.1,
      jsonMembers?_writtenMembers limit ms h.2, depthMembers, unitText?_textUnits]
    simp only [Nat.max_le]
    by_cases first : x.depth ≤ limit <;> by_cases others : depthMembers ms ≤ limit <;>
      simp [first, others]

end

/-! ## Canonical form -/

/-- A name before all others is put in front. -/
theorem place_of_ascending {name : String} {value : Json} {ms : List (String × Json)}
    (h : Ascending ((name, value) :: ms)) : place name value ms = (name, value) :: ms := by
  cases ms with
  | nil => rfl
  | cons m ms =>
    obtain ⟨k, v⟩ := m
    have lt : name < k := (List.pairwise_cons.1 h).1 (k, v) List.mem_cons_self
    rw [place, if_pos lt]

mutual

theorem normalize_of_canonical : (j : Json) → j.Canonical → j.normalize = j
  | .null, _ | .bool _, _ | .number _, _ | .string _, _ => rfl
  | .array xs, h => by rw [normalize, normalizeItems_of_canonical xs h]
  | .object ms, h => by rw [normalize, normalizeMembers_of_canonical ms h.1 h.2]

theorem normalizeItems_of_canonical : (xs : List Json) → CanonicalItems xs → normalizeItems xs = xs
  | [], _ => rfl
  | x :: xs, h => by
    rw [normalizeItems, normalize_of_canonical x h.1, normalizeItems_of_canonical xs h.2]

theorem normalizeMembers_of_canonical : (ms : List (String × Json)) → Ascending ms →
    CanonicalMembers ms → normalizeMembers ms = ms
  | [], _, _ => rfl
  | (k, x) :: ms, ascending, h => by
    have others := normalizeMembers_of_canonical ms (List.pairwise_cons.1 ascending).2 h.2
    rw [normalizeMembers, normalize_of_canonical x h.1, others, place_of_ascending ascending]

end

/-- A document is the document of its own value. -/
@[simp] theorem Document.ofJson_value (d : Document) : ofJson d.value = d := by
  obtain ⟨value, canonical⟩ := d
  rw [ofJson, Document.mk.injEq]
  exact normalize_of_canonical value canonical

end Rowset.Json
