/-!
# Blank space

The characters that count as blank are those of the Unicode property White_Space. Trimming drops
them from the ends of a text and leaves everything between the ends as it is.
-/

namespace Rowset.Text

/-- The characters with the Unicode property White_Space, as code point ranges. -/
def blankRanges : List (Nat × Nat) :=
  [(0x09, 0x0D), (0x20, 0x20), (0x85, 0x85), (0xA0, 0xA0), (0x1680, 0x1680), (0x2000, 0x200A),
    (0x2028, 0x2029), (0x202F, 0x202F), (0x205F, 0x205F), (0x3000, 0x3000)]

/-- Blank characters separate words and carry nothing themselves. -/
def isBlank (c : Char) : Bool :=
  blankRanges.any fun (first, last) => first ≤ c.toNat && c.toNat ≤ last

def dropBlank (cs : List Char) : List Char := cs.dropWhile isBlank

def dropBlankEnd (cs : List Char) : List Char := (dropBlank cs.reverse).reverse

/-- Drops blank characters from both ends. -/
def trimmed (cs : List Char) : List Char := dropBlankEnd (dropBlank cs)

@[simp] theorem dropBlank_nil : dropBlank [] = [] := rfl
@[simp] theorem dropBlankEnd_nil : dropBlankEnd [] = [] := rfl
@[simp] theorem trimmed_nil : trimmed [] = [] := rfl

theorem dropBlank_cons_of_not {c : Char} {cs : List Char} (h : isBlank c = false) :
    dropBlank (c :: cs) = c :: cs := by simp [dropBlank, h]

theorem dropBlank_append {bs : List Char} (h : ∀ b ∈ bs, isBlank b = true) (cs : List Char) :
    dropBlank (bs ++ cs) = dropBlank cs := List.dropWhile_append_of_pos h

theorem dropBlankEnd_append {bs : List Char} (h : ∀ b ∈ bs, isBlank b = true) (cs : List Char) :
    dropBlankEnd (cs ++ bs) = dropBlankEnd cs := by
  rw [dropBlankEnd, List.reverse_append, dropBlank_append fun b hb => h b (List.mem_reverse.1 hb)]
  rfl

/-- Without blank characters there is nothing to drop. -/
theorem trimmed_eq_self {cs : List Char} (h : ∀ c ∈ cs, isBlank c = false) : trimmed cs = cs := by
  have front : ∀ ds : List Char, (∀ d ∈ ds, isBlank d = false) → dropBlank ds = ds := by
    intro ds hds
    cases ds with
    | nil => rfl
    | cons d ds => exact dropBlank_cons_of_not (hds d List.mem_cons_self)
  rw [trimmed, front cs h, dropBlankEnd, front cs.reverse (fun c hc => h c (List.mem_reverse.1 hc)),
    List.reverse_reverse]

/-- Blank characters around a text without any are dropped, and only they. -/
theorem trimmed_spaced {before cs after : List Char} (hb : ∀ b ∈ before, isBlank b = true)
    (ha : ∀ a ∈ after, isBlank a = true) (h : ∀ c ∈ cs, isBlank c = false) :
    trimmed (before ++ (cs ++ after)) = cs := by
  rw [trimmed, dropBlank_append hb]
  cases cs with
  | nil =>
    have none := dropBlank_append ha []
    rw [List.append_nil] at none
    rw [List.nil_append, none, dropBlank_nil, dropBlankEnd_nil]
  | cons c cs =>
    have inner := trimmed_eq_self h
    have first := h c List.mem_cons_self
    rw [trimmed, dropBlank_cons_of_not first] at inner
    rw [List.cons_append, dropBlank_cons_of_not first, ← List.cons_append, dropBlankEnd_append ha,
      inner]

def trim (s : String) : String := String.ofList (trimmed s.toList)

def trimEnd (s : String) : String := String.ofList (dropBlankEnd s.toList)

/-- Whether a text says nothing: it is empty or blank throughout. -/
def isBlankText (s : String) : Bool := s.toList.all isBlank

@[simp] theorem toList_trim (s : String) : (trim s).toList = trimmed s.toList := by simp [trim]

@[simp] theorem toList_trimEnd (s : String) : (trimEnd s).toList = dropBlankEnd s.toList := by
  simp [trimEnd]

end Rowset.Text
