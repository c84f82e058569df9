import Mathlib.Data.List.TakeWhile
import Rowset.Sql.Parser

/-!
# Texts made of tokens

A text may be cut at a space or a mark: the tokens of the whole are those of the part before and
those of the part behind. So the tokens of a statement are found piece by piece, once its names and
parameters are known to be single tokens.
-/

namespace Rowset.Sql

/-! ## Separators -/

/-- Spaces and marks go on with nothing that stands before them, and nothing goes on with them. -/
def isSeparator (c : Char) : Bool := isSpace c || isMark c

theorem isWordChar_of_isSeparator {c : Char} (h : isSeparator c = true) : isWordChar c = false := by
  simp only [isSeparator, isSpace, isMark, Bool.or_eq_true, beq_iff_eq] at h
  rcases h with ((((rfl | rfl) | rfl) | rfl) | rfl) | ((((rfl | rfl) | rfl) | rfl) | rfl) <;> decide

theorem isDigit_of_isSeparator {c : Char} (h : isSeparator c = true) : c.isDigit = false := by
  have := isWordChar_of_isSeparator h
  simp_all [isWordChar]

/-- A separator stands on one side of the place where two texts meet. -/
def Apart (cs ds : List Char) : Prop :=
  (∀ c ∈ cs.getLast?, isSeparator c = true) ∨ ∀ d ∈ ds.head?, isSeparator d = true

/-- What a run of characters without separators takes from a text, it takes from the part before the
cut. -/
structure Spans (p : Char → Bool) (cs ds : List Char) : Prop where
  takeWhile_append : (cs ++ ds).takeWhile p = cs.takeWhile p
  dropWhile_append : (cs ++ ds).dropWhile p = cs.dropWhile p ++ ds
  apart : Apart (cs.dropWhile p) ds

theorem Apart.of_cons {c : Char} {cs ds : List Char} (h : Apart (c :: cs) ds) : Apart cs ds := by
  refine h.imp_left fun last => ?_
  cases cs with
  | nil => nofun
  | cons d cs => simpa using last

theorem isSeparator_eq_false {p : Char → Bool} (hp : ∀ c, isSeparator c = true → p c = false)
    {c : Char} (h : p c = true) : isSeparator c = false := by
  cases sep : isSeparator c with
  | false => rfl
  | true =>
    rw [hp c sep] at h
    cases h

theorem Apart.spans {p : Char → Bool} (hp : ∀ c, isSeparator c = true → p c = false) {c : Char}
    {cs ds : List Char} (h : Apart (c :: cs) ds) (hc : isSeparator c = false) : Spans p cs ds := by
  induction cs generalizing c with
  | nil =>
    have front : ∀ d ∈ ds.head?, isSeparator d = true := by
      refine h.resolve_left fun last => ?_
      have sep := last c rfl
      rw [hc] at sep
      cases sep
    cases ds with
    | nil => exact ⟨rfl, rfl, .inr front⟩
    | cons d ds =>
      have stop : ¬ p d = true := by simp [hp d (front d rfl)]
      exact ⟨List.takeWhile_cons_of_neg stop, List.dropWhile_cons_of_neg stop, .inr front⟩
  | cons d cs ih =>
    by_cases go : p d = true
    · have rest := ih h.of_cons (isSeparator_eq_false hp go)
      refine ⟨?_, ?_, ?_⟩
      · rw [List.cons_append, List.takeWhile_cons_of_pos go, List.takeWhile_cons_of_pos go,
          rest.takeWhile_append]
      · rw [List.cons_append, List.dropWhile_cons_of_pos go, List.dropWhile_cons_of_pos go,
          rest.dropWhile_append]
      · rw [List.dropWhile_cons_of_pos go]
        exact rest.apart
    · refine ⟨?_, ?_, ?_⟩
      · rw [List.cons_append, List.takeWhile_cons_of_neg go, List.takeWhile_cons_of_neg go]
      · rw [List.cons_append, List.dropWhile_cons_of_neg go, List.dropWhile_cons_of_neg go]
        rfl
      · rw [List.dropWhile_cons_of_neg go]
        exact h.of_cons

/-! ## Tokens of a text -/

/-- The tokens of two texts one behind the other. -/
theorem tokens?_append {cs ds : List Char} {ts us : List Token} (apart : Apart cs ds)
    (hcs : tokens? cs = some ts) (hds : tokens? ds = some us) :
    tokens? (cs ++ ds) = some (ts ++ us) := by
  have digits : ∀ c, isSeparator c = true → c.isDigit = false := fun _ => isDigit_of_isSeparator
  have words : ∀ c, isSeparator c = true → isWordChar c = false := fun _ =>
    isWordChar_of_isSeparator
  -- Along the scanner of the first text: what it takes in one go ends at the cut at the latest.
  fun_induction tokens? cs generalizing ts with
  | case1 =>
    cases hcs
    exact hds
  | case2 c cs space ih =>
    rw [List.cons_append, tokens?.eq_2, if_pos space]
    exact ih apart.of_cons hcs
  | case3 c cs space start ih =>
    have spans := apart.spans words (isSeparator_eq_false words (by simp [isWordChar, start]))
    obtain ⟨rest, hrest, rfl⟩ := Option.map_eq_some_iff.1 hcs
    rw [List.cons_append, tokens?.eq_2, if_neg space, if_pos start, spans.takeWhile_append,
      spans.dropWhile_append, ih spans.apart hrest]
    rfl
  | case4 c cs space start digit ih =>
    have spans := apart.spans digits (isSeparator_eq_false digits digit)
    obtain ⟨rest, hrest, rfl⟩ := Option.map_eq_some_iff.1 hcs
    rw [List.cons_append, tokens?.eq_2, if_neg space, if_neg start, if_pos digit,
      spans.takeWhile_append, spans.dropWhile_append, ih spans.apart hrest]
    rfl
  | case5 cs space start digit ih =>
    have spans := apart.spans digits (by decide)
    obtain ⟨rest, hrest, rfl⟩ := Option.map_eq_some_iff.1 hcs
    rw [List.cons_append, tokens?.eq_2, if_neg space, if_neg start, if_neg digit, if_pos rfl,
      spans.takeWhile_append, spans.dropWhile_append, ih spans.apart hrest]
    rfl
  | case6 => cases hcs
  | case7 c cs space start digit counted mark named ih =>
    have spans := apart.spans words (by rcases mark with rfl | rfl <;> decide)
    obtain ⟨rest, hrest, rfl⟩ := Option.map_eq_some_iff.1 hcs
    rw [List.cons_append, tokens?.eq_2, if_neg space, if_neg start, if_neg digit, if_neg counted,
      if_pos mark, spans.takeWhile_append, spans.dropWhile_append, ih spans.apart hrest]
    cases name : cs.takeWhile isWordChar with
    | nil => exact (named name).elim
    | cons d name => rfl
  | case8 c cs space start digit counted param mark ih =>
    obtain ⟨rest, hrest, rfl⟩ := Option.map_eq_some_iff.1 hcs
    rw [List.cons_append, tokens?.eq_2, if_neg space, if_neg start, if_neg digit, if_neg counted,
      if_neg param, if_pos mark, ih apart.of_cons hrest]
    rfl
  | case9 => cases hcs

/-! ## Names and parameters -/

def isWord : List Char → Bool
  | [] => false
  | c :: cs => isWordStart c && cs.all isWordChar

/-- Names of tables and columns: words that are no keywords. -/
def isName (w : String) : Bool := isWord w.toList && !reserved.contains (foldCase w)

/-- A parameter that is named. -/
def isParameter (p : String) : Bool :=
  match p.toList with
  | ':' :: name => !name.isEmpty && name.all isWordChar
  | _ => false

theorem isSpace_eq_false_of_isWordStart {c : Char} (h : isWordStart c = true) :
    isSpace c = false := by
  have words : ∀ c, isSeparator c = true → isWordChar c = false := fun _ =>
    isWordChar_of_isSeparator
  have sep := isSeparator_eq_false words (c := c) (by simp [isWordChar, h])
  simp_all [isSeparator]

theorem tokens?_word {w : String} (h : isWord w.toList = true) :
    tokens? w.toList = some [.word w] := by
  cases hw : w.toList with
  | nil =>
    rw [hw] at h
    cases h
  | cons c cs =>
    rw [hw] at h
    obtain ⟨start, all⟩ := Bool.and_eq_true_iff.1 h
    have inside := List.all_eq_true.1 all
    have whole : String.ofList (c :: cs) = w := by rw [← hw, String.ofList_toList]
    rw [tokens?.eq_2, isSpace_eq_false_of_isWordStart start, if_neg (by decide), if_pos start,
      List.takeWhile_eq_self_iff.2 inside, List.dropWhile_eq_nil_iff.2 inside, whole, tokens?.eq_1]
    rfl

theorem tokens?_parameter {p : String} (h : isParameter p = true) :
    tokens? p.toList = some [.parameter p] := by
  unfold isParameter at h
  split at h
  next name hp =>
    obtain ⟨nonempty, all⟩ := Bool.and_eq_true_iff.1 h
    have inside := List.all_eq_true.1 all
    have whole : String.ofList (':' :: name) = p := by rw [← hp, String.ofList_toList]
    rw [hp, tokens?.eq_2, if_neg (by decide), if_neg (by decide), if_neg (by decide),
      if_neg (by decide), if_pos (.inl rfl), List.takeWhile_eq_self_iff.2 inside,
      List.dropWhile_eq_nil_iff.2 inside, tokens?.eq_1]
    cases name with
    | nil => cases nonempty
    | cons d name =>
      show some [Token.parameter (String.ofList (':' :: d :: name))] = _
      rw [whole]
  next => cases h

end Rowset.Sql
