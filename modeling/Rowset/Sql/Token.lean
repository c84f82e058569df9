/-!
# The words of a statement

A statement's text is a row of tokens: words, numbers, parameters and single marks, with space
between them where they would otherwise run together.
-/

namespace Rowset.Sql

inductive Token where
  /-- A keyword or a name. -/
  | word (w : String)
  | number (n : Nat)
  /-- A parameter with its mark, such as `:name`, `$1` or `?`. -/
  | parameter (name : String)
  | mark (c : Char)
deriving DecidableEq, Repr

def isSpace (c : Char) : Bool := c == ' ' || c == '\t' || c == '\n' || c == '\x0c' || c == '\r'

/-- Characters that words may start with. -/
def isWordStart (c : Char) : Bool := c.isAlpha || c == '_' || 0x80 ≤ c.toNat

/-- Characters that words may go on with. -/
def isWordChar (c : Char) : Bool := isWordStart c || c.isDigit || c == '$'

def isMark (c : Char) : Bool := c == ',' || c == '(' || c == ')' || c == '=' || c == '.'

theorem length_dropWhile_le (p : Char → Bool) (cs : List Char) :
    (cs.dropWhile p).length ≤ cs.length := (List.dropWhile_suffix p).length_le

/-- Splits a text into tokens; a character that belongs to none makes it fail. -/
def tokens? : List Char → Option (List Token)
  | [] => some []
  | c :: cs =>
    if isSpace c then tokens? cs
    else if isWordStart c then
      (.word (String.ofList (c :: cs.takeWhile isWordChar)) :: ·) <$>
        tokens? (cs.dropWhile isWordChar)
    else if c.isDigit then
      (.number (Nat.ofDigitChars 10 (c :: cs.takeWhile Char.isDigit) 0) :: ·) <$>
        tokens? (cs.dropWhile Char.isDigit)
    else if c = '?' then
      (.parameter (String.ofList (c :: cs.takeWhile Char.isDigit)) :: ·) <$>
        tokens? (cs.dropWhile Char.isDigit)
    else if c = ':' ∨ c = '$' then
      match cs.takeWhile isWordChar with
      | [] => none
      | name =>
        (.parameter (String.ofList (c :: name)) :: ·) <$> tokens? (cs.dropWhile isWordChar)
    else if isMark c then (.mark c :: ·) <$> tokens? cs
    else none
termination_by cs => cs.length
decreasing_by
  all_goals
    simp only [List.length_cons]
    first
      | exact Nat.lt_succ_self _
      | exact Nat.lt_succ_of_le (length_dropWhile_le _ _)

end Rowset.Sql
