/-!
# Quoted literals

A text literal stands between single quotes, and a quote inside it is written twice. A text that has
none may be put between quotes as it is.
-/

namespace Rowset.Text.Quoted

/-- The inside of a literal: every quote twice, all else once. -/
def encode : List Char → List Char
  | [] => []
  | c :: cs => if c = '\'' then '\'' :: '\'' :: encode cs else c :: encode cs

/-- A text between quotes, as it is. -/
def enclose (cs : List Char) : List Char := '\'' :: cs ++ ['\'']

/-- A text as a literal, quotes included. -/
def literal (cs : List Char) : List Char := '\'' :: encode cs ++ ['\'']

@[simp] theorem encode_nil : encode [] = [] := rfl

@[simp] theorem encode_quote (cs : List Char) :
    encode ('\'' :: cs) = '\'' :: '\'' :: encode cs := by
  simp [encode]

theorem encode_cons_of_ne {c : Char} (h : c ≠ '\'') (cs : List Char) :
    encode (c :: cs) = c :: encode cs := by simp [encode, h]

end Rowset.Text.Quoted
