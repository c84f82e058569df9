import Rowset.Json.Written

/-!
# The grammar of JSON texts

The texts of a written value, as a relation: which bytes are a numeral, a string literal, a value
with space around it. Space may stand wherever the grammar allows it, and the fraction, the exponent
and the characters of a string may be written in any of their forms.
-/

namespace Rowset.Json

/-! ## Lexemes -/

/-- Nothing but space. -/
def Spaces (bs : List UInt8) : Prop := ∀ b ∈ bs, isSpace b = true

theorem Spaces.nil : Spaces [] := nofun

/-- A row of at least one digit. -/
structure DigitRow (ds : List Char) : Prop where
  ne_nil : ds ≠ []
  digits : ∀ d ∈ ds, d.isDigit = true

/-- The digits of a whole number have no leading zero. -/
structure WholeRow (ds : List Char) : Prop extends DigitRow ds where
  plain : ∀ d rest, ds ≠ '0' :: d :: rest

inductive FractionText : Option (List Char) → List UInt8 → Prop
  | absent : FractionText none []
  | digits {ds : List Char} (h : DigitRow ds) :
    FractionText (some ds) (ascii '.' :: ds.map ascii)

inductive ExponentText : Option (Bool × List Char) → List UInt8 → Prop
  | absent : ExponentText none []
  | unsigned {e : UInt8} {ds : List Char} (he : e = ascii 'e' ∨ e = ascii 'E') (h : DigitRow ds) :
    ExponentText (some (false, ds)) (e :: ds.map ascii)
  | plus {e : UInt8} {ds : List Char} (he : e = ascii 'e' ∨ e = ascii 'E') (h : DigitRow ds) :
    ExponentText (some (false, ds)) (e :: ascii '+' :: ds.map ascii)
  | minus {e : UInt8} {ds : List Char} (he : e = ascii 'e' ∨ e = ascii 'E') (h : DigitRow ds) :
    ExponentText (some (true, ds)) (e :: ascii '-' :: ds.map ascii)

inductive NumeralText : Numeral → List UInt8 → Prop
  | positive {n : Numeral} {fs es : List UInt8} (sign : n.negative = false) (hw : WholeRow n.whole)
    (hf : FractionText n.fraction fs) (he : ExponentText n.exponent es) :
    NumeralText n (n.whole.map ascii ++ (fs ++ es))
  | negative {n : Numeral} {fs es : List UInt8} (sign : n.negative = true) (hw : WholeRow n.whole)
    (hf : FractionText n.fraction fs) (he : ExponentText n.exponent es) :
    NumeralText n (ascii '-' :: (n.whole.map ascii ++ (fs ++ es)))

/-- The inside of a string literal. -/
inductive UnitsText : List StringUnit → List UInt8 → Prop
  | nil : UnitsText [] []
  | byte {b : UInt8} {units : List StringUnit} {bs : List UInt8} (quote : b ≠ ascii '"')
    (backslash : b ≠ ascii '\\') (control : ¬ b < 0x20) (h : UnitsText units bs) :
    UnitsText (.byte b :: units) (b :: bs)
  | short {e : UInt8} {unit : Nat} {units : List StringUnit} {bs : List UInt8}
    (he : shortEscape? e = some unit) (h : UnitsText units bs) :
    UnitsText (.escape unit :: units) (ascii '\\' :: e :: bs)
  | hex {a b c d : UInt8} {unit : Nat} {units : List StringUnit} {bs : List UInt8}
    (hu : hexUnit? a b c d = some unit) (h : UnitsText units bs) :
    UnitsText (.escape unit :: units) (ascii '\\' :: ascii 'u' :: a :: b :: c :: d :: bs)

/-! ## Values -/

mutual

/-- A value without space around it. -/
inductive ValueText : Written → List UInt8 → Prop
  | null : ValueText .null (ascii 'n' :: [0x75, 0x6C, 0x6C])
  | boolTrue : ValueText (.bool true) (ascii 't' :: [0x72, 0x75, 0x65])
  | boolFalse : ValueText (.bool false) (ascii 'f' :: [0x61, 0x6C, 0x73, 0x65])
  | number {n : Numeral} {bs : List UInt8} (h : NumeralText n bs) : ValueText (.number n) bs
  | string {units : List StringUnit} {bs : List UInt8} (h : UnitsText units bs) :
    ValueText (.string units) (ascii '"' :: (bs ++ [ascii '"']))
  | emptyArray {ws : List UInt8} (h : Spaces ws) :
    ValueText (.array []) (ascii '[' :: (ws ++ [ascii ']']))
  | array {items : List Written} {bs : List UInt8} (h : ItemsText items bs) :
    ValueText (.array items) (ascii '[' :: (bs ++ [ascii ']']))
  | emptyObject {ws : List UInt8} (h : Spaces ws) :
    ValueText (.object []) (ascii '\x7b' :: (ws ++ [ascii '\x7d']))
  | object {members : List (List StringUnit × Written)} {bs : List UInt8}
    (h : MembersText members bs) :
    ValueText (.object members) (ascii '\x7b' :: (bs ++ [ascii '\x7d']))

/-- A value with space around it. -/
inductive ItemText : Written → List UInt8 → Prop
  | spaced {v : Written} {ws bs us : List UInt8} (hw : Spaces ws) (h : ValueText v bs)
    (hu : Spaces us) : ItemText v (ws ++ (bs ++ us))

/-- At least one item, with commas between. -/
inductive ItemsText : List Written → List UInt8 → Prop
  | last {v : Written} {bs : List UInt8} (h : ItemText v bs) : ItemsText [v] bs
  | cons {v : Written} {items : List Written} {bs cs : List UInt8} (h : ItemText v bs)
    (hs : ItemsText items cs) : ItemsText (v :: items) (bs ++ ascii ',' :: cs)

/-- A name and its value, with space around both. -/
inductive MemberText : List StringUnit × Written → List UInt8 → Prop
  | named {name : List StringUnit} {v : Written} {ws ns us bs : List UInt8} (hw : Spaces ws)
    (hn : UnitsText name ns) (hu : Spaces us) (h : ItemText v bs) :
    MemberText (name, v) (ws ++ ascii '"' :: (ns ++ ascii '"' :: (us ++ ascii ':' :: bs)))

/-- At least one member, with commas between. -/
inductive MembersText : List (List StringUnit × Written) → List UInt8 → Prop
  | last {m : List StringUnit × Written} {bs : List UInt8} (h : MemberText m bs) :
    MembersText [m] bs
  | cons {m : List StringUnit × Written} {members : List (List StringUnit × Written)}
    {bs cs : List UInt8} (h : MemberText m bs) (hs : MembersText members cs) :
    MembersText (m :: members) (bs ++ ascii ',' :: cs)

end

end Rowset.Json
