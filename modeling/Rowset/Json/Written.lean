import Rowset.Json.Basic
import Rowset.Number.Scaled
import Rowset.Text.Hex
import Rowset.Text.Utf8

/-!
# JSON as written

Reading a JSON text has two stages. The first checks the grammar alone and keeps what was written:
string literals as their bytes and escapes, numbers as their digits. The second gives meaning to the
parts that are asked for. A part that nobody asks for therefore has to be well formed, but its
strings need not be texts and its numbers need not be in range.
-/

namespace Rowset.Json

open Rowset.Text

/-- A unit of a string literal. -/
inductive StringUnit where
  /-- A byte that stands for itself. -/
  | byte (b : UInt8)
  /-- An escape, which stands for a 16-bit code unit. -/
  | escape (unit : Nat)
deriving DecidableEq, Repr

/-- The digits of a number literal. -/
structure Numeral where
  negative : Bool
  whole : List Char
  /-- The digits behind the point; none are left out once there is a point. -/
  fraction : Option (List Char)
  /-- The sign and the digits of the exponent. -/
  exponent : Option (Bool × List Char)
deriving DecidableEq, Repr

/-- A JSON value as written. -/
inductive Written where
  | null
  | bool (b : Bool)
  | number (n : Numeral)
  | string (units : List StringUnit)
  | array (items : List Written)
  | object (members : List (List StringUnit × Written))

/-! ## Lexemes -/

/-- The byte of an ASCII character. -/
def ascii (c : Char) : UInt8 := c.val.toUInt8

/-- Space, tab, line feed and carriage return. -/
def isSpace (b : UInt8) : Bool := b == 0x20 || b == 0x09 || b == 0x0A || b == 0x0D

def skipSpace (bs : List UInt8) : List UInt8 := bs.dropWhile isSpace

def isDigit (b : UInt8) : Bool := 0x30 ≤ b && b ≤ 0x39

/-- The character of an ASCII byte. -/
def asciiChar (b : UInt8) : Char := Char.ofNat b.toNat

/-- Takes a row of digits off the front. -/
def takeDigits (bs : List UInt8) : List Char × List UInt8 :=
  ((bs.takeWhile isDigit).map asciiChar, bs.dropWhile isDigit)

/-- Takes a row of at least one digit off the front. -/
def someDigits? (bs : List UInt8) : Option (List Char × List UInt8) :=
  match takeDigits bs with
  | ([], _) => none
  | taken => some taken

/-- The digits before the point: a leading zero stands alone. -/
def wholeDigits? (bs : List UInt8) : Option (List Char × List UInt8) :=
  match someDigits? bs with
  | some ('0' :: _ :: _, _) => none
  | taken => taken

def fractionDigits? : List UInt8 → Option (Option (List Char) × List UInt8)
  | [] => some (none, [])
  | b :: bs =>
    if b = ascii '.' then (someDigits? bs).map fun (ds, rest) => (some ds, rest)
    else some (none, b :: bs)

def exponentDigits? : List UInt8 → Option (Option (Bool × List Char) × List UInt8)
  | [] => some (none, [])
  | b :: bs =>
    if b = ascii 'e' ∨ b = ascii 'E' then
      let (negative, bs) := match bs with
        | s :: rest =>
          if s = ascii '-' then (true, rest)
          else if s = ascii '+' then (false, rest)
          else (false, bs)
        | [] => (false, bs)
      (someDigits? bs).map fun (ds, rest) => (some (negative, ds), rest)
    else some (none, b :: bs)

/-- Takes a number literal off the front. -/
def numeral? (bs : List UInt8) : Option (Numeral × List UInt8) := do
  let (negative, bs) := match bs with
    | b :: rest => if b = ascii '-' then (true, rest) else (false, bs)
    | [] => (false, bs)
  let (whole, bs) ← wholeDigits? bs
  let (fraction, bs) ← fractionDigits? bs
  let (exponent, bs) ← exponentDigits? bs
  return (⟨negative, whole, fraction, exponent⟩, bs)

/-- The code unit of an escape of one letter. -/
def shortEscape? (b : UInt8) : Option Nat :=
  if b = ascii '"' ∨ b = ascii '\\' ∨ b = ascii '/' then some b.toNat
  else if b = ascii 'b' then some 0x08
  else if b = ascii 'f' then some 0x0C
  else if b = ascii 'n' then some 0x0A
  else if b = ascii 'r' then some 0x0D
  else if b = ascii 't' then some 0x09
  else none

/-- The code unit of four hexadecimal digits. -/
def hexUnit? (a b c d : UInt8) : Option Nat := do
  let a ← Hex.value? (asciiChar a)
  let b ← Hex.value? (asciiChar b)
  let c ← Hex.value? (asciiChar c)
  let d ← Hex.value? (asciiChar d)
  return 4096 * a + 256 * b + 16 * c + d

/-- Takes the rest of a string literal off the front, up to its closing quote. Control characters
have to be escaped. -/
def stringUnits? : List UInt8 → Option (List StringUnit × List UInt8)
  | [] => none
  | b :: bs =>
    if b = ascii '"' then some ([], bs)
    else if b = ascii '\\' then
      match bs with
      | [] => none
      | e :: bs =>
        if e = ascii 'u' then
          match bs with
          | h₃ :: h₂ :: h₁ :: h₀ :: bs => do
            let unit ← hexUnit? h₃ h₂ h₁ h₀
            let (units, rest) ← stringUnits? bs
            return (.escape unit :: units, rest)
          | _ => none
        else do
          let unit ← shortEscape? e
          let (units, rest) ← stringUnits? bs
          return (.escape unit :: units, rest)
    else if b < 0x20 then none
    else do
      let (units, rest) ← stringUnits? bs
      return (.byte b :: units, rest)

/-- Takes a given word off the front. -/
def word? (word bs : List UInt8) : Option (List UInt8) :=
  match word, bs with
  | [], bs => some bs
  | _ :: _, [] => none
  | w :: ws, b :: bs => if w = b then word? ws bs else none

/-! ## The grammar -/

mutual

/-- Takes a value off the front, with space allowed before it. The first argument bounds the steps
taken. -/
def value? : Nat → List UInt8 → Option (Written × List UInt8)
  | 0, _ => none
  | fuel + 1, bs =>
    match skipSpace bs with
    | [] => none
    | b :: bs =>
      if b = ascii 'n' then (word? [0x75, 0x6C, 0x6C] bs).map fun rest => (.null, rest)
      else if b = ascii 't' then (word? [0x72, 0x75, 0x65] bs).map fun rest => (.bool true, rest)
      else if b = ascii 'f' then
        (word? [0x61, 0x6C, 0x73, 0x65] bs).map fun rest => (.bool false, rest)
      else if b = ascii '"' then (stringUnits? bs).map fun (units, rest) => (.string units, rest)
      else if b = ascii '[' then
        match skipSpace bs with
        | [] => none
        | c :: rest =>
          if c = ascii ']' then some (.array [], rest)
          else (items? fuel (c :: rest)).map fun (items, rest) => (.array items, rest)
      else if b = ascii '\x7b' then
        match skipSpace bs with
        | [] => none
        | c :: rest =>
          if c = ascii '\x7d' then some (.object [], rest)
          else (members? fuel (c :: rest)).map fun (members, rest) => (.object members, rest)
      else (numeral? (b :: bs)).map fun (n, rest) => (.number n, rest)

/-- Takes the items of an array and its closing bracket off the front. -/
def items? : Nat → List UInt8 → Option (List Written × List UInt8)
  | 0, _ => none
  | fuel + 1, bs => do
    let (item, bs) ← value? fuel bs
    match skipSpace bs with
    | [] => none
    | c :: rest =>
      if c = ascii ']' then return ([item], rest)
      else if c = ascii ',' then
        let (items, rest) ← items? fuel rest
        return (item :: items, rest)
      else none

/-- Takes the members of an object and its closing brace off the front. -/
def members? : Nat → List UInt8 → Option (List (List StringUnit × Written) × List UInt8)
  | 0, _ => none
  | fuel + 1, bs =>
    match skipSpace bs with
    | [] => none
    | q :: bs =>
      if q = ascii '"' then do
        let (name, bs) ← stringUnits? bs
        match skipSpace bs with
        | [] => none
        | c :: bs =>
          if c = ascii ':' then
            let (value, bs) ← value? fuel bs
            match skipSpace bs with
            | [] => none
            | d :: rest =>
              if d = ascii '\x7d' then return ([(name, value)], rest)
              else if d = ascii ',' then
                let (members, rest) ← members? fuel rest
                return ((name, value) :: members, rest)
              else none
          else none
      else none

end

/-- Reads a whole text as one value; only space may follow it. -/
def Written.ofBytes? (bs : List UInt8) : Option Written := do
  let (value, rest) ← value? (2 * bs.length + 2) bs
  if (skipSpace rest).isEmpty then return value else none

/-! ## Meaning -/

/-- The first halves of the pairs of units that stand for characters above the 16-bit range. -/
def isLeadUnit (unit : Nat) : Bool := 0xD800 ≤ unit && unit ≤ 0xDBFF

/-- The second halves. -/
def isTrailUnit (unit : Nat) : Bool := 0xDC00 ≤ unit && unit ≤ 0xDFFF

/-- The bytes of a literal. A first half has to be followed at once by a second half, and a second
half has to follow a first. -/
def unitBytes? : List StringUnit → Option (List UInt8)
  | [] => some []
  | .byte b :: units => (b :: ·) <$> unitBytes? units
  | .escape lead :: .escape trail :: units =>
    if isLeadUnit lead then
      if isTrailUnit trail then do
        let code := 0x10000 + 0x400 * (lead - 0xD800) + (trail - 0xDC00)
        return String.utf8EncodeChar (Char.ofNat code) ++ (← unitBytes? units)
      else none
    else if isTrailUnit lead then none
    else do
      return String.utf8EncodeChar (Char.ofNat lead) ++ (← unitBytes? (.escape trail :: units))
  | .escape unit :: units =>
    if isLeadUnit unit || isTrailUnit unit then none
    else do return String.utf8EncodeChar (Char.ofNat unit) ++ (← unitBytes? units)

/-- The text of a string literal. -/
def unitText? (units : List StringUnit) : Option String := (unitBytes? units).bind Utf8.decode?

/-- A literal without point and exponent is an integer if 64 bits hold it; minus zero is not one. -/
def Numeral.integer? (n : Numeral) : Option Int :=
  match n.fraction, n.exponent with
  | none, none =>
    let magnitude := Decimal.toNat n.whole
    if n.negative then
      if magnitude = 0 ∨ 0x8000000000000000 < magnitude then none else some (-magnitude)
    else if magnitude ≤ 0xffffffffffffffff then some magnitude else none
  | _, _ => none

/-- The exponent that a literal states. -/
def Numeral.power (n : Numeral) : Int :=
  match n.exponent with
  | none => 0
  | some (true, ds) => -(Decimal.toNat ds : Int)
  | some (false, ds) => Decimal.toNat ds

/-- The number of a literal, unless it is out of range. -/
def Numeral.number? (n : Numeral) : Option Number :=
  match n.integer? with
  | some i =>
    if bounds : -0x8000000000000000 ≤ i ∧ i ≤ 0xffffffffffffffff then some (.integer i bounds)
    else none
  | none => do
    let x ← Binary64.ofNumeral? n.negative n.whole (n.fraction.getD []) n.power
    if finite : x.isFinite = true then some (.float x finite) else none

mutual

/-- The raw value of a written one, which may nest so many arrays and objects. -/
def Written.json? : Nat → Written → Option Json
  | _, .null => some .null
  | _, .bool b => some (.bool b)
  | _, .number n => n.number?.map .number
  | _, .string units => (unitText? units).map .string
  | 0, .array _ | 0, .object _ => none
  | depth + 1, .array items => (jsonItems? depth items).map .array
  | depth + 1, .object members => (jsonMembers? depth members).map .object

def jsonItems? : Nat → List Written → Option (List Json)
  | _, [] => some []
  | depth, item :: items => do return (← item.json? depth) :: (← jsonItems? depth items)

def jsonMembers? : Nat → List (List StringUnit × Written) → Option (List (String × Json))
  | _, [] => some []
  | depth, (name, value) :: members => do
    return (← unitText? name, ← value.json? depth) :: (← jsonMembers? depth members)

end

/-- How many arrays and objects may enclose one another. -/
def depthLimit : Nat := 127

/-- Reads a raw value off a text. -/
def parse? (text : String) : Option Json := do
  (← Written.ofBytes? (Utf8.encode text.toList)).json? depthLimit

/-- Reads a document off a text. -/
def Document.parse? (text : String) : Option Document := (Json.parse? text).map Document.ofJson

/-! ## Named members -/

/-- The member values of the given names, for a written object whose names are all texts and in
which none of the given names occurs twice. -/
def selectMembers? (names : List String) :
    List (List StringUnit × Written) → Option (List (Option Written))
  | [] => some (names.map fun _ => none)
  | (name, value) :: members => do
    let name ← unitText? name
    let found ← selectMembers? names members
    match names.idxOf? name with
    | none => return found
    | some i =>
      match found[i]? with
      | some none => return found.set i (some value)
      | _ => none

/-- An integer within bounds. -/
def Written.integer? (low high : Int) : Written → Option Int
  | .number n => do
    let i ← n.integer?
    if low ≤ i ∧ i ≤ high then return i else none
  | _ => none

def Written.text? : Written → Option String
  | .string units => unitText? units
  | _ => none

/-- A text or `null`. -/
def Written.optionalText? : Written → Option (Option String)
  | .null => some none
  | .string units => (unitText? units).map some
  | _ => none

end Rowset.Json
