import Rowset.Text.Decimal

/-!
# The URL-safe base64 alphabet, without padding

Three bytes are written as four symbols of six bits each; one or two bytes at the end take two or
three symbols, whose unused low bits are zero. Reading accepts exactly that form. A rejected text is
described by the byte that was found at fault and its place.

The places are those of a reader that takes the symbols in blocks of eight: within the last block a
padding mark is told apart from a foreign byte, before it every foreign byte is one.
-/

namespace Rowset.Text.Base64Url

/-- Why some bytes are not the base64 text of anything. -/
inductive Failure where
  /-- A byte outside the alphabet, or a padding mark where none can stand. -/
  | invalidByte (offset : Nat) (byte : UInt8)
  /-- One symbol is left over, which cannot make up a byte. -/
  | invalidLength
  /-- The last symbol has bits set that no byte receives. -/
  | invalidLastSymbol (offset : Nat) (byte : UInt8)
  /-- Padding marks stand where padding would, but none are used. -/
  | invalidPadding
deriving DecidableEq, Repr

/-- The words in which a failure is reported. -/
def Failure.message : Failure → String
  | .invalidByte offset byte =>
    "Invalid byte " ++ Decimal.natText byte.toNat ++ ", offset " ++ Decimal.natText offset ++ "."
  | .invalidLength => "Encoded text cannot have a 6-bit remainder."
  | .invalidLastSymbol offset byte =>
    "Invalid last symbol " ++ Decimal.natText byte.toNat ++ ", offset " ++ Decimal.natText offset
      ++ "."
  | .invalidPadding => "Invalid padding"

/-- The symbol for six bits: letters, then digits, then `-` and `_`. -/
def symbol (n : Nat) : UInt8 :=
  if n < 26 then UInt8.ofNat (65 + n)
  else if n < 52 then UInt8.ofNat (71 + n)
  else if n < 62 then UInt8.ofNat (n - 4)
  else if n = 62 then 45
  else 95

/-- The six bits that a symbol stands for. -/
def bits? (b : UInt8) : Option Nat :=
  if 65 ≤ b ∧ b ≤ 90 then some (b.toNat - 65)
  else if 97 ≤ b ∧ b ≤ 122 then some (b.toNat - 71)
  else if 48 ≤ b ∧ b ≤ 57 then some (b.toNat + 4)
  else if b = 45 then some 62
  else if b = 95 then some 63
  else none

theorem bits?_symbol : ∀ {n : Nat}, n < 64 → bits? (symbol n) = some n := by decide

/-- The padding mark `=`. -/
def pad : UInt8 := 61

@[simp] theorem bits?_pad : bits? pad = none := by decide

/-- The sextets of a row of bytes, from the most significant bits on. -/
def sextets : List UInt8 → List Nat
  | [] => []
  | [a] => [a.toNat / 4, a.toNat % 4 * 16]
  | [a, b] => [a.toNat / 4, a.toNat % 4 * 16 + b.toNat / 16, b.toNat % 16 * 4]
  | a :: b :: c :: rest =>
    a.toNat / 4 :: (a.toNat % 4 * 16 + b.toNat / 16) :: (b.toNat % 16 * 4 + c.toNat / 64)
      :: c.toNat % 64 :: sextets rest

/-- The bytes that sextets make up, unless bits are left over. -/
def octets? : List Nat → Option (List UInt8)
  | [] => some []
  | [_] => none
  | [p, q] => if q % 16 = 0 then some [UInt8.ofNat (p * 4 + q / 16)] else none
  | [p, q, r] =>
    if r % 4 = 0 then
      some [UInt8.ofNat (p * 4 + q / 16), UInt8.ofNat (q % 16 * 16 + r / 4)]
    else none
  | p :: q :: r :: s :: rest => do
    let bytes ← octets? rest
    return UInt8.ofNat (p * 4 + q / 16) :: UInt8.ofNat (q % 16 * 16 + r / 4)
      :: UInt8.ofNat (r % 4 * 64 + s) :: bytes

/-- Writes bytes as symbols. -/
def encode (bytes : List UInt8) : List UInt8 := (sextets bytes).map symbol

/-- Reads symbols from `offset` on; any other byte is an error. -/
def readSymbols : Nat → List UInt8 → Except Failure (List Nat)
  | _, [] => .ok []
  | offset, b :: rest =>
    match bits? b with
    | none => .error (.invalidByte offset b)
    | some n => (n :: ·) <$> readSymbols (offset + 1) rest

/-- Reads what follows a first padding mark at `mark`: nothing but more marks, none of which may
open a group of four symbols or be the second in one. -/
def readPadding (mark : Nat) : Nat → List UInt8 → Failure
  | _, [] => .invalidPadding
  | offset, b :: rest =>
    if b = pad ∧ 2 ≤ offset % 4 then readPadding mark (offset + 1) rest
    else .invalidByte mark pad

/-- Reads the last block, which starts at a multiple of eight. -/
def readLastBlock : Nat → List UInt8 → Except Failure (List Nat)
  | _, [] => .ok []
  | offset, b :: rest =>
    if b = pad then .error (readPadding offset offset (b :: rest))
    else match bits? b with
      | none => .error (.invalidByte offset b)
      | some n => (n :: ·) <$> readLastBlock (offset + 1) rest

/-- Where the last block of eight starts. -/
def lastBlock (length : Nat) : Nat := (length - 1) / 8 * 8

/-- Why a text of a length that no bytes have is refused. -/
def lengthFailure (text : List UInt8) : Failure :=
  match text.getLast? with
  | some b =>
    if b = pad ∨ (bits? b).isSome then .invalidLength else .invalidByte (text.length - 1) b
  | none => .invalidLength

/-- Reads symbols back as bytes. -/
def decode (text : List UInt8) : Except Failure (List UInt8) := do
  if text.length % 4 = 1 then throw (lengthFailure text)
  let cut := lastBlock text.length
  let front ← readSymbols 0 (text.take cut)
  let back ← readLastBlock cut (text.drop cut)
  match octets? (front ++ back) with
  | some bytes => return bytes
  | none => throw (.invalidLastSymbol (text.length - 1) (text.getLast?.getD pad))

end Rowset.Text.Base64Url
