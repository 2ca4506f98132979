import Latchkey.Json.Basic
import Latchkey.Text.Pad
/-!
# Numbers in JSON

A number without fraction and exponent is whole if it fits 64 bits. Any other is a double, and is
found in two steps: its leading digits, as many as fit 64 bits, make a whole number, and that is
multiplied or divided by a power of ten. Each step rounds, so a number of more than 15 digits may
come out one unit beside the nearest double.
-/

namespace Latchkey.Json

open Text

/-- The digits read so far: a whole number, and the power of ten that it is to be multiplied by. -/
structure Scaled where
  mantissa : Nat
  exponent : Int

namespace Scaled

/-- Whether one more digit keeps the whole number within 64 bits. -/
def fits (s : Scaled) (digit : Nat) : Bool := s.mantissa * 10 + digit < UInt64.size

/-- Digits before the point; from the first that does not fit on, each only counts as a place. -/
def addWhole (s : Scaled) : List Char → Scaled
  | [] => s
  | c :: rest =>
    let digit := digitValue c
    if s.fits digit then addWhole { s with mantissa := s.mantissa * 10 + digit } rest
    else { s with exponent := s.exponent + (rest.length + 1) }

/-- Digits after the point; those from the first that does not fit on are dropped. -/
def addFraction (s : Scaled) : List Char → Scaled
  | [] => s
  | c :: rest =>
    if s.fits (digitValue c) then
      addFraction ⟨s.mantissa * 10 + digitValue c, s.exponent - 1⟩ rest
    else s

/-- The double nearest to `10 ^ n`. -/
def powerOfTen (n : Nat) : Float := Float.ofScientific 1 false n

/-- The scaled number as a double; none if it is too large for one. -/
def toFloat? (s : Scaled) : Option Float :=
  let x := (UInt64.ofNat s.mantissa).toFloat
  if s.mantissa = 0 then some x
  else if 308 < s.exponent then none
  else if 0 ≤ s.exponent then
    let y := x * powerOfTen s.exponent.toNat
    if y.isFinite then some y else none
  else if -308 ≤ s.exponent then some (x / powerOfTen (-s.exponent).toNat)
  else if -616 ≤ s.exponent then some (x / powerOfTen 308 / powerOfTen (-s.exponent - 308).toNat)
  else some 0

end Scaled

/-- What a number looks like: its sign, and the digits of its parts. -/
structure NumberText where
  negative : Bool
  whole : List Char
  fraction : Option (List Char)
  exponent : Option Int

namespace NumberText

/-- A part that must not be empty. -/
def nonEmpty? (digits : List Char) : Option (List Char) :=
  if digits = [] then none else some digits

/-- The exponent after its `e`: an optional sign and digits up to the end. -/
def readExponent? (text : List Char) : Option Int :=
  let (negative, digits) := match text with
    | '-' :: rest => (true, rest)
    | '+' :: rest => (false, rest)
    | rest => (false, rest)
  if digits ≠ [] ∧ digits.all Char.isDigit then
    some (if negative then -(natOfDigits digits : Int) else natOfDigits digits)
  else none

def read? (text : List Char) : Option NumberText := do
  let (negative, text) := match text with
    | '-' :: rest => (true, rest)
    | rest => (false, rest)
  let whole ← nonEmpty? (text.takeWhile Char.isDigit)
  if whole.head? = some '0' ∧ 1 < whole.length then none
  let (fraction, rest) ← match text.dropWhile Char.isDigit with
    | '.' :: rest => (nonEmpty? (rest.takeWhile Char.isDigit)).map fun digits =>
        (some digits, rest.dropWhile Char.isDigit)
    | rest => some (none, rest)
  match rest with
  | [] => some ⟨negative, whole, fraction, none⟩
  | c :: rest =>
    if c = 'e' ∨ c = 'E' then
      (readExponent? rest).map fun e => ⟨negative, whole, fraction, some e⟩
    else none

/-- Whether the number is written as a whole one. -/
def isWhole (n : NumberText) : Bool := n.fraction.isNone && n.exponent.isNone

def toFloat? (n : NumberText) : Option Float :=
  let s := (Scaled.mk 0 0).addWhole n.whole
  let s := s.addFraction (n.fraction.getD [])
  ({ s with exponent := s.exponent + n.exponent.getD 0 }.toFloat?).map fun x =>
    if n.negative then -x else x

/-- The value of the number, unless it is too large for a double. Minus zero and whole numbers that
do not fit 64 bits are doubles. -/
def value? (n : NumberText) : Option Json :=
  let size := natOfDigits n.whole
  if n.isWhole && !n.negative && size < UInt64.size then some (.int size)
  else if n.isWhole && n.negative && 0 < size && size ≤ 9223372036854775808 then some (.int (-size))
  else n.toFloat?.map .float

end NumberText

end Latchkey.Json
