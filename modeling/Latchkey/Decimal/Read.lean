import Latchkey.Text.Pad
/-!
# Numbers read from text

Integers with an optional sign, and doubles in decimal notation or by name. A double is the one
nearest to the number written.
-/

namespace Latchkey

open Text

/-- A sign, if there is one, and what follows it. -/
def splitSign (text : List Char) : Bool × List Char :=
  match text with
  | '-' :: rest => (true, rest)
  | '+' :: rest => (false, rest)
  | rest => (false, rest)

/-- A whole number with an optional sign `+`. -/
def readNatural? (text : String) : Option Nat :=
  let digits := match text.toList with
    | '+' :: rest => rest
    | rest => rest
  if digits ≠ [] ∧ digits.all Char.isDigit then some (natOfDigits digits) else none

/-- A whole number with an optional sign. -/
def readInteger? (text : String) : Option Int :=
  let (negative, digits) := splitSign text.toList
  if digits ≠ [] ∧ digits.all Char.isDigit then
    some (if negative then -(natOfDigits digits : Int) else natOfDigits digits)
  else none

/-- A whole number that fits 64 bits without a sign. -/
def readUInt64? (text : String) : Option Nat :=
  (readNatural? text).filter (· < UInt64.size)

/-- A whole number that fits 64 bits with a sign. -/
def readInt64? (text : String) : Option Int :=
  (readInteger? text).filter fun n => -9223372036854775808 ≤ n && n ≤ 9223372036854775807

/-! ## Numbers up to a bound -/

/-- Why a text is no whole number up to a bound. -/
inductive NumberFault where
  | empty
  | badDigit
  | tooLarge
deriving DecidableEq

def NumberFault.message : NumberFault → String
  | empty => "cannot parse integer from empty string"
  | badDigit => "invalid digit found in string"
  | tooLarge => "number too large to fit in target type"

/-- The number with a digit more. -/
def withDigit (most n : Nat) (c : Char) : Except NumberFault Nat :=
  if !c.isDigit then .error .badDigit
  else if most < n * 10 + digitValue c then .error .tooLarge
  else .ok (n * 10 + digitValue c)

/-- A whole number up to `most` with an optional sign `+`. Of two faults the first one counts. -/
def readBounded (most : Nat) (text : String) : Except NumberFault Nat :=
  match text.toList with
  | [] => .error .empty
  | ['+'] => .error .badDigit
  | '+' :: digits | digits => digits.foldlM (withDigit most) 0

/-! ## Doubles -/

/-- The double nearest to `m * 10 ^ e`. -/
def nearestDouble (m : Nat) (e : Int) : Float :=
  let order := (toString m).length + e
  if m = 0 || order < -400 then 0
  else if 400 < order then 1.0 / 0.0
  else if 0 ≤ e then Float.ofScientific m false e.toNat
  else Float.ofScientific m true (-e).toNat

/-- The exponent after a mantissa: nothing, or `e`, a sign and digits. -/
def readExponent? (text : List Char) : Option Int :=
  match text with
  | [] => some 0
  | c :: rest =>
    if c = 'e' ∨ c = 'E' then
      let (negative, digits) := splitSign rest
      if digits ≠ [] ∧ digits.all Char.isDigit then
        some (if negative then -(natOfDigits digits : Int) else natOfDigits digits)
      else none
    else none

/-- A number without sign in decimal notation; the point may come first or last. -/
def readDecimal? (text : List Char) : Option Float :=
  let whole := text.takeWhile Char.isDigit
  let rest := text.dropWhile Char.isDigit
  let (fraction, rest) := match rest with
    | '.' :: after => (after.takeWhile Char.isDigit, after.dropWhile Char.isDigit)
    | _ => ([], rest)
  if whole = [] ∧ fraction = [] then none
  else
    (readExponent? rest).map fun e =>
      nearestDouble (natOfDigits (whole ++ fraction)) (e - fraction.length)

/-- A double in decimal notation, or one of `inf`, `infinity` and `nan` in any case. -/
def readFloat? (text : String) : Option Float :=
  let (negative, rest) := splitSign text.toList
  let size := match String.ofList (rest.map Char.toLower) with
    | "inf" | "infinity" => some (1.0 / 0.0)
    | "nan" => some (0.0 / 0.0)
    | _ => readDecimal? rest
  size.map fun x => if negative then -x else x

end Latchkey
