import Latchkey.Bytes
/-!
# Hexadecimal text

Two lowercase digits are written for each byte; digits of either case are read.
-/

namespace Latchkey.Hex

def alphabet : List Char :=
  ['0', '1', '2', '3', '4', '5', '6', '7', '8', '9', 'a', 'b', 'c', 'd', 'e', 'f']

/-- The digit of a number below 16. -/
def digit (n : Nat) : Char := alphabet.getD n '0'

def chars (bytes : Bytes) : List Char :=
  bytes.flatMap fun b => [digit (b.toNat / 16), digit (b.toNat % 16)]

def encode (bytes : Bytes) : String := String.ofList (chars bytes)

/-- The value of a digit. -/
def digitValue? (c : Char) : Option Nat :=
  if c.isDigit then some (c.toNat - '0'.toNat)
  else if 'a' ≤ c ∧ c ≤ 'f' then some (c.toNat - 'a'.toNat + 10)
  else if 'A' ≤ c ∧ c ≤ 'F' then some (c.toNat - 'A'.toNat + 10)
  else none

/-- The number of a row of digits. -/
def natOfDigits? (digits : List Char) : Option Nat :=
  digits.foldlM (fun n c => (digitValue? c).map (16 * n + ·)) 0

/-- The bytes of pairs of digits. -/
def decode? : List Char → Option Bytes
  | [] => some []
  | a :: b :: rest => return UInt8.ofNat (← natOfDigits? [a, b]) :: (← decode? rest)
  | [_] => none

end Latchkey.Hex
