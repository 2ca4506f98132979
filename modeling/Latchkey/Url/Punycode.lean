import Latchkey.Text.Pad
/-!
# Names written in ASCII

A label with characters beyond ASCII can be written in ASCII alone: first its ASCII characters and a
hyphen, and then, as numbers in base 36 of varying length, how far it is from each place where a
further character goes in to the next such place. Only the reading is here.
-/

namespace Latchkey.Punycode

/-- The value of a digit. -/
def digitValue? (c : Char) : Option Nat :=
  if 'a' ≤ c ∧ c ≤ 'z' then some (c.toNat - 'a'.toNat)
  else if c.isDigit then some (c.toNat - '0'.toNat + 26)
  else none

/-- A digit below its threshold is the last of a number. -/
def threshold (position bias : Nat) : Nat :=
  if position ≤ bias then 1 else if bias + 26 ≤ position then 26 else position - bias

/-- The part of the bias that the size of a step makes. -/
def settle (step : Nat) : Nat :=
  if 455 < step then 36 + settle (step / 35) else 36 * step / (step + 38)
termination_by step
decreasing_by exact Nat.div_lt_self (by omega) (by omega)

/-- The bias after a step, the `count`-th character having gone in. -/
def adapt (step count : Nat) (first : Bool) : Nat :=
  let step := if first then step / 700 else step / 2
  settle (step + step / count)

/-- A label that is being read. -/
structure Reading where
  label : List Char
  /-- The character that goes in next, if it is not passed over. -/
  next : Nat := 0x80
  bias : Nat := 72
  /-- Where the last character went in, and one more. -/
  place : Nat := 0
  /-- How far the number that is being read leads from there. -/
  distance : Nat := 0
  weight : Nat := 1
  position : Nat := 36

namespace Reading

/-- Puts in the character that the number read leads to. -/
def insert? (r : Reading) : Option Reading :=
  let count := r.label.length + 1
  let place := r.place + r.distance
  let next := r.next + place / count
  if h : next.isValidChar then
    let before := place % count
    some {
      label := r.label.take before ++ Char.ofNatAux next h :: r.label.drop before
      next
      bias := adapt r.distance count (r.place = 0)
      place := before + 1 }
  else none

/-- Reads a digit. -/
def step? (r : Reading) (c : Char) : Option Reading := do
  let digit ← digitValue? c
  let r := { r with distance := r.distance + digit * r.weight }
  let limit := threshold r.position r.bias
  if digit < limit then r.insert?
  else some { r with weight := r.weight * (36 - limit), position := r.position + 36 }

end Reading

/-- The ASCII characters at the start, which end at the last hyphen, and what follows it. -/
def splitAscii (text : List Char) : List Char × List Char :=
  let digits := (text.reverse.takeWhile (· ≠ '-')).reverse
  let before := text.take (text.length - digits.length)
  if before.length ≤ 1 then ([], text) else (before.dropLast, digits)

/-- The label that a text stands for, if it stands for one that is not ASCII. -/
def read? (text : List Char) : Option (List Char) := do
  let (ascii, digits) := splitAscii text
  let r ← digits.foldlM Reading.step? { label := ascii }
  if digits = [] ∨ r.weight ≠ 1 ∨ ascii.any (0x80 ≤ ·.toNat) then none else some r.label

end Latchkey.Punycode
