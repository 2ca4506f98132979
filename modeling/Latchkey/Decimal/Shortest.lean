import Latchkey.Decimal.Binary64
/-!
# The shortest decimal of a double

Every real number in an interval around a double rounds to it; the ends of the interval belong to
it when the double's last bit is 0. `shortest` finds the decimal with the fewest digits in that
interval, and of those the nearest to the double; a rule for ties decides between two that are
equally near. It tries the grids of multiples of `10 ^ k` from coarse to fine. A grid has a point in
the interval only if one of the two points next to the double is in it, so two candidates a grid are
enough.
-/

namespace Latchkey

/-- The number `digits * 10 ^ exponent`. -/
structure Decimal where
  digits : Nat
  exponent : Int
deriving DecidableEq

/-- Which of two decimals is taken when a double lies in the middle between them. -/
inductive Tie where
  /-- The one whose last digit is even. -/
  | even
  /-- The one that is further from zero. -/
  | away
deriving DecidableEq

/-- The reals that round to a double, as fractions over one denominator. -/
structure RoundingInterval where
  low : Nat
  value : Nat
  high : Nat
  denominator : Nat
  /-- Whether the ends belong to the interval. -/
  closed : Bool

namespace RoundingInterval

/-- The interval of `m * 2 ^ q`. Below a power of two the doubles are twice as dense. -/
def of (m : Nat) (q : Int) : RoundingInterval :=
  let below := if m = 0x10000000000000 ∧ -1074 < q then 1 else 2
  let scale := Nat.pow 2 (q - 2).toNat
  { low := (4 * m - below) * scale
    value := 4 * m * scale
    high := (4 * m + 2) * scale
    denominator := Nat.pow 2 (2 - q).toNat
    closed := m % 2 = 0 }

/-- Whether the fraction `n / d` lies in the interval. -/
def contains (i : RoundingInterval) (n d : Nat) : Bool :=
  let point := n * i.denominator
  if i.closed then i.low * d ≤ point && point ≤ i.high * d
  else i.low * d < point && point < i.high * d

/-- The point of the grid of multiples of `10 ^ k` that is in the interval and nearest the value. -/
def onGrid? (i : RoundingInterval) (tie : Tie) (k : Int) : Option Decimal :=
  let up := Nat.pow 10 k.toNat
  let down := Nat.pow 10 (-k).toNat
  let below := i.value * down / (i.denominator * up)
  let above := below + 1
  let holds (c : Nat) : Bool := i.contains (c * up) down
  -- twice the distance of the value past `below`, against a step of the grid
  let rest := 2 * (i.value * down - below * up * i.denominator)
  let step := up * i.denominator
  let aboveNearer := step < rest || (rest == step && (tie == .away || below % 2 == 1))
  match holds below, holds above with
  | true, true => some ⟨if aboveNearer then above else below, k⟩
  | true, false => some ⟨below, k⟩
  | false, true => some ⟨above, k⟩
  | false, false => none

/-- The first grid with a point in the interval, of `count` grids from `10 ^ k` down. -/
def coarsest? (i : RoundingInterval) (tie : Tie) : Nat → Int → Option Decimal
  | 0, _ => none
  | count + 1, k => i.onGrid? tie k <|> i.coarsest? tie count (k - 1)

end RoundingInterval

/-- The number of decimal digits of `n`; 0 has none. -/
def digitCount (n : Nat) : Nat := if n = 0 then 0 else (toString n).length

/-- The power of ten just above the fraction `n / d`, for fractions above `10 ^ -330`. -/
def decimalOrder (n d : Nat) : Int := (digitCount (n * Nat.pow 10 330 / d) : Int) - 330

/-- The shortest decimal that rounds to the double `m * 2 ^ q`. -/
def shortest (tie : Tie) (m : Nat) (q : Int) : Decimal :=
  if m = 0 then ⟨0, 0⟩
  else
    let i := RoundingInterval.of m q
    (i.coarsest? tie 20 (decimalOrder i.value i.denominator)).getD ⟨0, 0⟩

end Latchkey
