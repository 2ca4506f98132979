/-!
# Doubles as exact numbers

A finite double is a whole number times a power of two. `Binary64.of` reads both off its bits, and
`floorWithin` and `ceilWithin` round the exact number to an integer, kept within given bounds.
-/

namespace Latchkey

/-- What the bits of a double stand for. -/
inductive Binary64 where
  | nan
  | infinite (negative : Bool)
  /-- The number `m * 2 ^ q`, or its negative. -/
  | finite (negative : Bool) (m : Nat) (q : Int)
deriving DecidableEq

namespace Binary64

def of (x : Float) : Binary64 :=
  let bits := x.toBits.toNat
  let negative := decide (0x8000000000000000 ≤ bits)
  let exponent : Nat := bits / 0x10000000000000 % 0x800
  let fraction : Nat := bits % 0x10000000000000
  if exponent = 2047 then
    if fraction = 0 then .infinite negative else .nan
  else if exponent = 0 then .finite negative fraction (-1074)
  else .finite negative (0x10000000000000 + fraction) ((exponent : Int) - 1075)

/-- The greatest integer not above `m * 2 ^ q`. -/
def floorOf (m : Int) (q : Int) : Int :=
  if 0 ≤ q then m * Nat.pow 2 q.toNat else m.fdiv (Nat.pow 2 (-q).toNat)

def signed (negative : Bool) (m : Nat) : Int := if negative then -m else m

end Binary64

/-- The nearest integer between `low` and `high`. -/
def clampInt (low high n : Int) : Int := max low (min high n)

/-- The greatest integer not above `x`, kept between `low` and `high`; 0 for a NaN. -/
def Binary64.floorWithin (low high : Int) (x : Float) : Int :=
  match of x with
  | .nan => clampInt low high 0
  | .infinite negative => if negative then low else high
  | .finite negative m q => clampInt low high (floorOf (signed negative m) q)

/-- The least integer not below `x`, kept between `low` and `high`; 0 for a NaN. -/
def Binary64.ceilWithin (low high : Int) (x : Float) : Int :=
  match of x with
  | .nan => clampInt low high 0
  | .infinite negative => if negative then low else high
  | .finite negative m q => clampInt low high (-floorOf (-signed negative m) q)

/-- The integer nearest `x`, halves away from zero, kept between `low` and `high`; 0 for a NaN. -/
def Binary64.roundWithin (low high : Int) (x : Float) : Int :=
  match of x with
  | .nan => clampInt low high 0
  | .infinite negative => if negative then low else high
  | .finite negative m q =>
    let size := (floorOf (2 * m) q + 1).fdiv 2
    clampInt low high (if negative then -size else size)

end Latchkey
