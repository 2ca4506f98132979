import Latchkey.Decimal.Binary64
/-!
# Amounts of tokens

The bucket rule computes with any kind of number that has the four operations, an order, and a
rounding to integers. Doubles are what a service runs on; exact fractions follow the same rule
without rounding.
-/

namespace Latchkey

/-- Numbers that a token bucket can count in. -/
class Amount (α : Type) extends Add α, Sub α, Mul α, Div α where
  zero : α
  one : α
  ofUInt64 : UInt64 → α
  le : α → α → Bool
  lt : α → α → Bool
  isFinite : α → Bool
  /-- The greatest integer not above the amount, kept between two bounds. -/
  floorWithin : Int → Int → α → Int
  /-- The least integer not below the amount, kept between two bounds. -/
  ceilWithin : Int → Int → α → Int

instance : Amount Float where
  zero := 0
  one := 1
  ofUInt64 := UInt64.toFloat
  le a b := decide (a ≤ b)
  lt a b := decide (a < b)
  isFinite := Float.isFinite
  floorWithin := Binary64.floorWithin
  ceilWithin := Binary64.ceilWithin

instance : Amount Rat where
  zero := 0
  one := 1
  ofUInt64 n := (n.toNat : Rat)
  le a b := decide (a ≤ b)
  lt a b := decide (a < b)
  isFinite _ := true
  floorWithin low high x := clampInt low high x.floor
  ceilWithin low high x := clampInt low high x.ceil

end Latchkey
