import Latchkey.Decimal.Shortest
/-!
# Doubles as text

The digits of a double are those of its shortest decimal; a `FloatStyle` says how they are set out.
In messages there is never an exponent: `plain` writes a whole number without a point, `pointed`
with one. For stored values, `data` shows an exponent for large and small numbers and always marks a
double as such.
-/

namespace Latchkey

/-- How the digits of a double are set out. -/
structure FloatStyle where
  /-- The orders of magnitude (`0.ddd * 10 ^ order`) written without an exponent. -/
  positional : Int → Bool
  /-- Whether a whole number ends in `.0` when it is written without an exponent. -/
  pointZero : Bool
  /-- Which of two equally near shortest decimals is written. -/
  tie : Tie

namespace FloatStyle

/-- All digits and no exponent: `1000000`, `0.5`. -/
def plain : FloatStyle := ⟨fun _ => true, false, .away⟩

/-- All digits, and a point in every number: `1000000.0`, `0.5`. -/
def pointed : FloatStyle := ⟨fun _ => true, true, .away⟩

/-- An exponent for orders of magnitude outside -4 to 16: `1000000.0`, `1e16`. -/
def data : FloatStyle := ⟨fun order => -5 < order && order ≤ 16, true, .even⟩

def zeros (n : Int) : String := String.ofList (List.replicate n.toNat '0')

/-- The digits with a point so that the number is `0.digits * 10 ^ order`. -/
def setPoint (style : FloatStyle) (digits : String) (order : Int) : String :=
  let count : Int := digits.length
  if order ≤ 0 then "0." ++ zeros (-order) ++ digits
  else if count ≤ order then
    digits ++ zeros (order - count) ++ (if style.pointZero then ".0" else "")
  else (digits.take order.toNat).toString ++ "." ++ (digits.drop order.toNat).toString

/-- The digits with a point after the first, and the exponent of that point. -/
def setExponent (digits : String) (order : Int) : String :=
  let rest := (digits.drop 1).toString
  let fraction := if rest.isEmpty then "" else "." ++ rest
  (digits.take 1).toString ++ fraction ++ "e" ++ toString (order - 1)

/-- A decimal above zero. -/
def decimalText (style : FloatStyle) (d : Decimal) : String :=
  let digits := toString d.digits
  let order := digits.length + d.exponent
  if style.positional order then style.setPoint digits order else setExponent digits order

def text (style : FloatStyle) (x : Float) : String :=
  match Binary64.of x with
  | .nan => "NaN"
  | .infinite negative => if negative then "-inf" else "inf"
  | .finite negative m q =>
    let size :=
      if m = 0 then (if style.pointZero then "0.0" else "0")
      else style.decimalText (shortest style.tie m q)
    (if negative then "-" else "") ++ size

end FloatStyle

end Latchkey
