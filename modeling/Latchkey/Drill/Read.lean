import Latchkey.Decimal.Read
import Latchkey.Error
import Latchkey.Key.Request
import Latchkey.Text.Hex
/-!
# Reading drills

A drill is written in JSON. Its fields may be left out or be `null` where they have a default. An
instant is a count of milliseconds or a text, a span likewise, and a double may be written as its
bits so that none is beyond reach.
-/

namespace Latchkey

/-- Why a drill cannot be read. -/
inductive ReadFault where
  | malformed
  | name (f : NameFault)
  | error (e : Error)

abbrev Read (α : Type) : Type := Except ReadFault α

namespace Read

def fail {α : Type} : Read α := .error .malformed

def ofOption {α : Type} : Option α → Read α
  | some a => .ok a
  | none => fail

def field? (j : Json) (name : String) : Option Json := Json.present (j.get? name)

/-- A field that must be there. -/
def need {α : Type} (decode : Json → Read α) (j : Json) (name : String) : Read α :=
  match field? j name with
  | some v => decode v
  | none => fail

/-- A field that may be left out. -/
def may {α : Type} (decode : Json → Read α) (j : Json) (name : String) : Read (Option α) :=
  match field? j name with
  | some v => (decode v).map some
  | none => .ok none

def withDefault {α : Type} (default : α) (decode : Json → Read α) (j : Json) (name : String) :
    Read α :=
  return (← may decode j name).getD default

def any (j : Json) : Read Json := .ok j

def string (j : Json) : Read String := ofOption j.string?

def flag (j : Json) : Read Bool := ofOption j.bool?

def count (j : Json) : Read Nat := ofOption j.count?

def uint64 (j : Json) : Read UInt64 := ofOption j.uint64?

def int64 (j : Json) : Read Int64 := ofOption j.int64?

def items {α : Type} (decode : Json → Read α) (j : Json) : Read (List α) := do
  (← ofOption j.array?).mapM decode

def metadata (j : Json) : Read Metadata := ofOption (Metadata.ofJson? j)

def keyId (j : Json) : Read KeyId := do (KeyId.ofText (← string j)).mapError .name

def instant : Json → Read Instant
  | .int ms => ofOption (Instant.ofMillis? ms)
  | .string "max" => .ok .latest
  | .string "min" => .ok .earliest
  | .string s => ofOption (Instant.ofText? s)
  | _ => fail

/-- A text of nanoseconds: a whole number with `ns` after it. -/
def nanoseconds? (text : String) : Option Duration :=
  if text.endsWith "ns" then (readInt64? (text.dropEnd 2).toString).map Duration.mk else none

def duration : Json → Read Duration
  | .int ms => ofOption (Duration.ofMillis? ms)
  | .string "max" => .ok .longest
  | .string "min" => .ok .shortest
  | .string s => ofOption (nanoseconds? s)
  | _ => fail

def bytes (j : Json) : Read Bytes := do ofOption (Hex.decode? (← string j).toList)

/-- A double of sixteen hexadecimal digits after `f64:`. -/
def floatOfBits? (text : String) : Option Float :=
  if text.startsWith "f64:" ∧ text.length = 20 then
    (Hex.natOfDigits? (text.drop 4).toString.toList).map fun n => .ofBits (UInt64.ofNat n)
  else none

def float : Json → Read Float
  | .string "nan" => .ok (0.0 / 0.0)
  | .string "inf" => .ok (1.0 / 0.0)
  | .string "-inf" => .ok (-1.0 / 0.0)
  | .string s => ofOption (floatOfBits? s)
  | j => ofOption j.float?

end Read

end Latchkey
