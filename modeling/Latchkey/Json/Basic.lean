/-!
# JSON values

A whole number and a double are different values, as `3` and `3.0` are different texts. An object
is a list of entries with distinct names in the order in which they first appeared.
-/

namespace Latchkey

inductive Json where
  | null
  | bool (b : Bool)
  | int (n : Int)
  | float (x : Float)
  | string (s : String)
  | array (items : List Json)
  | object (entries : List (String × Json))
deriving Inhabited

namespace Json

/-- The entries with `name` set to `value`, in its old place if there is one and else at the end. -/
def setEntry (name : String) (value : Json) : List (String × Json) → List (String × Json)
  | [] => [(name, value)]
  | (n, v) :: rest =>
    if n = name then (name, value) :: rest else (n, v) :: setEntry name value rest

/-- An object of the given entries; of entries with one name the last counts. -/
def ofEntries (entries : List (String × Json)) : Json :=
  .object (entries.foldl (fun acc (n, v) => setEntry n v acc) [])

/-- The entry of an object under a name. -/
def get? (j : Json) (name : String) : Option Json :=
  match j with
  | .object entries => entries.lookup name
  | _ => none

def string? : Json → Option String
  | .string s => some s
  | _ => none

def bool? : Json → Option Bool
  | .bool b => some b
  | _ => none

def array? : Json → Option (List Json)
  | .array items => some items
  | _ => none

/-- The name of a variant without fields: a text, or an object with `null` under it alone. -/
def variant? : Json → Option String
  | .string s => some s
  | .object [(s, .null)] => some s
  | _ => none

/-- A whole number from 0 to 2^64 - 1. -/
def uint64? (j : Json) : Option UInt64 :=
  match j with
  | .int n => if 0 ≤ n ∧ n < UInt64.size then some (UInt64.ofNat n.toNat) else none
  | _ => none

/-- A whole number from -2^63 to 2^63 - 1. -/
def int64? (j : Json) : Option Int64 :=
  match j with
  | .int n => if -9223372036854775808 ≤ n ∧ n ≤ 9223372036854775807 then some (Int64.ofInt n) else none
  | _ => none

/-- A count that fits 64 bits. -/
def count? (j : Json) : Option Nat := j.uint64?.map UInt64.toNat

/-- A whole number below 2^32. -/
def uint32? (j : Json) : Option Nat := j.count?.filter (· < UInt32.size)

/-- The double nearest to a whole number of at most 64 bits. -/
def doubleOfInt (n : Int) : Float :=
  if 0 ≤ n then (UInt64.ofNat n.toNat).toFloat else -(UInt64.ofNat n.natAbs).toFloat

/-- A number, whole or not, as a double. -/
def float? : Json → Option Float
  | .int n => some (doubleOfInt n)
  | .float x => some x
  | _ => none

/-- Absent when missing or null. -/
def present (j : Option Json) : Option Json :=
  match j with
  | some .null => none
  | j => j

def ofOption {α : Type} (encode : α → Json) : Option α → Json
  | none => .null
  | some a => encode a

/-- The entries for the values that are there. -/
def optional (name : String) (value : Option Json) : List (String × Json) :=
  match value with
  | none => []
  | some v => [(name, v)]

def ofUInt64 (n : UInt64) : Json := .int n.toNat

def ofInt64 (n : Int64) : Json := .int n.toInt

def ofNat (n : Nat) : Json := .int n

end Json

end Latchkey
