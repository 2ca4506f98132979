import Latchkey.Json.Basic
/-!
# Decoding JSON into records

A record is written as an object or as an array of its fields in order. In an object, entries of
other names are passed over, and a field that may be missing may also be `null`. An array has no
more items than the record has fields; at its end only fields with a default may be left out.
-/

namespace Latchkey.Json

/-- What a record's JSON has for one field. -/
inductive Slot where
  | value (j : Json)
  /-- The object has no such entry. -/
  | missing
  /-- The array has ended. -/
  | ended

/-- The slots of a record's fields, in order. -/
def slots? (names : List String) (j : Json) : Option (List Slot) :=
  match j with
  | .object entries => some (names.map fun name =>
      match entries.lookup name with
      | some v => .value v
      | none => .missing)
  | .array items =>
    if items.length ≤ names.length then
      some (items.map .value ++ List.replicate (names.length - items.length) .ended)
    else none
  | _ => none

namespace Slot

/-- A field that must be there. -/
def required {α : Type} (decode : Json → Option α) : Slot → Option α
  | value j => decode j
  | _ => none

/-- A value, or nothing for `null`. -/
def nullable {α : Type} (decode : Json → Option α) : Json → Option (Option α)
  | .null => some none
  | j => (decode j).map some

/-- A field that an object may leave out. -/
def optional {α : Type} (decode : Json → Option α) : Slot → Option (Option α)
  | value j => nullable decode j
  | missing => some none
  | ended => none

/-- A field with a default. -/
def withDefault {α : Type} (default : α) (decode : Json → Option α) : Slot → Option α
  | value j => decode j
  | _ => some default

end Slot

end Latchkey.Json
