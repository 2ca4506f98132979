import Latchkey.Json.Basic
/-!
# JSON as it is written

A draft is what a well-formed text says before its parts are given a meaning. Not every part has
one: a string may hold half of a surrogate pair, a number may be too large for a double, and values
may be nested too deep. A draft that is read as a value has to have a meaning throughout; one that
is read as a record needs it only in the record's fields, and has each of them once.
-/

namespace Latchkey.Json

inductive Draft where
  /-- A number or a word; none if it is a number too large for a double. -/
  | plain (value : Option Json)
  /-- A string; none if its escapes make no text. -/
  | string (text : Option String)
  | array (items : List Draft)
  | object (entries : List (Option String × Draft))

namespace Draft

mutual

/-- The value of a draft that is nested no more than `depth` deep. -/
def value? (depth : Nat) : Draft → Option Json
  | .plain value => value
  | .string text => text.map .string
  | .array items =>
    match depth with
    | 0 => none
    | depth + 1 => (items? depth items).map .array
  | .object entries =>
    match depth with
    | 0 => none
    | depth + 1 => (entries? depth entries).map ofEntries

def items? (depth : Nat) : List Draft → Option (List Json)
  | [] => some []
  | draft :: rest => do
    let value ← value? depth draft
    let others ← items? depth rest
    some (value :: others)

def entries? (depth : Nat) : List (Option String × Draft) → Option (List (String × Json))
  | [] => some []
  | (name, draft) :: rest => do
    let name ← name
    let value ← value? depth draft
    let others ← entries? depth rest
    some ((name, value) :: others)

end

/-- The entries under the given names, if each name stands there at most once. Every name has to be
a text, but entries under other names need no value. -/
def fields? (names : List String) (depth : Nat) :
    List (Option String × Draft) → Option (List (String × Json))
  | [] => some []
  | (name, draft) :: rest => do
    let name ← name
    let others ← fields? names depth rest
    if names.contains name then
      let value ← draft.value? depth
      if (others.lookup name).isSome then none else some ((name, value) :: others)
    else some others

/-- How deep values may be nested. -/
def depthLimit : Nat := 127

/-- The draft as JSON for a record of the given fields. -/
def record? (names : List String) : Draft → Option Json
  | .object entries => (fields? names (depthLimit - 1) entries).map .object
  | draft => draft.value? depthLimit

end Draft

end Latchkey.Json
