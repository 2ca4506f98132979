import Latchkey.Json.Basic
import Latchkey.Settings.Path
import Latchkey.Table
import Latchkey.Text.Lower
/-!
# Settings before they are understood

Settings come in layers, each a tree of values that know where they were written. A later layer is
laid over an earlier one along paths: tables are joined entry by entry, and any other value takes
the place of what was there. What a path needs on its way and does not find is made.
-/

namespace Latchkey

inductive Scalar where
  | nothing
  | flag (b : Bool)
  | whole (n : Int)
  | real (x : Float)
  | text (s : String)

/-- A value in a layer, with the place it was written in. There is none for what was made on the
way to another value, and a table that is joined with another one forgets its own. -/
inductive Setting where
  | scalar (value : Scalar) (origin : Option String)
  | list (items : List Setting) (origin : Option String)
  | table (entries : List (String × Setting)) (origin : Option String)

namespace Setting

/-- Nothing, written nowhere. -/
def nil : Setting := scalar .nothing none

/-- The entries of a table; none of anything else. -/
def entries : Setting → List (String × Setting)
  | table entries _ => entries
  | _ => []

/-- A table with other entries. Anything else becomes a table. -/
def withEntries (s : Setting) (entries : List (String × Setting)) : Setting :=
  match s with
  | table _ origin => table entries origin
  | _ => table entries none

/-- The items of a list; none of anything else. -/
def items : Setting → List Setting
  | list items _ => items
  | _ => []

/-- A list with other items. Anything else becomes a list. -/
def withItems (s : Setting) (items : List Setting) : Setting :=
  match s with
  | list _ origin => list items origin
  | _ => list items none

mutual

/-- The entries with a value put in under a name. A table is laid over what is there. -/
def put (name : String) (value : Setting) (below : List (String × Setting)) :
    List (String × Setting) :=
  match value with
  | table incoming _ =>
    Table.put name (overlay incoming ((Table.find? name below).getD (.table [] none))) below
  | value => Table.put name value below

/-- A value with entries put in one by one. What is no table gives way to the first. -/
def overlay : List (String × Setting) → Setting → Setting
  | [], below => below
  | (name, value) :: rest, below => overlay rest (below.withEntries (put name value below.entries))

end

/-- More items than this no list has. -/
def mostItems : Nat := 0x1000000

/-- The place that an index names in a list of `count` items. It may lie behind the last one, but
not before the first. -/
def position? (index : Int) (count : Nat) : Option Nat :=
  if 0 ≤ index then some index.toNat
  else if index.natAbs ≤ count then some (count - index.natAbs)
  else none

/-- The items with one of them changed. A list that is too short is filled up with nothing. -/
def changeItem? (index : Int) (change : Setting → Option Setting) (items : List Setting) :
    Option (List Setting) := do
  let i ← (position? index items.length).filter (· < mostItems)
  let item ← change (items.getD i nil)
  some ((items ++ List.replicate (i + 1 - items.length) nil).set i item)

/-- The layer `below` with a value put in at the end of a path, if there can be such a place. -/
def place? (value : Setting) : List PathPart → Setting → Option Setting
  | [], _ => some value
  | [.entry name], below => some (below.withEntries (put name value below.entries))
  | .entry name :: rest, below => do
    let inner ← place? value rest ((Table.find? name below.entries).getD nil)
    some (below.withEntries (Table.put name inner below.entries))
  | .item index :: rest, below => do
    let items ← changeItem? index (place? value rest) below.items
    some (below.withItems items)

/-! ## From JSON -/

/-- A whole number of 64 bits; a larger one as a double. -/
def scalarOfInt (n : Int) : Scalar :=
  if -9223372036854775808 ≤ n ∧ n ≤ 9223372036854775807 then .whole n else .real (Json.doubleOfInt n)

/-- The entries with their names in lower case. Of names that become one the last counts, in the
order of the names as they are written. -/
def lowerNames (entries : List (String × Setting)) : List (String × Setting) :=
  (entries.mergeSort fun a b => decide (a.1 ≤ b.1)).foldl
    (fun below (name, value) => Table.put (Text.lower name) value below) []

mutual

def ofJson (origin : String) : Json → Setting
  | .null => scalar .nothing origin
  | .bool b => scalar (.flag b) origin
  | .int n => scalar (scalarOfInt n) origin
  | .float x => scalar (.real x) origin
  | .string s => scalar (.text s) origin
  | .array items => list (ofItems origin items) origin
  | .object entries => table (lowerNames (ofEntries origin entries)) origin

def ofItems (origin : String) : List Json → List Setting
  | [] => []
  | j :: rest => ofJson origin j :: ofItems origin rest

def ofEntries (origin : String) : List (String × Json) → List (String × Setting)
  | [] => []
  | (name, j) :: rest => (name, ofJson origin j) :: ofEntries origin rest

end

end Setting

end Latchkey
