import Latchkey.Json.Decode
import Latchkey.Table
/-!
# Metadata

What the owner of a key attaches to it: JSON values under names, opaque to this library but for the
entries that a plugin looks up.
-/

namespace Latchkey

abbrev Metadata : Type := Table String Json

namespace Metadata

/-- The entries of `patch` over those of `m`. -/
def merge (m patch : Metadata) : Metadata :=
  patch.entries.foldl (fun m (name, value) => m.insert name value) m

def toJson (m : Metadata) : Json := .object m.entries

def ofJson? : Json → Option Metadata
  | .object entries => some (Table.ofList entries)
  | _ => none

end Metadata

end Latchkey
