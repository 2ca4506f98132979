import Latchkey.Service.Basic
/-!
# Looking after keys

Operations on the record of one identifier. Each answers with the record as it has become, or with
none if there is no such record.
-/

namespace Latchkey.Service

variable {σ : Type}

def get (s : Service σ) (id : KeyId) : Act σ Error (Option KeyRecord) := s.load id

/-- Revokes a key. One that is revoked keeps its time of revocation. -/
def revoke (s : Service σ) (id : KeyId) : Act σ Error (Option KeyRecord) := do
  match ← s.load id with
  | none => pure none
  | some r =>
    if r.isRevoked then pure (some r)
    else
      let now ← s.clock
      access .revoke "Failed to revoke key" (s.store.revoke id now)
      s.track (.revoked id)
      pure (some (r.revoke now))

/-- Removes a key for good and says whether it was there. -/
def remove (s : Service σ) (id : KeyId) : Act σ Error Bool := do
  let removed ← access .write "Failed to remove key" (s.store.remove id)
  if removed then s.track (.removed id false)
  pure removed

/-- Stores the record after a change to it. -/
def save (s : Service σ) (purpose : String) (r : KeyRecord) : Act σ Error (Option KeyRecord) := do
  access .write purpose (s.store.update r)
  pure (some r)

/-- Moves the expiry by a span, counted from now if there is none. -/
def extend (s : Service σ) (id : KeyId) (span : Duration) : Act σ Error (Option KeyRecord) := do
  match ← s.load id with
  | none => pure none
  | some r =>
    let start ← match r.expiresAt with
      | some at' => pure at'
      | none => s.clock
    match start.add? span with
    | none => .fail (.validation "expiry extension is out of the representable range")
    | some at' => s.save "Failed to update key expiry" { r with expiresAt := some at' }

/-- Puts entries into the metadata, over old ones of the same names. -/
def updateMetadata (s : Service σ) (id : KeyId) (patch : Metadata) :
    Act σ Error (Option KeyRecord) := do
  match ← s.load id with
  | none => pure none
  | some r => s.save "Failed to update key metadata" (r.mergeMetadata patch)

end Latchkey.Service
