import Latchkey.Service.Basic
/-!
# Verifying keys

The checks run in a fixed order and the first that fails decides: required fields, plugins before
the look-up, look-up, revocation, plugins on the loaded record, expiry, uses left, and last the
plugins for a success. Only a missing field and a failing store are errors.
-/

namespace Latchkey.Service

variable {σ : Type}

def missingField (plugin : String) (field : VerifyField) : Error :=
  .validation ("'" ++ field.text ++ "' is required by plugin '" ++ plugin ++ "'")

/-- Fails for the first required field that is not given. -/
def checkFields (s : Service σ) (request : VerifyRequest) : Act σ Error Unit :=
  match s.plugins.requiredFields.find? fun (_, field) => !request.hasField field with
  | some (plugin, field) => .fail (missingField plugin field)
  | none => pure ()

theorem checkFields_eq_of_find?_eq {s t : Service σ} {request : VerifyRequest}
    (h : s.plugins.requiredFields.find? (fun d => !request.hasField d.2) =
      t.plugins.requiredFields.find? fun d => !request.hasField d.2) :
    s.checkFields request = t.checkFields request :=
  congrArg (fun missing => (match missing with
    | some (plugin, field) => .fail (missingField plugin field)
    | none => pure () : Act σ Error Unit)) h

/-- Removes an expired record, if the service is to do so. That this fails changes nothing. -/
def dropExpired (s : Service σ) (r : KeyRecord) : Act σ Error Unit := do
  if s.config.autoDeleteExpired then
    match ← (s.store.remove r.id).attempt with
    | .ok _ => s.track (.removed r.id false)
    | .error (_ : Error) => pure ()

/-- The checks that follow once the plugins have let the loaded record pass. -/
def verifyStanding (s : Service σ) (request : VerifyRequest) (r : KeyRecord) :
    Act σ Error VerifyOutcome := do
  if r.isExpiredAt (← s.clock) then
    s.dropExpired r
    pure (.invalidFor r Reason.expired)
  else if r.isExhausted then pure (.invalidFor r Reason.usageExceeded)
  else
    s.track (.verified r.id r.owner request.partition)
    match ← s.plugins.run (.verified request r) with
    | some rejection => pure (.invalidFor r rejection.reason)
    | none => pure (.accepted r request.includeMetadata)

/-- The checks of a record that the presented key has led to. -/
def verifyRecord (s : Service σ) (request : VerifyRequest) (r : KeyRecord) :
    Act σ Error VerifyOutcome := do
  if r.isRevoked then pure (.invalidFor r Reason.revoked)
  else
    match ← s.plugins.run (.recordLoaded request r) with
    | some rejection => pure (.invalidFor r rejection.reason)
    | none => s.verifyStanding request r

/-- The record under the digest of a presented key. -/
def lookup (s : Service σ) (key : String) : Act σ Error (Option KeyRecord) :=
  access .read "Failed to load key by hash" (s.store.findByDigest (s.config.hasher.hash key))

def verify (s : Service σ) (request : VerifyRequest) : Act σ Error VerifyOutcome := do
  s.checkFields request
  match ← s.plugins.run (.beforeVerify request) with
  | some rejection => pure (.invalid rejection.reason)
  | none =>
    match ← s.lookup request.key with
    | none => pure (.invalid Reason.notFound)
    | some r => s.verifyRecord request r

end Latchkey.Service
