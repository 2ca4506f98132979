import Latchkey.Key.Record
/-!
# Requests about keys and what they lead to

The parameters of issuing and verifying a key, and the outcome of a verification. A key that is
not accepted is an outcome with a reason and not an error.
-/

namespace Latchkey

/-! The reasons that the library itself gives for not accepting a key. Plugins may give others. -/

namespace Reason

def notFound : String := "not_found"
def revoked : String := "revoked"
def expired : String := "expired"
def usageExceeded : String := "usage_exceeded"
def rateLimited : String := "rate_limited"
def insufficientScope : String := "insufficient_scope"

/-- What is reported for a plugin that rejects without a reason. -/
def rejected : String := "rejected"

end Reason

/-- Parameters of issuing a key. -/
structure CreateRequest where
  owner : Option String := none
  /-- Replaces the configured label for this key. -/
  label : Option String := none
  expiresAt : Option Instant := none
  uses : Option Int64 := none
  metadata : Metadata := .empty

/-- The fields of a verification that a plugin may insist on. -/
inductive VerifyField where
  /-- The part of the service under which requests are counted. -/
  | partition
  | scopes
deriving DecidableEq

namespace VerifyField

def text : VerifyField → String
  | partition => "namespace"
  | scopes => "scopes"

def ofText? (text : String) : Option VerifyField :=
  [partition, scopes].find? fun f => f.text = text

end VerifyField

/-- Parameters of verifying a presented key. -/
structure VerifyRequest where
  key : String
  partition : Option String := none
  /-- The scopes that the caller needs. -/
  scopes : List String := []
  includeMetadata : Bool := true

namespace VerifyRequest

/-- Whether a field is given: a partition that is not empty, or at least one scope. -/
def hasField (r : VerifyRequest) : VerifyField → Bool
  | .partition => r.partition.any (!·.isEmpty)
  | .scopes => !r.scopes.isEmpty

end VerifyRequest

/-- What a verification found. -/
structure VerifyOutcome where
  valid : Bool
  reason : Option String := none
  keyId : Option KeyId := none
  owner : Option String := none
  metadata : Option Metadata := none

namespace VerifyOutcome

/-- Not accepted, and no key record is known. -/
def invalid (reason : String) : VerifyOutcome := { valid := false, reason := some reason }

/-- Not accepted, and the key is known. -/
def invalidFor (r : KeyRecord) (reason : String) : VerifyOutcome :=
  { valid := false, reason := some reason, keyId := some r.id }

def accepted (r : KeyRecord) (includeMetadata : Bool) : VerifyOutcome :=
  { valid := true, keyId := some r.id, owner := r.owner,
    metadata := if includeMetadata then some r.metadata else none }

def toJson (o : VerifyOutcome) : Json :=
  .object (
    [("valid", .bool o.valid)]
    ++ Json.optional "reason" (o.reason.map .string)
    ++ Json.optional "key_id" (o.keyId.map (.string ·.text))
    ++ Json.optional "owner_id" (o.owner.map .string)
    ++ Json.optional "metadata" (o.metadata.map Metadata.toJson))

def ofJson? (j : Json) : Option VerifyOutcome := do
  match ← Json.slots? ["valid", "reason", "key_id", "owner_id", "metadata"] j with
  | [valid, reason, keyId, owner, metadata] =>
    some {
      valid := ← valid.required Json.bool?
      reason := ← reason.optional Json.string?
      keyId := ← keyId.optional Json.keyId?
      owner := ← owner.optional Json.string?
      metadata := ← metadata.optional Metadata.ofJson? }
  | _ => none

end VerifyOutcome

namespace CreateRequest

def toJson (r : CreateRequest) : Json :=
  .object (
    Json.optional "owner_id" (r.owner.map .string)
    ++ Json.optional "prefix" (r.label.map .string)
    ++ Json.optional "expires_at" (r.expiresAt.map Json.ofInstant)
    ++ Json.optional "uses_remaining" (r.uses.map Json.ofInt64)
    ++ [("metadata", r.metadata.toJson)])

def ofJson? (j : Json) : Option CreateRequest := do
  match ← Json.slots? ["owner_id", "prefix", "expires_at", "uses_remaining", "metadata"] j with
  | [owner, label, expiresAt, uses, metadata] =>
    some {
      owner := ← owner.withDefault none (Json.Slot.nullable Json.string?)
      label := ← label.withDefault none (Json.Slot.nullable Json.string?)
      expiresAt := ← expiresAt.withDefault none (Json.Slot.nullable Json.instant?)
      uses := ← uses.withDefault none (Json.Slot.nullable Json.int64?)
      metadata := ← metadata.withDefault .empty Metadata.ofJson? }
  | _ => none

end CreateRequest

/-- What one plugin says about an operation. -/
structure Decision where
  reject : Bool
  reason : Option String := none
deriving DecidableEq

namespace Decision

def allow : Decision := { reject := false }

def rejecting (reason : String) : Decision := { reject := true, reason := some reason }

def toJson (d : Decision) : Json :=
  .object ([("reject", .bool d.reject)] ++ Json.optional "reason" (d.reason.map .string))

def ofJson? (j : Json) : Option Decision := do
  match ← Json.slots? ["reject", "reason"] j with
  | [reject, reason] =>
    some {
      reject := ← reject.required Json.bool?
      reason := ← reason.withDefault none (Json.Slot.nullable Json.string?) }
  | _ => none

end Decision

/-- The points of a key's life at which plugins are called. -/
inductive Phase where
  | setup
  | beforeCreate
  | created
  | beforeVerify
  | recordLoaded
  | verified
deriving DecidableEq

namespace Phase

def all : List Phase := [setup, beforeCreate, created, beforeVerify, recordLoaded, verified]

def text : Phase → String
  | setup => "setup"
  | beforeCreate => "before_create_key"
  | created => "on_key_created"
  | beforeVerify => "before_verify"
  | recordLoaded => "on_key_record_loaded"
  | verified => "on_verify_success"

def ofText? (text : String) : Option Phase := all.find? fun p => p.text = text

end Phase

end Latchkey
