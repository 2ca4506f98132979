import Latchkey.Key.Id
import Latchkey.Key.Metadata
import Latchkey.Time.Text
/-!
# Key records

What is kept of an issued key: never the key itself, only its digest. Revocation is stored;
expiry and exhaustion follow from the record at the time of asking.
-/

namespace Latchkey

/-- The state of a key at some instant. -/
inductive KeyStatus where
  | active
  | revoked
  | expired
deriving DecidableEq

namespace KeyStatus

def text : KeyStatus → String
  | active => "active"
  | revoked => "revoked"
  | expired => "expired"

def ofText? (text : String) : Option KeyStatus :=
  [active, revoked, expired].find? fun s => s.text = text

end KeyStatus

structure KeyRecord where
  id : KeyId
  owner : Option String
  /-- The visible start of the key. -/
  label : String
  /-- The digest by which a presented key is found; no two stored records share one. -/
  digest : String
  createdAt : Instant
  expiresAt : Option Instant
  /-- How many uses are left; no number means no limit. -/
  uses : Option Int64
  revokedAt : Option Instant
  metadata : Metadata

namespace KeyRecord

/-- An active record without owner, expiry, limit or metadata. -/
def fresh (id : KeyId) (label digest : String) (createdAt : Instant) : KeyRecord :=
  { id, owner := none, label, digest, createdAt, expiresAt := none, uses := none,
    revokedAt := none, metadata := .empty }

def isRevoked (r : KeyRecord) : Bool := r.revokedAt.isSome

/-- A key has expired once `now` reaches its expiry. -/
def isExpiredAt (r : KeyRecord) (now : Instant) : Bool :=
  match r.expiresAt with
  | some at' => at' ≤ now
  | none => false

/-- Whether the key has a limit and nothing is left of it. -/
def isExhausted (r : KeyRecord) : Bool :=
  match r.uses with
  | some n => n ≤ 0
  | none => false

def statusAt (r : KeyRecord) (now : Instant) : KeyStatus :=
  if r.isRevoked then .revoked else if r.isExpiredAt now then .expired else .active

/-- The record revoked at `at'`, or as it is if it was revoked before. -/
def revoke (r : KeyRecord) (at' : Instant) : KeyRecord :=
  { r with revokedAt := r.revokedAt <|> some at' }

def mergeMetadata (r : KeyRecord) (patch : Metadata) : KeyRecord :=
  { r with metadata := r.metadata.merge patch }

end KeyRecord

namespace Json

def ofInstant (t : Instant) : Json := .string t.text

def instant? (j : Json) : Option Instant := j.string?.bind Instant.ofText?

def keyId? (j : Json) : Option KeyId := do
  let text ← j.string?
  (KeyId.ofText text).toOption

end Json

namespace KeyRecord

def toJson (r : KeyRecord) : Json :=
  .object (
    [("id", .string r.id.text)]
    ++ Json.optional "owner_id" (r.owner.map .string)
    ++ [("prefix", .string r.label), ("hash", .string r.digest),
      ("created_at", Json.ofInstant r.createdAt)]
    ++ Json.optional "expires_at" (r.expiresAt.map Json.ofInstant)
    ++ Json.optional "uses_remaining" (r.uses.map Json.ofInt64)
    ++ Json.optional "revoked_at" (r.revokedAt.map Json.ofInstant)
    ++ [("metadata", r.metadata.toJson)])

def fieldNames : List String :=
  ["id", "owner_id", "prefix", "hash", "created_at", "expires_at", "uses_remaining", "revoked_at",
    "metadata"]

def ofJson? (j : Json) : Option KeyRecord := do
  match ← Json.slots? fieldNames j with
  | [id, owner, label, digest, createdAt, expiresAt, uses, revokedAt, metadata] =>
    some {
      id := ← id.required Json.keyId?
      owner := ← owner.optional Json.string?
      label := ← label.required Json.string?
      digest := ← digest.required Json.string?
      createdAt := ← createdAt.required Json.instant?
      expiresAt := ← expiresAt.optional Json.instant?
      uses := ← uses.optional Json.int64?
      revokedAt := ← revokedAt.optional Json.instant?
      metadata := ← metadata.withDefault .empty Metadata.ofJson? }
  | _ => none

end KeyRecord

end Latchkey
