import Latchkey.Drill.Read
import Latchkey.Limit.Rule
import Latchkey.Service.Config
import Latchkey.Service.World
/-!
# The parts of a drill

Readers for what a service is made of and works on: errors, sources of bytes, kinds of keys,
limits, records and requests. Limits are read as they stand, fit or not.
-/

namespace Latchkey

namespace Json

theorem sizeOf_lt_of_lookup {name : String} {v : Json} {entries : List (String × Json)}
    (h : entries.lookup name = some v) : sizeOf v < sizeOf entries := by
  induction entries with
  | nil => simp at h
  | cons e rest ih =>
    obtain ⟨n, w⟩ := e
    rw [List.lookup_cons] at h
    simp only [List.cons.sizeOf_spec, Prod.mk.sizeOf_spec]
    split at h
    · cases h; omega
    · have := ih h; omega

theorem sizeOf_lt_of_get? {name : String} {v j : Json} (h : j.get? name = some v) :
    sizeOf v < sizeOf j := by
  unfold get? at h
  split at h
  · have := sizeOf_lt_of_lookup h
    simp only [object.sizeOf_spec]; omega
  · simp at h

end Json

namespace Read

def window (j : Json) : Read WindowLimit :=
  return ⟨← need uint64 j "limit", ← need uint64 j "window_ms"⟩

def bucket (j : Json) : Read (BucketLimit Float) :=
  return ⟨← need float j "capacity", ← need float j "refill_tokens",
    ← need uint64 j "refill_interval_ms"⟩

def rule (j : Json) : Read LimitRule := do
  match ← need string j "algorithm" with
  | "fixed_window" => return .window (← window j)
  | "token_bucket" => return .bucket (← bucket j)
  | _ => fail

/-- The error of a given kind. -/
def errorOf? (kind message plugin reason event : String) (cause : Option Error) : Option Error :=
  match kind with
  | "keystore_read" => some (.keystore .read message cause)
  | "keystore_write" => some (.keystore .write message cause)
  | "keystore_revoke" => some (.keystore .revoke message cause)
  | "key_generation" => some (.keyGeneration message)
  | "plugin_blocked" => some (.pluginBlocked plugin reason)
  | "plugin_setup" => some (.pluginSetup plugin message)
  | "analytics_track" => some (.analyticsTrack event message)
  | "sweep_unsupported" => some (.sweepUnsupported message)
  | "rate_limit_store" => some (.rateLimitStore message true)
  | "rate_limit_store_permanent" => some (.rateLimitStore message false)
  | "unsupported" => some (.unsupported message)
  | "validation" => some (.validation message)
  | "storage" => some (.storage message true)
  | "storage_permanent" => some (.storage message false)
  | "configuration" => some (.configuration message)
  | _ => none

def error (j : Json) : Read Error := do
  let cause ←
    match h : j.get? "cause" with
    | none | some .null => pure none
    | some c =>
      have := Json.sizeOf_lt_of_get? h
      some <$> error c
  ofOption (errorOf? (← need string j "kind") (← withDefault "" string j "message")
    (← withDefault "" string j "plugin") (← withDefault "" string j "reason")
    (← withDefault "" string j "event") cause)
termination_by sizeOf j

/-- A count from zero unless another source is given. -/
def entropy (j : Json) : Read Entropy := do
  match ← may any j "random" with
  | none => return .counter 0
  | some r =>
    match ← may bytes r "hex", ← may uint64 r "seed", ← may count r "counter" with
    | some bytes, _, _ =>
      return if ← withDefault false flag r "fail" then .finite bytes else .cycle bytes 0
    | none, some seed, _ => return .seeded (.ofSeed seed)
    | none, none, some n => return .counter n
    | none, none, none => fail

/-- Keyed with given bytes, or one that shows the length of the key, or that of a secret. -/
def hasher (j : Json) : Read Hasher := do
  match ← may bytes j "secret_hex" with
  | some key => return .hmacSha256 key
  | none =>
    if ← withDefault false flag j "custom_len" then
      return .custom fun key => "custom:" ++ toString key.utf8ByteSize
    else return .ofSecret (← may string j "secret")

def recipe (j : Json) : Read Recipe := do
  match ← may string j "text", ← may count j "random_hex", ← may error j "error" with
  | some text, _, _ => return .done (.ok text)
  | none, some n, _ => return .draw n fun bytes => .done (bytes.map Hex.encode)
  | none, none, some e => return .done (.error e)
  | none, none, none => fail

def kind (j : Json) : Read KeyKind := do
  match ← may recipe j "custom" with
  | some recipe => return .custom recipe
  | none =>
    (KeyKind.ofName (← withDefault "url_safe" string j "kind")
      (← withDefault 32 count j "length")).mapError .error

def generator (j : Json) : Read Generator :=
  return { label := ← withDefault "" string j "prefix", kind := ← kind j }

def keySettings (j : Json) : Read KeySettings := do
  let defaults : KeySettings := {}
  return {
    label := ← withDefault defaults.label string j "prefix"
    kind := ← withDefault defaults.kind string j "kind"
    length := ← withDefault defaults.length count j "length"
    secret := ← may string j "hash_secret"
    autoDeleteExpired := ← withDefault defaults.autoDeleteExpired flag j "auto_delete_expired" }

def serviceConfig (j : Json) : Read ServiceConfig :=
  return {
    generator := ← generator j
    hasher := ← hasher j
    autoDeleteExpired := ← withDefault false flag j "auto_delete_expired" }

def record (j : Json) : Read KeyRecord :=
  return {
    id := ← need keyId j "id"
    digest := ← need string j "hash"
    label := ← withDefault "" string j "prefix"
    createdAt := ← withDefault .epoch instant j "created_at"
    owner := ← may string j "owner_id"
    expiresAt := ← may instant j "expires_at"
    uses := ← may int64 j "uses"
    revokedAt := ← may instant j "revoked_at"
    metadata := ← withDefault .empty metadata j "metadata" }

def createRequest (j : Json) : Read CreateRequest :=
  return {
    owner := ← may string j "owner_id"
    label := ← may string j "prefix"
    expiresAt := ← may instant j "expires_at"
    uses := ← may int64 j "uses"
    metadata := ← withDefault .empty metadata j "metadata" }

def verifyRequest (key : String) (j : Json) : Read VerifyRequest :=
  return {
    key
    partition := ← may string j "namespace"
    scopes := ← withDefault [] (items string) j "scopes"
    includeMetadata := ← withDefault true flag j "include_metadata" }

end Read

end Latchkey
