import Latchkey.Json.Printer
import Latchkey.Plugin.Pipeline
import Latchkey.Postgres.Config
import Latchkey.Postgres.Store
import Latchkey.Redis.Config
import Latchkey.Service.Issue
import Latchkey.Text.Outline
/-!
# What a log shows

The outlines of the values that reach a log. A key and a secret are never among the fields shown,
and where a key stands its place is marked.
-/

namespace Latchkey

open Text

/-- What stands in the place of a key. -/
def redactedText : String := quoted "<redacted>"

namespace Json

mutual

def outline : Json → String
  | .null => "Null"
  | .bool b => "Bool(" ++ toString b ++ ")"
  | .int n => "Number(" ++ toString n ++ ")"
  | .float x => "Number(" ++ floatText x ++ ")"
  | .string s => "String(" ++ quoted s ++ ")"
  | .array items => "Array " ++ listOutline (itemOutlines items)
  | .object entries => "Object \x7b" ++ ", ".intercalate (entryOutlines entries) ++ "\x7d"

def itemOutlines : List Json → List String
  | [] => []
  | item :: rest => outline item :: itemOutlines rest

def entryOutlines : List (String × Json) → List String
  | [] => []
  | (name, value) :: rest => (quoted name ++ ": " ++ outline value) :: entryOutlines rest

end

end Json

def Metadata.outline (m : Metadata) : String :=
  "\x7b" ++ ", ".intercalate (Json.entryOutlines m.entries) ++ "\x7d"

def KeyId.outline (id : KeyId) : String := "KeyId(" ++ quoted id.text ++ ")"

def KeyRecord.outline (r : KeyRecord) : String :=
  Text.outline "KeyRecord" [("id", r.id.outline), ("owner_id", optionOutline (r.owner.map quoted)),
    ("prefix", quoted r.label), ("hash", quoted r.digest), ("created_at", r.createdAt.text),
    ("expires_at", optionOutline (r.expiresAt.map Instant.text)),
    ("uses_remaining", optionOutline (r.uses.map fun n => toString n.toInt)),
    ("revoked_at", optionOutline (r.revokedAt.map Instant.text)),
    ("metadata", r.metadata.outline)] false

def IssuedKey.outline (k : IssuedKey) : String :=
  Text.outline "CreatedKey" [("id", k.id.outline), ("plaintext", redactedText),
    ("record", k.record.outline)] false

def VerifyRequest.outline (r : VerifyRequest) : String :=
  Text.outline "VerifyInput" [("key", redactedText),
    ("namespace", optionOutline (r.partition.map quoted)),
    ("scopes", listOutline (r.scopes.map quoted)),
    ("include_metadata", toString r.includeMetadata)] false

def Hasher.providerOutline (h : Hasher) : String :=
  Text.outline "CryptoProvider" [("random", "OsRandom"), ("hasher", h.debugText)] false

variable {σ : Type}

def Capability.outline (c : Capability σ) : String :=
  Text.outline "Capability" [("name", quoted c.name)] true

def Capabilities.outline (cs : Capabilities σ) : String :=
  Text.outline "CapabilityRegistry" [("names", listOutline (cs.names.map quoted))] false

def Pipeline.outline (ps : Pipeline σ) : String :=
  Text.outline "PluginPipeline" [("plugins", listOutline (ps.names.map quoted))] false

def RateStore.memoryOutline : String :=
  Text.outline "InMemoryRateLimitStore" [("clock", "SystemClock")] true

def RateStore.pooledOutline : String :=
  Text.outline "PostgresRateLimitStore" [("windows_table", quoted windowsTable),
    ("buckets_table", quoted bucketsTable)] false

def PostgresConfig.outline (c : PostgresConfig) : String :=
  Text.outline "PostgresConfig" [("url", quoted c.url),
    ("max_connections", toString c.maxConnections), ("min_connections", toString c.minConnections),
    ("connect_timeout_secs", toString c.connectTimeoutSecs),
    ("idle_timeout_secs", toString c.idleTimeoutSecs)] false

def RedisMode.name : RedisMode → String
  | scripted => "Scripted"
  | bestEffort => "BestEffort"

def RedisConfig.outline (c : RedisConfig) : String :=
  Text.outline "RedisRateLimitConfig" [("url", quoted c.url), ("key_prefix", quoted c.keyLabel),
    ("mode", c.mode.name), ("strict", toString c.strict)] false

/-- The store, without its connection. -/
def RedisConfig.storeOutline (c : RedisConfig) : String :=
  Text.outline "RedisRateLimitStore" [("config", c.outline),
    ("connection", quoted "<ConnectionManager>")] false

end Latchkey
