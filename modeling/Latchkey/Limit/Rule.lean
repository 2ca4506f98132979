import Latchkey.Limit.Bucket
/-!
# Rules and storage keys

A rule is a fixed window or a token bucket, told apart in JSON by an `algorithm` entry. What is
counted is a subject within a partition; both together name the stored state. A partition contains
no colon, so the first colon of the name ends the partition, and a subject may be any text.
-/

namespace Latchkey

inductive LimitRule where
  | window (l : WindowLimit)
  | bucket (l : BucketLimit Float)

namespace LimitRule

def fault? : LimitRule → Option LimitFault
  | window l => l.fault?
  | bucket l => l.fault?

def toJson : LimitRule → Json
  | window l => .object [("algorithm", .string "fixed_window"), ("limit", Json.ofUInt64 l.limit),
      ("window_ms", Json.ofUInt64 l.windowMs)]
  | bucket l => .object [("algorithm", .string "token_bucket"), ("capacity", .float l.capacity),
      ("refill_tokens", .float l.refillTokens), ("refill_interval_ms", Json.ofUInt64 l.intervalMs)]

/-- The rule of the named algorithm whose fields `body` holds, as an object or in order. -/
def ofBody? (algorithm : String) (body : Json) : Option LimitRule :=
  match algorithm with
  | "fixed_window" => (WindowLimit.ofJson? body).map window
  | "token_bucket" => (BucketLimit.ofJson? body).map bucket
  | _ => none

/-- An object with an `algorithm` entry, or an array that starts with the algorithm. -/
def ofJson? (j : Json) : Option LimitRule :=
  match j with
  | .object _ => do ofBody? (← (← j.get? "algorithm").string?) j
  | .array (.string algorithm :: fields) => ofBody? algorithm (.array fields)
  | _ => none

end LimitRule

/-- The name under which the state of a subject in a partition is kept. -/
def storageKey (partition subject : String) : Except LimitFault String :=
  if partition.toList.contains ':' then .error (.invalidPartition partition)
  else .ok (partition ++ ":" ++ subject)

end Latchkey
