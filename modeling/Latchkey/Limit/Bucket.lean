import Latchkey.Limit.Amount
import Latchkey.Limit.Window
import Latchkey.Decimal.Style
/-!
# Token buckets

A bucket holds up to `capacity` tokens, and `refillTokens` flow in every `intervalMs`
milliseconds. It is refilled when it is asked: the time since the last call, in whole milliseconds,
says how much has flowed in. A request takes its cost out if that much is there. A bucket that has
not been seen before is full.
-/

namespace Latchkey

open Amount

variable {α : Type} [Amount α]

/-- At most `capacity` tokens; `refillTokens` every `intervalMs` milliseconds. -/
structure BucketLimit (α : Type) where
  capacity : α
  refillTokens : α
  intervalMs : UInt64

/-- The tokens in a bucket and when they were counted. -/
structure Bucket (α : Type) where
  tokens : α
  lastRefillAt : Instant

namespace BucketLimit

/-- A limit with the given interval; a negative interval counts as none. -/
def ofDuration (capacity refillTokens : α) (interval : Duration) : BucketLimit α :=
  ⟨capacity, refillTokens, UInt64.ofNat interval.millis.toNat⟩

def interval (l : BucketLimit α) : α := ofUInt64 l.intervalMs

/-- The milliseconds in which `tokens` flow in, rounded up; at most 2^63 - 1. -/
def millisToAccrue (l : BucketLimit α) (tokens : α) : Int :=
  if lt zero tokens then
    ceilWithin (-9223372036854775808) 9223372036854775807 (tokens / l.refillTokens * l.interval)
  else 0

/-- Whether an amount is finite and above zero. -/
def isPositive (x : α) : Bool := isFinite x && lt zero x

/-- What is wrong with the limit. -/
def fault? (l : BucketLimit α) : Option LimitFault :=
  if !isPositive l.capacity then some .capacityNotPositive
  else if !isPositive l.refillTokens then some .refillNotPositive
  else if l.intervalMs = 0 ∨ maxWindowMs < l.intervalMs.toNat then some .intervalOutOfRange
  else if (maxWindowMs : Int) < l.millisToAccrue l.capacity then some .refillTooSlow
  else none

/-- Whether a cost is finite and not negative. -/
def isCost (cost : α) : Bool := isFinite cost && le zero cost

/-- Whether the tokens of a bucket can be kept between 0 and the capacity. -/
def isBound (l : BucketLimit α) : Bool := le zero l.capacity

end BucketLimit

/-- The amount `x`, or the bound that it is beyond. -/
def clampAmount (low high x : α) : α :=
  if lt x low then low else if lt high x then high else x

namespace Bucket

/-- The tokens at `now`, counting what has flowed in. -/
def refilled (b : Option (Bucket α)) (now : Instant) (l : BucketLimit α) : α :=
  match b with
  | some b =>
    let elapsed := ofUInt64 (UInt64.ofNat (now.millisSince b.lastRefillAt))
    clampAmount zero l.capacity (b.tokens + elapsed / l.interval * l.refillTokens)
  | none => l.capacity

/-- When the bucket is back at its capacity; from then on it is like one not seen before. -/
def fullAt (b : Bucket α) (l : BucketLimit α) : Instant :=
  b.lastRefillAt.laterMillis (l.millisToAccrue (l.capacity - b.tokens))

/-- How long until the bucket has recovered: until one more request of the same cost fits if it is
short of that, and else until it is full. -/
def recovery (b : Bucket α) (success : Bool) (l : BucketLimit α) (cost : α) : Int :=
  if !success || lt b.tokens cost then l.millisToAccrue (cost - b.tokens)
  else l.millisToAccrue (l.capacity - b.tokens)

/-- The answer to the request that a bucket has just been charged for. -/
def outcome (b : Bucket α) (success : Bool) (l : BucketLimit α) (cost : α) : LimitResult :=
  { success
    remaining := UInt64.ofNat (floorWithin 0 18446744073709551615 b.tokens).toNat
    resetAt := b.lastRefillAt.laterMillis (b.recovery success l cost) }

/-- Refills the bucket and takes `cost` out of it if that much is there. -/
def consume (b : Option (Bucket α)) (now : Instant) (l : BucketLimit α) (cost : α) :
    Bucket α × LimitResult :=
  let tokens := refilled b now l
  let success := le zero cost && le cost tokens
  let b' : Bucket α := ⟨if success then tokens - cost else tokens, now⟩
  (b', b'.outcome success l cost)

/-- As `consume`, but none for a bucket whose tokens the capacity cannot bound. -/
def consume? (b : Option (Bucket α)) (now : Instant) (l : BucketLimit α) (cost : α) :
    Option (Bucket α × LimitResult) :=
  if b.isSome && !l.isBound then none else some (consume b now l cost)

end Bucket

/-- What is wrong with the cost of a request. -/
def costFault? (cost : Float) : Option LimitFault :=
  if BucketLimit.isCost cost then none else some (.invalidCost (FloatStyle.plain.text cost))

namespace BucketLimit

def toJson (l : BucketLimit Float) : Json :=
  .object [("capacity", .float l.capacity), ("refill_tokens", .float l.refillTokens),
    ("refill_interval_ms", Json.ofUInt64 l.intervalMs)]

def fieldNames : List String := ["capacity", "refill_tokens", "refill_interval_ms"]

def ofSlots? : List Json.Slot → Option (BucketLimit Float)
  | [capacity, refillTokens, intervalMs] => do
    some {
      capacity := ← capacity.required Json.float?
      refillTokens := ← refillTokens.required Json.float?
      intervalMs := ← intervalMs.required Json.uint64? }
  | _ => none

def ofJson? (j : Json) : Option (BucketLimit Float) := (Json.slots? fieldNames j).bind ofSlots?

end BucketLimit

namespace Bucket

def toJson (b : Bucket Float) : Json :=
  .object [("tokens", .float b.tokens), ("last_refill_at", Json.ofInstant b.lastRefillAt)]

def fieldNames : List String := ["tokens", "last_refill_at"]

def ofJson? (j : Json) : Option (Bucket Float) := do
  match ← Json.slots? fieldNames j with
  | [tokens, lastRefillAt] =>
    some {
      tokens := ← tokens.required Json.float?
      lastRefillAt := ← lastRefillAt.required Json.instant? }
  | _ => none

end Bucket

end Latchkey
