import Latchkey.Key.Request
import Latchkey.Limit.Store
/-!
# Rate limits for keys

Counts the requests made with a key, or with all keys of an owner, under a rule. A key may carry a
rule of its own in its metadata; an entry there that is not a fit rule is passed over, so that
metadata alone cannot lift the limit.
-/

namespace Latchkey

/-- Whose requests are counted together. -/
inductive LimitIdentity where
  | key
  /-- Keys of one owner share a budget; a key without an owner has its own. -/
  | owner
deriving DecidableEq

structure RateLimits (σ : Type) where
  store : RateStore σ
  rule : LimitRule
  /-- The partition for requests that name none. -/
  partition : Option String := none
  identity : LimitIdentity := .key

namespace RateLimits

variable {σ : Type}

/-- Counts one request under a rule. -/
def apply (limits : RateLimits σ) (partition subject : String) (rule : LimitRule) :
    Act σ Error LimitResult :=
  match rule with
  | .window l => limits.store.increment partition subject l
  | .bucket l => limits.store.consume partition subject l 1

/-- How the default rule stands. Of a bucket nothing is asked, which only lets it refill. -/
def check (limits : RateLimits σ) (partition subject : String) : Act σ Error LimitResult :=
  match limits.rule with
  | .window l => limits.store.check partition subject l
  | .bucket l => limits.store.consume partition subject l 0

def reset (limits : RateLimits σ) (partition subject : String) : Act σ Error Unit :=
  limits.store.reset partition subject

/-- What a record's requests are counted under. -/
def subject (limits : RateLimits σ) (r : KeyRecord) : String :=
  match limits.identity with
  | .key => r.id.text
  | .owner => r.owner.getD r.id.text

/-- The metadata entry with a rule for the key alone. -/
def metadataName : String := "rate_limit"

/-- The rule that a record carries, if it is fit for use. -/
def override? (r : KeyRecord) : Option LimitRule := do
  let rule ← LimitRule.ofJson? (← r.metadata.get? metadataName)
  if rule.fault?.isNone then some rule else none

def ruleFor (limits : RateLimits σ) (r : KeyRecord) : LimitRule := (override? r).getD limits.rule

/-- The partition that a request names, or else the one for requests that name none. -/
def partitionFor (limits : RateLimits σ) (request : VerifyRequest) : Option String :=
  request.partition.filter (!·.isEmpty) <|> limits.partition

end RateLimits

end Latchkey
