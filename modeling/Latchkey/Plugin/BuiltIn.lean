import Latchkey.Plugin.Basic
/-!
# The plugins that come with the service

All three look at a presented key once its record is loaded: `Plugin.rateLimit` counts the request,
`Plugin.usageLimits` spends a use, and `Plugin.scopes` asks for the scopes that the request needs.
-/

namespace Latchkey

variable {σ : Type}

/-- The plugin with an answer to loaded records only. -/
def Plugin.onRecordLoaded (plugin : Plugin σ)
    (answer : VerifyRequest → KeyRecord → Act σ PluginError (Option Decision)) : Plugin σ :=
  { plugin with
    answer := fun
      | .recordLoaded request record => answer request record
      | _ => pure none }

namespace RateLimits

def pluginName : String := "rate_limit"

def capabilityName : String := "rateLimits"

def noPartition : PluginError := .configuration pluginName "no namespace to rate limit under"

/-- Rejects a request that the rule for its key does not let pass. -/
def answer (limits : RateLimits σ) (request : VerifyRequest) (r : KeyRecord) :
    Act σ PluginError (Option Decision) := do
  match limits.partitionFor request with
  | none => .fail noPartition
  | some partition =>
    let result ← (limits.apply partition (limits.subject r) (limits.ruleFor r)).mapError .passedOn
    pure (if result.success then none else some (.rejecting Reason.rateLimited))

def setup (limits : RateLimits σ) : Act σ PluginError Unit :=
  match limits.rule.fault? with
  | some f => .fail (.setupFailed pluginName f.toError.message)
  | none => pure ()

end RateLimits

/-- Limits the rate of requests. Without a partition of its own it requires one of each request. -/
def Plugin.rateLimit (limits : RateLimits σ) : Plugin σ :=
  { name := RateLimits.pluginName
    requiredFields := if limits.partition.isSome then [] else [.partition]
    capabilities := [⟨RateLimits.capabilityName, .rateLimits limits⟩]
    setup := limits.setup : Plugin σ }.onRecordLoaded limits.answer

namespace UsageLimits

def pluginName : String := "usage_limits"

def capabilityName : String := "usageLimits"

/-- Spends a use and rejects if there is none. The record may be older than what is stored, so it is
the store that says whether one was left. -/
def answer (limits : UsageLimits σ) (r : KeyRecord) : Act σ PluginError (Option Decision) := do
  match r.uses with
  | none => pure none
  | some left =>
    if left ≤ 0 then pure (some (.rejecting Reason.usageExceeded))
    else
      match ← (limits.store.spend r.id).mapError .passedOn with
      | .spent _ | .unlimited => pure none
      | .exhausted | .missing => pure (some (.rejecting Reason.usageExceeded))

end UsageLimits

/-- Spends one use with each verification. -/
def Plugin.usageLimits (limits : UsageLimits σ) : Plugin σ :=
  { name := UsageLimits.pluginName
    capabilities := [⟨UsageLimits.capabilityName, .usageLimits limits⟩] : Plugin σ }.onRecordLoaded
      fun _ r => limits.answer r

namespace Scopes

def pluginName : String := "scopes"

/-- The metadata entry that lists what a key may be used for. -/
def metadataName : String := "scopes"

/-- The texts of the list; anything else in it grants nothing. -/
def granted (r : KeyRecord) : List String :=
  match (r.metadata.get? metadataName).bind Json.array? with
  | some items => items.filterMap Json.string?
  | none => []

def answer (request : VerifyRequest) (r : KeyRecord) : Option Decision :=
  if request.scopes.all (granted r).contains then none
  else some (.rejecting Reason.insufficientScope)

end Scopes

/-- Rejects a request for a scope that the key does not grant. -/
def Plugin.scopes : Plugin σ :=
  { name := Scopes.pluginName : Plugin σ }.onRecordLoaded fun request r =>
    pure (Scopes.answer request r)

end Latchkey
