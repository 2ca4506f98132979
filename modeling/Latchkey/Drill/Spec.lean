import Latchkey.Drill.Parts
import Latchkey.Drill.Script
/-!
# Drills as a whole

Readers for faults, scripts and plugins, and for the state that a drill starts from.
-/

namespace Latchkey.Read

def faultPoint? : String → Option FaultPoint
  | "ready" => some .keysReady
  | "create_key" => some .create
  | "find_key_by_hash" => some .findByDigest
  | "find_key_by_id" => some .findById
  | "update_key" => some .update
  | "spend_use" => some .spend
  | "revoke_key_by_id" => some .revoke
  | "hard_remove_key_by_id" => some .remove
  | "find_expired_ids" => some .findExpired
  | "rl_ready" => some .ratesReady
  | "increment_and_check" => some .increment
  | "check" => some .check
  | "consume_token_bucket" => some .consume
  | "reset" => some .reset
  | "analytics_ready" => some .sinkReady
  | _ => none

/-- A fault, as what it does to the drill. -/
def fault (j : Json) : Read (Drill → Drill) := do
  let point ← ofOption (faultPoint? (← need string j "method"))
  let left ← may count j "times"
  match ← may error j "error", ← may flag j "returns" with
  | some e, _ => return Drill.setFault point { kind := .error e, left }
  | none, some b => return Drill.setFault point { kind := .answer b, left }
  | none, none => fail

def deed (j : Json) : Read Deed := do
  match ← string j with
  | "revoke" => return .revoke
  | "remove" => return .remove
  | "spend" => return .spend
  | "exhaust" => return .exhaust
  | "unlimit" => return .unlimit
  | _ => fail

def verdict (j : Json) : Read Verdict := do
  match ← may string j "error", ← may error j "domain_error" with
  | some text, _ => return .hookError text
  | none, some e => return .passedOn e
  | none, none =>
    match ← withDefault false flag j "allow", ← may string j "deny", ← may flag j "reject" with
    | true, _, _ => return .decision .allow
    | false, some reason, _ => return .decision (.rejecting reason)
    | false, none, some reject => return .decision { reject, reason := ← may string j "reason" }
    | false, none, none => return .silent

def cue (entry : String × Json) : Read (Phase × Cue) := do
  return (← ofOption (Phase.ofText? entry.1),
    { deed := ← may deed entry.2 "action", verdict := ← verdict entry.2 })

def cues (j : Json) : Read (List (Phase × Cue)) :=
  match j with
  | .object entries => entries.mapM cue
  | _ => fail

def verifyField (j : Json) : Read VerifyField := do ofOption (VerifyField.ofText? (← string j))

def offer : Json → Read (Offer Drill)
  | .string s => .ok (.text s)
  | j => return .number (← int64 j)

def capability (j : Json) : Read (Capability Drill) :=
  return ⟨← need string j "name", ← need offer j "value"⟩

def script (j : Json) : Read Script :=
  return {
    name := ← need string j "name"
    requiredFields := ← withDefault [] (items verifyField) j "fields"
    capabilities := ← withDefault [] (items capability) j "capabilities"
    setupError := ← may string j "setup_error"
    cues := ← withDefault [] cues j "hooks" }

def identity (j : Json) : Read LimitIdentity := do
  match ← string j with
  | "owner" => return .owner
  | _ => return .key

/-- Rate limits over the store of the drill. -/
def rateLimits (j : Json) : Read (RateLimits Drill) :=
  return {
    store := Drill.faultyRates Drill.rates
    rule := ← need rule j "rule"
    partition := ← may string j "namespace"
    identity := ← withDefault .key identity j "identity" }

def plugin (keys : KeyStore Drill) (j : Json) : Read (Plugin Drill) := do
  match ← need string j "type" with
  | "scopes" => return .scopes
  | "usage_limits" => return .usageLimits ⟨keys⟩
  | "rate_limit" => return .rateLimit (← rateLimits j)
  | "bare" => return { name := ← need string j "name" }
  | "script" => return (← script j).plugin
  | _ => fail

/-- What the plugins are called with at a phase. -/
def hook (r : KeyRecord) (j : Json) : Read Hook := do
  match Phase.ofText? (← need string j "phase") with
  | some .beforeCreate => return .beforeCreate (← createRequest j)
  | some .created => return .created r
  | some .beforeVerify => return .beforeVerify (← verifyRequest "" j)
  | some .recordLoaded => return .recordLoaded (← verifyRequest "" j) r
  | some .verified => return .verified (← verifyRequest "" j) r
  | _ => fail

/-- The state at the start. -/
def drill (j : Json) : Read Drill := do
  let faults ← withDefault [] (items fault) j "faults"
  let world : World := { now := ← withDefault .epoch instant j "now", entropy := ← entropy j }
  return faults.foldl (fun d f => f d) { world }

end Latchkey.Read
