import Latchkey.Json.Decode
import Latchkey.Service.Basic
/-!
# Sweeping expired keys

One sweep removes a batch of the records that have expired. That a record cannot be removed is
counted and does not end the sweep.
-/

namespace Latchkey

structure SweepOptions where
  /-- How many records to handle; at least one and at most a thousand are. -/
  batchSize : Nat := 100
  /-- Remove what had expired by this time; by now if not given. -/
  olderThan : Option Instant := none
deriving DecidableEq

structure SweepResult where
  /-- Records found for this batch. -/
  processed : Nat
  removed : Nat
  failed : Nat
  /-- The batch was full, so there may be more. -/
  mayRemain : Bool
deriving DecidableEq

namespace SweepOptions

def batch (o : SweepOptions) : Nat := max 1 (min 1000 o.batchSize)

def toJson (o : SweepOptions) : Json :=
  .object [("batch_size", Json.ofNat o.batchSize),
    ("older_than", Json.ofOption Json.ofInstant o.olderThan)]

def ofJson? (j : Json) : Option SweepOptions := do
  match ← Json.slots? ["batch_size", "older_than"] j with
  | [batchSize, olderThan] =>
    some {
      batchSize := ← batchSize.required Json.count?
      olderThan := ← olderThan.optional Json.instant? }
  | _ => none

end SweepOptions

namespace SweepResult

def toJson (r : SweepResult) : Json :=
  .object [("processed", Json.ofNat r.processed), ("removed", Json.ofNat r.removed),
    ("failed", Json.ofNat r.failed), ("remaining_hint", .bool r.mayRemain)]

def ofJson? (j : Json) : Option SweepResult := do
  match ← Json.slots? ["processed", "removed", "failed", "remaining_hint"] j with
  | [processed, removed, failed, mayRemain] =>
    some {
      processed := ← processed.required Json.count?
      removed := ← removed.required Json.count?
      failed := ← failed.required Json.count?
      mayRemain := ← mayRemain.required Json.bool? }
  | _ => none

end SweepResult

namespace Service

variable {σ : Type}

/-- What a failed search for expired records is reported as. -/
def scanError (e : Error) : Error :=
  if e.code = .sweepUnsupported then e else .keystore .read "Failed to list expired keys" (some e)

/-- Removes the records one after another, counting in `r` those removed and those that failed. -/
def removeEach (s : Service σ) (r : SweepResult) : List KeyId → Act σ Error SweepResult
  | [] => pure r
  | id :: ids => do
    match ← (s.store.remove id).attempt with
    | .ok true =>
      s.track (.removed id true)
      s.removeEach { r with removed := r.removed + 1 } ids
    | .ok false => s.removeEach r ids
    | .error (_ : Error) => s.removeEach { r with failed := r.failed + 1 } ids

def sweep (s : Service σ) (o : SweepOptions) : Act σ Error SweepResult := do
  let cutoff ← match o.olderThan with
    | some at' => pure at'
    | none => s.clock
  let ids ← (s.store.findExpired cutoff o.batch).mapError scanError
  s.removeEach ⟨ids.length, 0, 0, ids.length = o.batch⟩ ids

end Service

end Latchkey
