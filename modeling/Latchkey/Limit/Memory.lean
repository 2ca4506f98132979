import Latchkey.Limit.Store
import Latchkey.Table
/-!
# Rate limits in memory

Windows and buckets in two tables under their storage keys. A window that has ended and a bucket
that is full again read like ones that were never there, so a write drops them all when the last
such pruning is a minute old. The tables count in any kind of amount.
-/

namespace Latchkey

/-- A bucket with the instant from which on it is full. -/
structure StoredBucket (α : Type) where
  bucket : Bucket α
  fullAt : Instant

structure RateTable (α : Type) where
  windows : Table String Window := .empty
  buckets : Table String (StoredBucket α) := .empty
  /-- When a write prunes next; with the first write if there is no such time. -/
  nextPruneAt : Option Instant := none

namespace RateTable

variable {α : Type}

def size (t : RateTable α) : Nat := t.windows.size + t.buckets.size

/-- The table without what has ended or refilled by `now`. -/
def drop (now : Instant) (t : RateTable α) : RateTable α :=
  { t with
    windows := t.windows.filter fun _ w => now < w.resetAt
    buckets := t.buckets.filter fun _ b => now < b.fullAt }

/-- How long after a pruning a write prunes again. -/
def pruneInterval : Duration := .ofSeconds 60

/-- Drops what has ended or refilled and says how many entries that were. There must be a time for
the next pruning. -/
def prune {ε : Type} (now : Instant) : Act (RateTable α) ε Nat := do
  let before ← Act.read size
  Act.update (drop now)
  let after ← Act.read size
  match now.add? pruneInterval with
  | some next =>
    Act.update fun t => { t with nextPruneAt := some next }
    pure (before - after)
  | none => Act.outOfTime

def isPruneDue (now : Instant) (t : RateTable α) : Bool := t.nextPruneAt.all (· ≤ now)

def pruneIfDue {ε : Type} (now : Instant) : Act (RateTable α) ε Unit := do
  if ← Act.read (isPruneDue now) then
    let _ ← prune now

def increment (partition subject : String) (l : WindowLimit) (now : Instant) :
    Act (RateTable α) Error LimitResult := do
  refuse l.fault?
  let key ← storageKeyOf partition subject
  pruneIfDue now
  let current ← Act.read fun t => t.windows.get? key
  let (next, result) := Window.increment current now l
  Act.update fun t => { t with windows := t.windows.insert key next }
  pure result

def check (partition subject : String) (l : WindowLimit) (now : Instant) :
    Act (RateTable α) Error LimitResult := do
  refuse l.fault?
  let key ← storageKeyOf partition subject
  let current ← Act.read fun t => t.windows.get? key
  pure (Window.peek current now l)

/-- Consumes from a bucket under a limit and cost that have been found fit. -/
def consumeFit [Amount α] (partition subject : String) (l : BucketLimit α) (cost : α)
    (now : Instant) : Act (RateTable α) Error LimitResult := do
  let key ← storageKeyOf partition subject
  pruneIfDue now
  let current ← Act.read fun t => t.buckets.get? key
  let (next, result) := Bucket.consume (current.map (·.bucket)) now l cost
  Act.update fun t => { t with buckets := t.buckets.insert key ⟨next, next.fullAt l⟩ }
  pure result

def consume (partition subject : String) (l : BucketLimit Float) (cost : Float) (now : Instant) :
    Act (RateTable Float) Error LimitResult := do
  refuse l.fault?
  refuse (costFault? cost)
  consumeFit partition subject l cost now

def reset (partition subject : String) : Act (RateTable α) Error Unit := do
  let key ← storageKeyOf partition subject
  Act.update fun t => { t with windows := t.windows.erase key, buckets := t.buckets.erase key }

end RateTable

/-- The store of a table that is a part of the state, with the time that the state shows. -/
def RateStore.memory {σ : Type} (table : Lens σ (RateTable Float)) (now : σ → Instant) :
    RateStore σ where
  ready := pure ()
  atomicity := .atomic
  increment partition subject l := do
    (RateTable.increment partition subject l (← Act.read now)).onPart table
  check partition subject l := do
    (RateTable.check partition subject l (← Act.read now)).onPart table
  consume partition subject l cost := do
    (RateTable.consume partition subject l cost (← Act.read now)).onPart table
  reset partition subject := (RateTable.reset partition subject).onPart table

end Latchkey
