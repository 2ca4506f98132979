import Latchkey.Act
import Latchkey.Limit.Rule
/-!
# Stores of rate limits

A store keeps a window and a bucket for each subject of a partition and runs the rules on them.
-/

namespace Latchkey

/-- How well a store keeps the requests of one subject apart. -/
inductive Atomicity where
  /-- Every request is one step. -/
  | atomic
  /-- Reading and writing are two steps, and requests that come between them may pass the limit. -/
  | bestEffort
deriving DecidableEq

namespace Atomicity

def isAtomic (a : Atomicity) : Bool := a = atomic

def text : Atomicity → String
  | atomic => "atomic"
  | bestEffort => "best_effort"

def ofText? (text : String) : Option Atomicity :=
  [atomic, bestEffort].find? fun a => a.text = text

end Atomicity

/-- The operations of a store whose state is a part of `σ`. -/
structure RateStore (σ : Type) where
  /-- Connects or prepares the store. -/
  ready : Act σ Error Unit
  atomicity : Atomicity
  /-- Counts a request in the window and says whether it passes. -/
  increment (partition subject : String) (l : WindowLimit) : Act σ Error LimitResult
  /-- Says how the window stands without counting a request. -/
  check (partition subject : String) (l : WindowLimit) : Act σ Error LimitResult
  /-- Refills the bucket and takes `cost` out of it if that much is there. -/
  consume (partition subject : String) (l : BucketLimit Float) (cost : Float) :
    Act σ Error LimitResult
  /-- Forgets the window and the bucket. -/
  reset (partition subject : String) : Act σ Error Unit

/-- Fails with a fault, if there is one. -/
def refuse {σ : Type} (fault : Option LimitFault) : Act σ Error Unit :=
  match fault with
  | some f => .fail f.toError
  | none => pure ()

/-- The storage key, or the error that the partition is not fit for one. -/
def storageKeyOf {σ : Type} (partition subject : String) : Act σ Error String :=
  match storageKey partition subject with
  | .ok key => pure key
  | .error f => .fail f.toError

end Latchkey
