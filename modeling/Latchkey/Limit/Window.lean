import Latchkey.Error
import Latchkey.Key.Record
/-!
# Fixed windows

At most `limit` requests pass in a window of `windowMs` milliseconds. A window opens with its first
request and ends at `resetAt`, which no longer belongs to it. The rule is a pure step from a window,
or none, to the next; stores keep what it returns.
-/

namespace Latchkey

/-- The longest window, refill interval or wait for a full bucket: 366 days. -/
def maxWindowMs : Nat := 31622400000

/-- Why a rule is not fit for use. -/
inductive LimitFault where
  | windowNotPositive
  | windowTooLong
  | capacityNotPositive
  | refillNotPositive
  | intervalOutOfRange
  | refillTooSlow
  /-- The cost of a request, as text. -/
  | invalidCost (cost : String)
  /-- A partition that contains the separator of storage keys. -/
  | invalidPartition (partition : String)
deriving DecidableEq

namespace LimitFault

def message : LimitFault → String
  | windowNotPositive => "fixed window duration must be positive"
  | windowTooLong => "fixed window duration must not exceed 31622400000 ms"
  | capacityNotPositive => "bucket capacity must be positive"
  | refillNotPositive => "refill tokens must be positive"
  | intervalOutOfRange => "refill interval must be between 1 and 31622400000 ms"
  | refillTooSlow => "an empty bucket must refill within 31622400000 ms"
  | invalidCost cost => "token cost must be finite and non-negative, got " ++ cost
  | invalidPartition partition => "rate limit namespace must not contain ':': " ++ partition

def toError (f : LimitFault) : Error := .validation f.message

end LimitFault

/-- The answer to a request under a rate limit. -/
structure LimitResult where
  /-- Whether the request passes. -/
  success : Bool
  /-- Requests or whole tokens that are left. -/
  remaining : UInt64
  /-- When the window ends, or when the bucket is expected to have recovered. -/
  resetAt : Instant
deriving DecidableEq

namespace LimitResult

def toJson (r : LimitResult) : Json :=
  .object [("success", .bool r.success), ("remaining", Json.ofUInt64 r.remaining),
    ("reset_at", Json.ofInstant r.resetAt)]

def ofJson? (j : Json) : Option LimitResult := do
  match ← Json.slots? ["success", "remaining", "reset_at"] j with
  | [success, remaining, resetAt] =>
    some {
      success := ← success.required Json.bool?
      remaining := ← remaining.required Json.uint64?
      resetAt := ← resetAt.required Json.instant? }
  | _ => none

end LimitResult

/-- At most `limit` requests in `windowMs` milliseconds. -/
structure WindowLimit where
  limit : UInt64
  windowMs : UInt64
deriving DecidableEq

/-- An open window: the requests counted in it, and its end. -/
structure Window where
  count : UInt64
  resetAt : Instant
deriving DecidableEq

/-- One more, but never past the largest number. -/
def bump (n : UInt64) : UInt64 := if n = UInt64.ofNat (UInt64.size - 1) then n else n + 1

/-- What is left of `n` when `m` is taken away; nothing if `m` is more. -/
def leftOver (n m : UInt64) : UInt64 := if m ≤ n then n - m else 0

namespace WindowLimit

/-- A limit for a window of the given length; a negative length counts as none. -/
def ofDuration (limit : UInt64) (window : Duration) : WindowLimit :=
  ⟨limit, UInt64.ofNat window.millis.toNat⟩

/-- The length of the window, at most the longest allowed. -/
def length (l : WindowLimit) : Duration := .ofMillis (min l.windowMs.toNat maxWindowMs : Nat)

/-- What is wrong with the limit. -/
def fault? (l : WindowLimit) : Option LimitFault :=
  if l.windowMs = 0 then some .windowNotPositive
  else if maxWindowMs < l.windowMs.toNat then some .windowTooLong
  else none

def toJson (l : WindowLimit) : Json :=
  .object [("limit", Json.ofUInt64 l.limit), ("window_ms", Json.ofUInt64 l.windowMs)]

def fieldNames : List String := ["limit", "window_ms"]

def ofSlots? : List Json.Slot → Option WindowLimit
  | [limit, windowMs] => do
    some { limit := ← limit.required Json.uint64?, windowMs := ← windowMs.required Json.uint64? }
  | _ => none

def ofJson? (j : Json) : Option WindowLimit := (Json.slots? fieldNames j).bind ofSlots?

end WindowLimit

namespace Window

/-- The window, if there is one and it has not ended. -/
def live? (w : Option Window) (now : Instant) : Option Window :=
  w.filter fun w => now < w.resetAt

/-- The window with one more request counted, opened anew if it has ended. -/
def next (w : Option Window) (now : Instant) (l : WindowLimit) : Window :=
  match live? w now with
  | some w => { w with count := bump w.count }
  | none => ⟨1, now.later l.length⟩

/-- The answer to the request that a window has just counted. -/
def outcome (w : Window) (l : WindowLimit) : LimitResult :=
  ⟨w.count ≤ l.limit, leftOver l.limit w.count, w.resetAt⟩

/-- Counts a request. -/
def increment (w : Option Window) (now : Instant) (l : WindowLimit) : Window × LimitResult :=
  let w' := next w now l
  (w', w'.outcome l)

/-- How the window stands, without counting a request. -/
def peek (w : Option Window) (now : Instant) (l : WindowLimit) : LimitResult :=
  match live? w now with
  | some w => ⟨w.count < l.limit, leftOver l.limit w.count, w.resetAt⟩
  | none => ⟨0 < l.limit, l.limit, now.later l.length⟩

def toJson (w : Window) : Json :=
  .object [("count", Json.ofUInt64 w.count), ("reset_at", Json.ofInstant w.resetAt)]

def fieldNames : List String := ["count", "reset_at"]

def ofJson? (j : Json) : Option Window := do
  match ← Json.slots? fieldNames j with
  | [count, resetAt] =>
    some { count := ← count.required Json.uint64?, resetAt := ← resetAt.required Json.instant? }
  | _ => none

end Window

end Latchkey
