import Latchkey.Key.Store
/-!
# Usage budgets of keys

Changes the number of uses that a key has left. Only a key with a number can be topped up, and the
sum stays within 64 bits; setting can take the limit away or bring one in.
-/

namespace Latchkey

structure UsageLimits (σ : Type) where
  store : KeyStore σ

namespace UsageLimits

variable {σ : Type}

/-- The sum of what is left and `amount`, counting less than nothing as nothing. -/
def toppedUp (left amount : Int64) : Int64 :=
  .ofInt (max (-9223372036854775808) (min 9223372036854775807 (max 0 left.toInt + amount.toInt)))

/-- Adds `amount` uses to a key that has a limit; answers with its record. -/
def topUp (limits : UsageLimits σ) (id : KeyId) (amount : Int64) :
    Act σ Error (Option KeyRecord) := do
  match ← limits.store.findById id with
  | none => pure none
  | some r =>
    match r.uses with
    | none => pure (some r)
    | some left =>
      let r := { r with uses := some (toppedUp left amount) }
      limits.store.update r
      pure (some r)

/-- Replaces the number of uses left; answers with the record. -/
def setRemaining (limits : UsageLimits σ) (id : KeyId) (uses : Option Int64) :
    Act σ Error (Option KeyRecord) := do
  match ← limits.store.findById id with
  | none => pure none
  | some r =>
    let r := { r with uses }
    limits.store.update r
    pure (some r)

end UsageLimits

end Latchkey
