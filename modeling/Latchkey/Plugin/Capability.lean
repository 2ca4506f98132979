import Latchkey.Plugin.RateLimits
import Latchkey.Plugin.UsageLimits
/-!
# Capabilities

What plugins offer to callers of the service beyond its own operations, under names. A look-up says
which kind of thing is wanted, and finds nothing if another kind is there.
-/

namespace Latchkey

/-- What a capability gives to its caller. -/
inductive Offer (σ : Type) where
  | number (n : Int64)
  | text (s : String)
  | rateLimits (limits : RateLimits σ)
  | usageLimits (limits : UsageLimits σ)

namespace Offer

variable {σ : Type}

def number? : Offer σ → Option Int64
  | number n => some n
  | _ => none

def text? : Offer σ → Option String
  | text s => some s
  | _ => none

def rateLimits? : Offer σ → Option (RateLimits σ)
  | rateLimits limits => some limits
  | _ => none

def usageLimits? : Offer σ → Option (UsageLimits σ)
  | usageLimits limits => some limits
  | _ => none

end Offer

structure Capability (σ : Type) where
  name : String
  offer : Offer σ

/-- Offers under their names. A later one replaces an earlier one of the same name. -/
abbrev Capabilities (σ : Type) : Type := Table String (Offer σ)

namespace Capabilities

variable {σ : Type}

def add (cs : Capabilities σ) (c : Capability σ) : Capabilities σ := cs.insert c.name c.offer

def ofList (cs : List (Capability σ)) : Capabilities σ := cs.foldl add .empty

/-- The names in the order of their characters. -/
def names (cs : Capabilities σ) : List String := cs.keys.mergeSort fun a b => a ≤ b

def rateLimits? (cs : Capabilities σ) (name : String) : Option (RateLimits σ) :=
  (cs.get? name).bind Offer.rateLimits?

def usageLimits? (cs : Capabilities σ) (name : String) : Option (UsageLimits σ) :=
  (cs.get? name).bind Offer.usageLimits?

end Capabilities

end Latchkey
