import Latchkey.Act
import Latchkey.Error
import Latchkey.Key.Record
/-!
# Stores of key records

What a store of key records does. That a record is not there is an answer and never an error.
-/

namespace Latchkey

/-- What came of spending a use of a key. -/
inductive UseSpend where
  /-- One use was spent and this many are left. -/
  | spent (left : Int64)
  /-- None was left and nothing changed. -/
  | exhausted
  /-- The key has no limit. -/
  | unlimited
  | missing
deriving DecidableEq

/-- The operations of a store whose state is a part of `σ`. -/
structure KeyStore (σ : Type) where
  /-- Connects or prepares the store. -/
  ready : Act σ Error Unit
  /-- Keeps a new record, unless its identifier or its digest is taken. -/
  create (r : KeyRecord) : Act σ Error Unit
  findByDigest (digest : String) : Act σ Error (Option KeyRecord)
  findById (id : KeyId) : Act σ Error (Option KeyRecord)
  /-- Replaces a record. A revocation that is stored stays. -/
  update (r : KeyRecord) : Act σ Error Unit
  /-- Spends one of the uses left and changes nothing else. -/
  spend (id : KeyId) : Act σ Error UseSpend
  /-- Marks a record revoked; an earlier revocation stays. -/
  revoke (id : KeyId) (at' : Instant) : Act σ Error Unit
  /-- Removes a record and says whether it was there. -/
  remove (id : KeyId) : Act σ Error Bool
  /-- Identifiers of at most `limit` records whose expiry is `cutoff` or before. -/
  findExpired (cutoff : Instant) (limit : Nat) : Act σ Error (List KeyId)

/-- The search for expired records of a store that has none. -/
def KeyStore.noScan {σ : Type} : Act σ Error (List KeyId) :=
  .fail (.sweepUnsupported "key store does not support expiry scans")

end Latchkey
