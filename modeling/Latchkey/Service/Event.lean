import Latchkey.Act
import Latchkey.Error
import Latchkey.Key.Id
/-!
# Events

What the service reports of keys, for statistics. An event names a key by its identifier and holds
nothing of the key itself.
-/

namespace Latchkey

inductive Event where
  | created (id : KeyId) (owner : Option String)
  /-- A presented key has passed every check but the last round of plugins. -/
  | verified (id : KeyId) (owner : Option String) (partition : Option String)
  | revoked (id : KeyId)
  /-- The record is gone; `sweep` if it went with others that had expired. -/
  | removed (id : KeyId) (sweep : Bool)
deriving DecidableEq

namespace Event

def name : Event → String
  | created _ _ => "key.created"
  | verified _ _ _ => "key.verified"
  | revoked _ => "key.revoked"
  | removed _ _ => "key.removed"

def id : Event → KeyId
  | created id _ => id
  | verified id _ _ => id
  | revoked id => id
  | removed id _ => id

def payload (e : Event) : Json :=
  let key : String × Json := ("key_id", .string e.id.text)
  match e with
  | created _ owner => .object [key, ("owner_id", Json.ofOption .string owner)]
  | verified _ owner partition =>
    .object [key, ("owner_id", Json.ofOption .string owner),
      ("namespace", Json.ofOption .string partition)]
  | revoked _ => .object [key]
  | removed _ sweep => .object (key :: if sweep then [("sweep", .bool true)] else [])

end Event

/-- Where events go. -/
structure Sink (σ : Type) where
  ready : Act σ Error Unit := pure ()
  track : Event → Act σ Error Unit := fun _ => pure ()

end Latchkey
