import Latchkey.Plugin.Pipeline
import Latchkey.Service.Config
import Latchkey.Service.Event
/-!
# The service

A service issues, verifies and looks after keys. It is made of stores, plugins, a clock, a source
of random bytes and a sink for events, all acting on one state; the modules beside this one hold
its operations. A failure of the key store reaches the caller as the cause of an error that says
what the service was doing.
-/

namespace Latchkey

structure Service (σ : Type) where
  store : KeyStore σ
  /-- Made ready with the service; plugins hold their own. -/
  rates : Option (RateStore σ) := none
  sink : Sink σ := {}
  plugins : Pipeline σ := []
  now : σ → Instant
  random : Nat → Act σ Error Bytes
  config : ServiceConfig := {}

namespace Service

variable {σ : Type}

def capabilities (s : Service σ) : Capabilities σ := s.plugins.capabilities

/-- Makes the stores and the sink ready, in this order, and sets the plugins up. Plugins must have
distinct names; one whose setup fails stays in. -/
def start (s : Service σ) : Act σ Error Unit := do
  s.store.ready
  match s.rates with
  | some rates => rates.ready
  | none => pure ()
  s.sink.ready
  match Pipeline.ofPlugins s.plugins with
  | .error e => .fail (.configuration e.message)
  | .ok plugins =>
    let _ ← plugins.setupAll
    pure ()

def clock (s : Service σ) : Act σ Error Instant := .read s.now

/-- Reports an event. What the sink says to it changes nothing. -/
def track (s : Service σ) (e : Event) : Act σ Error Unit := (s.sink.track e).ignore

/-- An access to the key store, whose error becomes the cause of one that says what it was for. -/
def access {α : Type} (kind : StoreAccess) (purpose : String) (x : Act σ Error α) : Act σ Error α :=
  x.mapError fun e => .keystore kind purpose (some e)

def load (s : Service σ) (id : KeyId) : Act σ Error (Option KeyRecord) :=
  access .read "Failed to load key by id" (s.store.findById id)

end Service

end Latchkey
