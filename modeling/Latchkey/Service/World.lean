import Latchkey.Crypto.Entropy
import Latchkey.Key.Memory
import Latchkey.Limit.Memory
import Latchkey.Service.Assembly
import Latchkey.Service.Event
/-!
# A service in memory

All that a service without outside parts works on: a clock that is set by hand, the two tables, a
source of bytes, and the events reported so far.
-/

namespace Latchkey

structure World where
  now : Instant := .epoch
  keys : KeyTable := {}
  rates : RateTable Float := {}
  entropy : Entropy := .counter 0
  /-- The oldest first. -/
  events : List Event := []

namespace World

def keysPart : Lens World KeyTable := ⟨keys, fun t w => { w with keys := t }⟩

def ratesPart : Lens World (RateTable Float) := ⟨rates, fun t w => { w with rates := t }⟩

def entropyPart : Lens World Entropy := ⟨entropy, fun e w => { w with entropy := e }⟩

/-- Moves the clock by a span, if that leads to an instant. -/
def advance {ε : Type} (span : Duration) : Act World ε Instant := do
  match (← Act.read now).add? span with
  | none => Act.outOfTime
  | some t =>
    Act.update fun w => { w with now := t }
    pure t

def record (e : Event) : Act World Error Unit :=
  Act.update fun w => { w with events := w.events ++ [e] }

/-- Keeps every event. -/
def sink : Sink World where
  track := record

def unreachable : String := "no server can be reached"

/-- Everything in memory, and no way to any server. -/
def site : Site World where
  keys := .memory keysPart
  rates := .memory ratesPart now
  connectPostgres _ := .fail (PostgresConfig.connectError unreachable)
  connectRedis _ := .fail (.rateLimitStore ("Failed to connect to Redis: " ++ unreachable) true)
  now := now
  random n := (Entropy.draw n).onPart entropyPart

end World

end Latchkey
