import Latchkey.Json.Decode
import Latchkey.Settings.Decode
/-!
# Settings from JSON as it stands

Settings as another program writes them: every value has its own type and nothing is converted.
What is left out has its default.
-/

namespace Latchkey

open Json

/-- A choice by name. -/
def Json.choice? {α : Type} (choices : List (String × α)) (j : Json) : Option α :=
  j.variant?.bind fun name => choices.lookup name

namespace LoggingSettings

def ofJson? (j : Json) : Option LoggingSettings := do
  let d : LoggingSettings := {}
  match ← slots? ["level", "format"] j with
  | [level, format] =>
    some {
      level := ← level.withDefault d.level string?
      format := ← format.withDefault d.format (choice? formats) }
  | _ => none

end LoggingSettings

namespace KeySettings

def ofJson? (j : Json) : Option KeySettings := do
  let d : KeySettings := {}
  match ← slots? ["prefix", "kind", "length", "hash_secret", "auto_delete_expired"] j with
  | [label, kind, length, secret, autoDeleteExpired] =>
    some {
      label := ← label.withDefault d.label string?
      kind := ← kind.withDefault d.kind string?
      length := ← length.withDefault d.length count?
      secret := ← secret.withDefault d.secret (Slot.nullable string?)
      autoDeleteExpired := ← autoDeleteExpired.withDefault d.autoDeleteExpired bool? }
  | _ => none

end KeySettings

namespace StorageSettings

def ofJson? (j : Json) : Option StorageSettings := do
  let d : StorageSettings := {}
  match ← slots? fieldNames j with
  | [keys, rates, databaseUrl, maxConnections, redisUrl, redisBestEffort] =>
    some {
      keys := ← keys.withDefault d.keys (choice? keyBackends)
      rates := ← rates.withDefault d.rates (choice? rateBackends)
      databaseUrl := ← databaseUrl.withDefault d.databaseUrl (Slot.nullable string?)
      maxConnections := ← maxConnections.withDefault d.maxConnections uint32?
      redisUrl := ← redisUrl.withDefault d.redisUrl (Slot.nullable string?)
      redisBestEffort := ← redisBestEffort.withDefault d.redisBestEffort bool? }
  | _ => none

end StorageSettings

namespace Settings

def ofJson? (j : Json) : Option Settings := do
  let d : Settings := {}
  match ← slots? ["logging", "keys", "storage"] j with
  | [logging, keys, storage] =>
    some {
      logging := ← logging.withDefault d.logging LoggingSettings.ofJson?
      keys := ← keys.withDefault d.keys KeySettings.ofJson?
      storage := ← storage.withDefault d.storage StorageSettings.ofJson? }
  | _ => none

end Settings

end Latchkey
