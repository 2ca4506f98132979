import Latchkey.Crypto.Hasher
import Latchkey.Key.Generator
import Latchkey.Key.Id
import Latchkey.Settings.Basic
/-!
# Configuration of a service

The part of the settings that a service works with, checked: a label fit for keys, a known kind of
key, and the hasher that the secret calls for.
-/

namespace Latchkey

structure ServiceConfig where
  generator : Generator := {}
  hasher : Hasher := .sha256
  /-- Remove an expired record when a verification comes across it. -/
  autoDeleteExpired : Bool := false

/-- The label and kind of key that settings ask for, or `labelError` of what is wrong with the
label. -/
def KeySettings.generator (settings : KeySettings) (labelError : String → Error) :
    Except Error Generator := do
  match Label.fault? settings.label with
  | some f => .error (labelError f.message)
  | none => .ok { label := settings.label, kind := ← KeyKind.ofName settings.kind settings.length }

namespace ServiceConfig

def ofSettings (settings : KeySettings) : Except Error ServiceConfig := do
  let generator ← settings.generator .configuration
  .ok { generator, hasher := .ofSecret settings.secret,
        autoDeleteExpired := settings.autoDeleteExpired }

end ServiceConfig

end Latchkey
