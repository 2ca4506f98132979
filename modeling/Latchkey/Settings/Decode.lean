import Latchkey.Decimal.Read
import Latchkey.Settings.Basic
import Latchkey.Settings.Fault
import Latchkey.Text.Lower
/-!
# Settings from layers

Layered values are converted to what a setting needs: a number may stand for a text, a word for a
truth value or a number, and a fraction for the nearest whole number. A section is a table, or a
list of its settings in order; settings of other names are passed over.
-/

namespace Latchkey

/-- What is read from settings. -/
abbrev Decoded (α : Type) : Type := Except SettingFault α

namespace Scalar

def text? : Scalar → Option String
  | nothing => none
  | flag b => some (flagText b)
  | whole n => some (toString n)
  | real x => some (FloatStyle.plain.text x)
  | text s => some s

/-- A count of 64 bits. -/
def count? : Scalar → Option Nat
  | nothing => none
  | flag b => some (if b then 1 else 0)
  | whole n => if 0 ≤ n then some n.toNat else none
  | real x => some (Binary64.roundWithin 0 18446744073709551615 x).toNat
  | text s =>
    match Text.lower s with
    | "true" | "on" | "yes" => some 1
    | "false" | "off" | "no" => some 0
    | _ => readUInt64? s

def flag? : Scalar → Option Bool
  | nothing => none
  | flag b => some b
  | whole n => some (n != 0)
  | real x => some (x != 0)
  | text s =>
    match Text.lower s with
    | "1" | "true" | "on" | "yes" => some true
    | "0" | "false" | "off" | "no" => some false
    | _ => none

/-- A scalar that is no truth value; a text is shown in the case in which it was compared. -/
def lowered : Scalar → Scalar
  | text s => text (Text.lower s)
  | s => s

/-- A scalar in the place of a section. -/
def foundAsSection : Scalar → String
  | whole n => "integer \x60" ++ toString n ++ "\x60"
  | real x => "floating point \x60" ++ FloatStyle.pointed.text x ++ "\x60"
  | s => s.found

end Scalar

namespace Setting

/-- The scalar that a conversion accepts. -/
def convert {α : Type} (expected : String) (conversion : Scalar → Option α) (s : Setting) :
    Decoded α :=
  match s with
  | scalar value _ =>
    match conversion value with
    | some a => .ok a
    | none => .error (s.mistyped expected)
  | s => .error (s.mistyped expected)

def text (s : Setting) : Decoded String := s.convert "a string" Scalar.text?

/-- What a count is expected to be: of a whole number also that it fits. -/
def countExpected : Setting → String
  | scalar (.whole _) _ => "an unsigned 64 bit or less integer"
  | _ => "an integer"

def count (s : Setting) : Decoded Nat := s.convert s.countExpected Scalar.count?

/-- A count below 2^32. A fault shows the number that was understood, not where it was written. -/
def count32 (s : Setting) : Decoded Nat := do
  let n ← s.count
  if n < UInt32.size then .ok n
  else .error (.mistyped ("64-bit unsigned integer \x60" ++ toString n ++ "\x60")
    "an unsigned 32 bit integer" [] none)

def flag (s : Setting) : Decoded Bool :=
  match s with
  | scalar value origin =>
    match value.flag? with
    | some b => .ok b
    | none => .error ((scalar value.lowered origin).mistyped "a boolean")
  | s => .error (s.mistyped "a boolean")

/-- A value that is none exactly when nothing is written. -/
def optional {α : Type} (decode : Setting → Decoded α) : Setting → Decoded (Option α)
  | scalar .nothing _ => .ok none
  | s => (decode s).map some

/-- One of the named choices, in any case: a text, or a table with the name as its only entry. -/
def choice {α : Type} (kind : String) (choices : List (String × α)) (s : Setting) : Decoded α :=
  let named (name : String) : Decoded α :=
    match choices.lookup (Text.lower name) with
    | some a => .ok a
    | none =>
      .error (.badSection ("enum " ++ kind ++ " does not have variant constructor " ++ name))
  match s with
  | scalar (.text name) _ => named name
  | table [(name, _)] _ => named name
  | _ => .error (.badSection ("value of enum " ++ kind
      ++ " should be represented by either string or table with exactly one key"))

/-- The values of a section's settings, in the order of their names, with their places. -/
def fields (kind : String) (names : List String) (s : Setting) :
    Decoded (List (PathPart × Option Setting)) :=
  match s with
  | table entries _ => .ok (names.map fun name => (.entry name, Table.find? name entries))
  | list items _ => .ok (names.mapIdx fun i _ => (.item i, items[i]?))
  | scalar value _ =>
    .error (.badSection ("invalid type: " ++ value.foundAsSection ++ ", expected struct " ++ kind))

/-- The value of a setting, or its default if it is not there. -/
def field {α : Type} (default : α) (decode : Setting → Decoded α) (f : PathPart × Option Setting) :
    Decoded α :=
  match f.2 with
  | none => .ok default
  | some s => (decode s).mapError (·.under f.1)

end Setting

open Setting

namespace LoggingSettings

def formats : List (String × LogFormat) := [("pretty", .pretty), ("json", .json)]

def ofSetting (s : Setting) : Decoded LoggingSettings := do
  let d : LoggingSettings := {}
  match ← s.fields "LoggingConfig" ["level", "format"] with
  | [level, format] =>
    return {
      level := ← field d.level text level
      format := ← field d.format (choice "LogFormat" formats) format }
  | _ => return d

end LoggingSettings

namespace KeySettings

def ofSetting (s : Setting) : Decoded KeySettings := do
  let d : KeySettings := {}
  let names := ["prefix", "kind", "length", "hash_secret", "auto_delete_expired"]
  match ← s.fields "KeysConfig" names with
  | [label, kind, length, secret, autoDeleteExpired] =>
    return {
      label := ← field d.label text label
      kind := ← field d.kind text kind
      length := ← field d.length count length
      secret := ← field d.secret (optional text) secret
      autoDeleteExpired := ← field d.autoDeleteExpired flag autoDeleteExpired }
  | _ => return d

end KeySettings

namespace StorageSettings

def keyBackends : List (String × KeyBackend) := [("memory", .memory), ("postgres", .postgres)]

def rateBackends : List (String × RateBackend) :=
  [("memory", .memory), ("redis", .redis), ("postgres", .postgres)]

def fieldNames : List String :=
  ["key_store", "rate_limit_store", "database_url", "max_connections", "redis_url",
    "redis_best_effort"]

def ofSetting (s : Setting) : Decoded StorageSettings := do
  let d : StorageSettings := {}
  match ← s.fields "StorageConfig" fieldNames with
  | [keys, rates, databaseUrl, maxConnections, redisUrl, redisBestEffort] =>
    return {
      keys := ← field d.keys (choice "KeyStoreBackend" keyBackends) keys
      rates := ← field d.rates (choice "RateLimitBackend" rateBackends) rates
      databaseUrl := ← field d.databaseUrl (optional text) databaseUrl
      maxConnections := ← field d.maxConnections count32 maxConnections
      redisUrl := ← field d.redisUrl (optional text) redisUrl
      redisBestEffort := ← field d.redisBestEffort flag redisBestEffort }
  | _ => return d

end StorageSettings

namespace Settings

def ofSetting (s : Setting) : Decoded Settings := do
  let d : Settings := {}
  match ← s.fields "AppConfig" ["logging", "keys", "storage"] with
  | [logging, keys, storage] =>
    return {
      logging := ← field d.logging LoggingSettings.ofSetting logging
      keys := ← field d.keys KeySettings.ofSetting keys
      storage := ← field d.storage StorageSettings.ofSetting storage }
  | _ => return d

end Settings

end Latchkey
