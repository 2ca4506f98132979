import Latchkey.Decimal.Read
import Latchkey.Json.Printer
import Latchkey.Json.Reader
import Latchkey.Redis.Config
import Latchkey.Redis.Wire
/-!
# Rate limits in Redis

In scripted mode the server runs the rules and answers with the state that it has reached. In best
effort the store reads the state as JSON, runs the rule, and writes the next state with a lifetime;
what it cannot read it takes for no state at all.
-/

namespace Latchkey

/-- How long a window is kept when it is written at `now`: to its end, in whole milliseconds. -/
def Window.lifeMs (w : Window) (now : Instant) : Int := (w.resetAt.since now).millis

/-- How long a bucket is kept: the time in which it fills up, and one more interval. -/
def BucketLimit.lifeMs {α : Type} [Amount α] (l : BucketLimit α) : Int :=
  Amount.ceilWithin (-9223372036854775808) 9223372036854775807 (l.capacity / l.refillTokens * l.interval)
    + l.intervalMs.toNat

namespace RedisStore

variable {σ : Type}

def failed (message : String) : Error := .rateLimitStore message true

/-- A name for state, or the error that there is none. -/
def keyOf (key : Except LimitFault String) : Act σ Error String :=
  .ofExcept (key.mapError LimitFault.toError)

/-- What is read from the reply; a fault is an error that says what was being done. -/
def ask {α : Type} (purpose : String) (reply : Act σ RedisFault RedisReply)
    (read : RedisReply.Reading α) : Act σ Error α :=
  (do Act.ofExcept (read (← reply))).mapError fun (f : RedisFault) =>
    failed (purpose ++ ": " ++ f.message)

def instantOf (ms : Int) : Act σ Error Instant :=
  match Instant.ofMillis? ms with
  | some t => pure t
  | none => .fail (failed ("Invalid timestamp: " ++ toString ms))

/-- The number of requests that a reply gives. -/
def countReading : RedisReply.Reading UInt64 :=
  RedisReply.number (fun n => UInt64.ofNat (n % UInt64.size).toNat) fun s =>
    (readUInt64? s).map UInt64.ofNat

def intReading : RedisReply.Reading Int := RedisReply.number id readInt64?

/-- The tokens that a script has written out. -/
def tokensOf (text : String) : Act σ Error Float :=
  match readFloat? text with
  | some x => pure x
  | none =>
    let why :=
      if text.isEmpty then "cannot parse float from empty string" else "invalid float literal"
    .fail (failed ("Invalid token count '" ++ text ++ "': " ++ why))

/-! ## With scripts -/

def incrementScripted (c : RedisConnection σ) (key : String) (l : WindowLimit) (now : Instant) :
    Act σ Error LimitResult := do
  let arguments := [toString now.unixMillis, toString l.windowMs.toNat]
  let (count, resetMs) ← ask "Fixed window script failed" (c.run .window key arguments)
    (RedisReply.pair countReading intReading)
  let w : Window := { count, resetAt := ← instantOf resetMs }
  pure (w.outcome l)

def readScripted (c : RedisConnection σ) (key : String) : Act σ Error (Option Window) := do
  let (count, resetMs) ← ask ("Failed to read '" ++ key ++ "'")
    (c.send (.getFields key ["count", "reset_at"]))
    (RedisReply.pair (RedisReply.orNil countReading) (RedisReply.orNil intReading))
  match count, resetMs with
  | some count, some resetMs => do
    let resetAt ← instantOf resetMs
    pure (some { count, resetAt })
  | _, _ => pure none

def consumeScripted (c : RedisConnection σ) (key : String) (l : BucketLimit Float) (cost : Float)
    (now : Instant) : Act σ Error LimitResult := do
  let arguments := [toString now.unixMillis, FloatStyle.data.text l.capacity,
    FloatStyle.data.text l.refillTokens, toString l.intervalMs.toNat, FloatStyle.data.text cost]
  let (allowed, text) ← ask "Token bucket script failed" (c.run .bucket key arguments)
    (RedisReply.pair intReading RedisReply.string)
  let b : Bucket Float := { tokens := ← tokensOf text, lastRefillAt := now }
  pure (b.outcome (allowed = 1) l cost)

/-! ## In best effort -/

/-- The state of the given fields under a key, if there is one that can be read. -/
def readState {α : Type} (c : RedisConnection σ) (fields : List String) (ofJson? : Json → Option α)
    (key : String) : Act σ Error (Option α) := do
  let raw ← ask ("Failed to read '" ++ key ++ "'") (c.send (.get key))
    (RedisReply.orNil RedisReply.string)
  pure (raw.bind fun text => (Json.readRecord? fields text).bind ofJson?)

/-- Writes a state that is kept for at least a millisecond. -/
def writeState (c : RedisConnection σ) (key : String) (state : Json) (lifeMs : Int) :
    Act σ Error Unit :=
  ask ("Failed to write '" ++ key ++ "'") (c.send (.set key state.text (max 1 lifeMs)))
    RedisReply.anything

def incrementBestEffort (c : RedisConnection σ) (key : String) (l : WindowLimit) (now : Instant) :
    Act σ Error LimitResult := do
  let current ← readState c Window.fieldNames Window.ofJson? key
  let (next, result) := Window.increment current now l
  writeState c key next.toJson (next.lifeMs now)
  pure result

def consumeBestEffort (c : RedisConnection σ) (key : String) (l : BucketLimit Float)
    (cost : Float) (now : Instant) : Act σ Error LimitResult := do
  let current ← readState c Bucket.fieldNames Bucket.ofJson? key
  let (next, result) := Bucket.consume current now l cost
  writeState c key next.toJson l.lifeMs
  pure result

/-! ## In either mode -/

def ready (config : RedisConfig) (c : RedisConnection σ) : Act σ Error Unit := do
  let _ ← ask "Redis ping failed" (c.send .ping) RedisReply.string
  match config.mode with
  | .bestEffort => pure ()
  | .scripted =>
    let load (script : RateScript) : Act σ Error String :=
      ask "Failed to load rate limit script" (c.send (.loadScript script)) RedisReply.string
    let _ ← load .window
    let _ ← load .bucket

def increment (config : RedisConfig) (c : RedisConnection σ) (now : σ → Instant)
    (partition subject : String) (l : WindowLimit) : Act σ Error LimitResult := do
  refuse l.fault?
  let key ← keyOf (config.windowKey partition subject)
  match config.mode with
  | .scripted => incrementScripted c key l (← Act.read now)
  | .bestEffort => incrementBestEffort c key l (← Act.read now)

def check (config : RedisConfig) (c : RedisConnection σ) (now : σ → Instant)
    (partition subject : String) (l : WindowLimit) : Act σ Error LimitResult := do
  refuse l.fault?
  let key ← keyOf (config.windowKey partition subject)
  let now ← Act.read now
  let current ← match config.mode with
    | .scripted => readScripted c key
    | .bestEffort => readState c Window.fieldNames Window.ofJson? key
  pure (Window.peek current now l)

def consume (config : RedisConfig) (c : RedisConnection σ) (now : σ → Instant)
    (partition subject : String) (l : BucketLimit Float) (cost : Float) :
    Act σ Error LimitResult := do
  refuse l.fault?
  refuse (costFault? cost)
  let key ← keyOf (config.bucketKey partition subject)
  match config.mode with
  | .scripted => consumeScripted c key l cost (← Act.read now)
  | .bestEffort => consumeBestEffort c key l cost (← Act.read now)

def reset (config : RedisConfig) (c : RedisConnection σ) (partition subject : String) :
    Act σ Error Unit := do
  let windowKey ← keyOf (config.windowKey partition subject)
  let bucketKey ← keyOf (config.bucketKey partition subject)
  let sent := c.send (.delete [windowKey, bucketKey])
  let _ ← ask "Failed to reset rate limit state" sent intReading

end RedisStore

/-- The store behind a connection, with the time that the state shows. -/
def RateStore.redis {σ : Type} (config : RedisConfig) (c : RedisConnection σ) (now : σ → Instant) :
    RateStore σ where
  ready := RedisStore.ready config c
  atomicity := config.atomicity
  increment := RedisStore.increment config c now
  check := RedisStore.check config c now
  consume := RedisStore.consume config c now
  reset := RedisStore.reset config c

end Latchkey
