/-!
# Settings

What an operator chooses. Every setting has a default, so that none need be given.
-/

namespace Latchkey

inductive LogFormat where
  | pretty
  | json
deriving DecidableEq

structure LoggingSettings where
  level : String := "info"
  format : LogFormat := .pretty

/-- What keys look like and how they are stored. -/
structure KeySettings where
  label : String := "sk_"
  kind : String := "url_safe"
  /-- Characters in the body of a key. -/
  length : Nat := 32
  /-- Digests are keyed with the secret if there is one. -/
  secret : Option String := none
  autoDeleteExpired : Bool := false

/-- Where key records are kept. -/
inductive KeyBackend where
  | memory
  | postgres
deriving DecidableEq

/-- Where rate limits are kept. -/
inductive RateBackend where
  | memory
  | redis
  | postgres
deriving DecidableEq

structure StorageSettings where
  keys : KeyBackend := .memory
  rates : RateBackend := .memory
  databaseUrl : Option String := none
  maxConnections : Nat := 10
  redisUrl : Option String := none
  /-- Use Redis without scripts, and thus without atomic requests. -/
  redisBestEffort : Bool := false

structure Settings where
  logging : LoggingSettings := {}
  keys : KeySettings := {}
  storage : StorageSettings := {}

end Latchkey
