import Latchkey.Postgres.Config
import Latchkey.Postgres.Store
import Latchkey.Redis.Store
import Latchkey.Service.Basic
/-!
# Services from settings

The settings choose the stores of a service. Both stores in PostgreSQL share one pool, which is
opened when it is first needed; the store of keys comes before that of rate limits.
-/

namespace Latchkey

namespace StorageSettings

def postgresConfig (s : StorageSettings) : Except Error PostgresConfig :=
  match s.databaseUrl with
  | some url => .ok { url, maxConnections := s.maxConnections }
  | none => .error (.configuration "storage.database_url is required for the postgres backend")

def redisConfig (s : StorageSettings) : Except Error RedisConfig :=
  match s.redisUrl with
  | some url => .ok { url, mode := if s.redisBestEffort then .bestEffort else .scripted }
  | none => .error (.configuration "storage.redis_url is required for the redis backend")

end StorageSettings

/-- What services are put together from: the stores in memory, ways to others, and the rest. -/
structure Site (σ : Type) where
  keys : KeyStore σ
  rates : RateStore σ
  connectPostgres : PostgresConfig → Act σ Error (Pool σ)
  connectRedis : RedisConfig → Act σ Error (RedisConnection σ)
  sink : Sink σ := {}
  now : σ → Instant
  random : Nat → Act σ Error Bytes

namespace Site

variable {σ : Type}

/-- Connects to the database, if the address is fit. -/
def openPool (site : Site σ) (settings : StorageSettings) : Act σ Error (Pool σ) := do
  let config ← Act.ofExcept settings.postgresConfig
  Act.ofExcept config.checkAddress
  site.connectPostgres config

/-- The store of keys, and the pool if it took one to open it. -/
def openKeys (site : Site σ) (settings : StorageSettings) :
    Act σ Error (KeyStore σ × Option (Pool σ)) := do
  match settings.keys with
  | .memory => pure (site.keys, none)
  | .postgres => do
    let pool ← site.openPool settings
    pure (.pooled pool, some pool)

/-- The store of rate limits, on the pool if there is one already. -/
def openRates (site : Site σ) (settings : StorageSettings) (pool : Option (Pool σ)) :
    Act σ Error (RateStore σ) := do
  match settings.rates, pool with
  | .memory, _ => pure site.rates
  | .postgres, some pool => pure (.pooled pool)
  | .postgres, none => do
    let pool ← site.openPool settings
    pure (.pooled pool)
  | .redis, _ => do
    let config ← Act.ofExcept settings.redisConfig
    Act.ofExcept config.checkAddress
    let connection ← site.connectRedis config
    pure (.redis config connection site.now)

/-- The service that the settings ask for; without a store of rate limits for work on records
alone. -/
def assemble (site : Site σ) (settings : Settings) (withRates : Bool) :
    Act σ Error (Service σ) := do
  let config ← Act.ofExcept (ServiceConfig.ofSettings settings.keys)
  let (store, pool) ← site.openKeys settings.storage
  let rates ← if withRates then some <$> site.openRates settings.storage pool else pure none
  pure { store, rates, sink := site.sink, now := site.now, random := site.random, config }

end Site

end Latchkey
