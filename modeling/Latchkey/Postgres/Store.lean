import Latchkey.Key.Store
import Latchkey.Limit.Store
/-!
# Stores in PostgreSQL

Both stores take a connection out of a pool for each request. What the database does with a request
is its own matter; here is what comes before that. A request that is not fit takes no connection,
and a pool that gives none makes the request fail with what the store was doing.
-/

namespace Latchkey

/-- Why a pool gives no connection. -/
inductive PoolFault where
  | closed
  | timedOut
deriving DecidableEq

def PoolFault.message : PoolFault → String
  | closed => "attempted to acquire a connection on a closed pool"
  | timedOut => "pool timed out while waiting for an open connection"

/-- What can be asked for on a connection. -/
structure Database (σ : Type) where
  keys : KeyStore σ
  rates : RateStore σ

/-- Takes a connection out of a pool. -/
abbrev Pool (σ : Type) : Type := Act σ PoolFault (Database σ)

namespace Pool

variable {σ : Type}

/-- A pool that gives no connection any more. -/
def closed : Pool σ := .fail .closed

/-- A request on a connection for the store of keys. -/
def forKeys {α : Type} (pool : Pool σ) (purpose : String) (request : KeyStore σ → Act σ Error α) :
    Act σ Error α := do
  let db ← pool.mapError fun f => .storage (purpose ++ ": " ++ f.message) true
  request db.keys

/-- A request on a connection for the store of rate limits. -/
def forRates {α : Type} (pool : Pool σ) (purpose : String)
    (request : RateStore σ → Act σ Error α) : Act σ Error α := do
  let db ← pool.mapError fun f => .rateLimitStore (purpose ++ ": " ++ f.message) true
  request db.rates

end Pool

/-- The table that keys are kept in unless another is chosen. -/
def defaultKeysTable : String := "keyward_keys"

def windowsTable : String := "keyward_rate_windows"

def bucketsTable : String := "keyward_rate_buckets"

def KeyStore.pooled {σ : Type} (pool : Pool σ) : KeyStore σ where
  ready := pool.forKeys "Failed to create key table" (·.ready)
  create r := pool.forKeys "Failed to insert key" (·.create r)
  findByDigest digest := pool.forKeys "Failed to load key by hash" (·.findByDigest digest)
  findById id := pool.forKeys "Failed to load key by id" (·.findById id)
  update r := pool.forKeys "Failed to update key" (·.update r)
  spend id := pool.forKeys "Failed to spend key use" (·.spend id)
  revoke id at' := pool.forKeys "Failed to revoke key" (·.revoke id at')
  remove id := pool.forKeys "Failed to delete key" (·.remove id)
  findExpired cutoff limit :=
    pool.forKeys "Failed to list expired keys" (·.findExpired cutoff limit)

/-- A request for a subject is refused before a connection is taken if it is not fit. -/
def RateStore.pooled {σ : Type} (pool : Pool σ) : RateStore σ where
  ready := pool.forRates "Failed to create window table" (·.ready)
  atomicity := .atomic
  increment partition subject l := do
    refuse l.fault?
    let _ ← storageKeyOf partition subject
    pool.forRates "Failed to begin transaction" (·.increment partition subject l)
  check partition subject l := do
    refuse l.fault?
    let _ ← storageKeyOf partition subject
    pool.forRates "Failed to read window row" (·.check partition subject l)
  consume partition subject l cost := do
    refuse l.fault?
    refuse (costFault? cost)
    let _ ← storageKeyOf partition subject
    pool.forRates "Failed to begin transaction" (·.consume partition subject l cost)
  reset partition subject := do
    let _ ← storageKeyOf partition subject
    pool.forRates "Failed to begin transaction" (·.reset partition subject)

end Latchkey
