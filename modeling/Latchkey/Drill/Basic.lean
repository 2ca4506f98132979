import Latchkey.Plugin.BuiltIn
import Latchkey.Service.World
/-!
# Drills

A drill runs a service whose stores fail on order and whose plugins follow a script, and keeps a
log of the plugins called.
-/

namespace Latchkey

/-- Where a store or sink can be made to fail. -/
inductive FaultPoint where
  | keysReady
  | create
  | findByDigest
  | findById
  | update
  | spend
  | revoke
  | remove
  | findExpired
  | ratesReady
  | increment
  | check
  | consume
  | reset
  | sinkReady
deriving DecidableEq

/-- What a call comes to instead of reaching the store. -/
inductive FaultKind where
  | error (e : Error)
  /-- An answer, where a truth value is asked for. -/
  | answer (b : Bool)

structure Fault where
  kind : FaultKind
  /-- How many more calls it meets; all if there is no number. -/
  left : Option Nat := none

structure Drill where
  world : World := {}
  faults : Table FaultPoint Fault := .empty
  /-- The scripted plugins called, the earliest first. -/
  calls : List (String × Phase) := []

/-- A part of a part. -/
def Lens.within {σ τ υ : Type} (outer : Lens σ τ) (inner : Lens τ υ) : Lens σ υ :=
  ⟨fun s => inner.get (outer.get s), fun u s => outer.set (inner.set u (outer.get s)) s⟩

namespace Drill

def worldPart : Lens Drill World := ⟨world, fun w d => { d with world := w }⟩

def now (d : Drill) : Instant := d.world.now

def setFault (point : FaultPoint) (fault : Fault) (d : Drill) : Drill :=
  { d with faults := d.faults.insert point fault }

/-- The fault that a call at a point meets now, which is then one nearer to its end. -/
def trip (point : FaultPoint) : Act Drill Error (Option FaultKind) := do
  match ← Act.read fun d => d.faults.get? point with
  | none | some { left := some 0, .. } => pure none
  | some { kind, left := none } => pure (some kind)
  | some { kind, left := some (n + 1) } =>
    Act.update (setFault point { kind, left := some n })
    pure (some kind)

/-- The action, unless a fault comes before it. -/
def guarded {α : Type} (point : FaultPoint) (x : Act Drill Error α) : Act Drill Error α := do
  match ← trip point with
  | some (.error e) => .fail e
  | _ => x

/-- As `guarded`, for an action that answers with a truth value. -/
def guardedBool (point : FaultPoint) (x : Act Drill Error Bool) : Act Drill Error Bool := do
  match ← trip point with
  | some (.error e) => .fail e
  | some (.answer b) => pure b
  | none => x

/-- The store of records without faults. -/
def keys : KeyStore Drill := .memory (worldPart.within World.keysPart)

def faultyKeys (inner : KeyStore Drill) : KeyStore Drill where
  ready := guarded .keysReady inner.ready
  create r := guarded .create (inner.create r)
  findByDigest digest := guarded .findByDigest (inner.findByDigest digest)
  findById id := guarded .findById (inner.findById id)
  update r := guarded .update (inner.update r)
  spend id := guarded .spend (inner.spend id)
  revoke id at' := guarded .revoke (inner.revoke id at')
  remove id := guardedBool .remove (inner.remove id)
  findExpired cutoff limit := guarded .findExpired (inner.findExpired cutoff limit)

/-- The store with nothing to make ready and no search for expired records. -/
def withoutScan (inner : KeyStore Drill) : KeyStore Drill :=
  { inner with ready := pure (), findExpired := fun _ _ => KeyStore.noScan }

def rates : RateStore Drill := .memory (worldPart.within World.ratesPart) now

def faultyRates (inner : RateStore Drill) : RateStore Drill where
  ready := guarded .ratesReady inner.ready
  atomicity := inner.atomicity
  increment partition subject l := guarded .increment (inner.increment partition subject l)
  check partition subject l := guarded .check (inner.check partition subject l)
  consume partition subject l cost := guarded .consume (inner.consume partition subject l cost)
  reset partition subject := guarded .reset (inner.reset partition subject)

/-- Keeps every event, and then fails if it is to. -/
def sink (fails : Bool) : Sink Drill where
  ready := guarded .sinkReady (pure ())
  track e := do
    (World.record e).onPart worldPart
    if fails then .fail (.analyticsTrack e.name "sink offline")

def random (n : Nat) : Act Drill Error Bytes :=
  (Entropy.draw n).onPart (worldPart.within World.entropyPart)

end Drill

end Latchkey
