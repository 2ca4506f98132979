import Latchkey.Service.Basic
/-!
# Issuing keys

A key is generated, its record stored under its digest, and the key given out once. A plugin may
prevent this before anything is drawn, or undo it when the record is stored.
-/

namespace Latchkey

/-- A key just issued. The key itself cannot be had again. -/
structure IssuedKey where
  id : KeyId
  key : String
  record : KeyRecord

namespace Service

variable {σ : Type}

/-- An identifier made of sixteen random bytes. -/
def freshId (s : Service σ) : Act σ Error KeyId := do
  let bytes ← s.random 16
  pure ⟨String.ofList (Uuid.chars bytes)⟩

/-- The record of a new key as asked for. -/
def newRecord (request : CreateRequest) (id : KeyId) (label digest : String) (now : Instant) :
    KeyRecord :=
  { KeyRecord.fresh id label digest now with
    owner := request.owner
    expiresAt := request.expiresAt
    uses := request.uses
    metadata := request.metadata }

def checkLabel (request : CreateRequest) : Act σ Error Unit :=
  match request.label.bind Label.fault? with
  | some f => .fail (.validation f.message)
  | none => pure ()

/-- Fails if a plugin rejects. -/
def demand (s : Service σ) (hook : Hook) : Act σ Error Unit := do
  match ← s.plugins.run hook with
  | some r => .fail (.pluginBlocked r.plugin r.reason)
  | none => pure ()

/-- Generates a key and stores its record. -/
def mint (s : Service σ) (request : CreateRequest) : Act σ Error IssuedKey := do
  let label := request.label.getD s.config.generator.label
  let key ← s.config.generator.generateWith label s.random
  let id ← s.freshId
  let record := newRecord request id label (s.config.hasher.hash key) (← s.clock)
  access .write "Failed to persist key" (s.store.create record)
  pure { id, key, record }

/-- Issues a key. When a plugin rejects the stored record, the record is removed again. -/
def create (s : Service σ) (request : CreateRequest) : Act σ Error IssuedKey := do
  checkLabel request
  s.demand (.beforeCreate request)
  let issued ← s.mint request
  s.track (.created issued.id issued.record.owner)
  match ← s.plugins.run (.created issued.record) with
  | some r =>
    let _ ← (s.store.remove issued.id).attempt
    .fail (.pluginBlocked r.plugin r.reason)
  | none => pure issued

end Service

end Latchkey
