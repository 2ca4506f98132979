import Latchkey.Key.Store
/-!
# Key records in memory

Records under their identifiers, and beside them an index from digests to identifiers by which a
presented key is found.
-/

namespace Latchkey

structure KeyTable where
  records : Table KeyId KeyRecord := .empty
  /-- The identifier of the record with a digest. -/
  index : Table String KeyId := .empty

namespace KeyTable

def size (t : KeyTable) : Nat := t.records.size

def idTaken (id : KeyId) : Error :=
  .storage ("Key with ID '" ++ id.text ++ "' already exists") false

def digestTaken : Error := .storage "Key with the same hash already exists" false

def notFound (id : KeyId) : Error := .storage ("Key '" ++ id.text ++ "' not found") false

def add (r : KeyRecord) (t : KeyTable) : KeyTable :=
  { records := t.records.insert r.id r, index := t.index.insert r.digest r.id }

def create (r : KeyRecord) : Act KeyTable Error Unit := do
  if ← Act.read fun t => t.records.contains r.id then .fail (idTaken r.id)
  else if ← Act.read fun t => t.index.contains r.digest then .fail digestTaken
  else Act.update (add r)

def lookup (t : KeyTable) (digest : String) : Option KeyRecord :=
  (t.index.get? digest).bind t.records.get?

def findByDigest (digest : String) : Act KeyTable Error (Option KeyRecord) :=
  Act.read fun t => t.lookup digest

def findById (id : KeyId) : Act KeyTable Error (Option KeyRecord) :=
  Act.read fun t => t.records.get? id

/-- The table with `r` in the place of `old`, the record with the same identifier. -/
def replace (old r : KeyRecord) (t : KeyTable) : KeyTable :=
  { records := t.records.insert r.id { r with revokedAt := old.revokedAt <|> r.revokedAt }
    index :=
      if old.digest = r.digest then t.index
      else (t.index.erase old.digest).insert r.digest r.id }

def update (r : KeyRecord) : Act KeyTable Error Unit := do
  match ← findById r.id with
  | none => .fail (notFound r.id)
  | some old => Act.update (replace old r)

def modifyRecord (id : KeyId) (f : KeyRecord → KeyRecord) (t : KeyTable) : KeyTable :=
  { t with records := t.records.modify id f }

def spend (id : KeyId) : Act KeyTable Error UseSpend := do
  match ← findById id with
  | none => pure .missing
  | some r =>
    match r.uses with
    | none => pure .unlimited
    | some n =>
      if n ≤ 0 then pure .exhausted
      else
        Act.update (modifyRecord id fun r => { r with uses := some (n - 1) })
        pure (.spent (n - 1))

def revoke (id : KeyId) (at' : Instant) : Act KeyTable Error Unit :=
  Act.update (modifyRecord id fun r => r.revoke at')

/-- The table without the record `r` of `id`. -/
def delete (id : KeyId) (r : KeyRecord) (t : KeyTable) : KeyTable :=
  { records := t.records.erase id, index := t.index.erase r.digest }

def remove (id : KeyId) : Act KeyTable Error Bool := do
  match ← findById id with
  | none => pure false
  | some r =>
    Act.update (delete id r)
    pure true

/-- Earlier expiry first; records of one expiry in the order of their identifiers. -/
def expiresBefore (a b : Instant × KeyId) : Bool :=
  a.1 < b.1 || (a.1 = b.1 && a.2.text ≤ b.2.text)

/-- The expiries that `cutoff` has reached, with the identifiers of their records. -/
def expiries (t : KeyTable) (cutoff : Instant) : List (Instant × KeyId) :=
  t.records.entries.filterMap fun (id, r) =>
    (r.expiresAt.filter (· ≤ cutoff)).map fun at' => (at', id)

/-- Identifiers of expired records, those longest expired first. -/
def expired (t : KeyTable) (cutoff : Instant) (limit : Nat) : List KeyId :=
  (((t.expiries cutoff).mergeSort expiresBefore).take limit).map Prod.snd

def findExpired (cutoff : Instant) (limit : Nat) : Act KeyTable Error (List KeyId) :=
  Act.read fun t => t.expired cutoff limit

end KeyTable

/-- The store of a table that is a part of the state. -/
def KeyStore.memory {σ : Type} (table : Lens σ KeyTable) : KeyStore σ where
  ready := pure ()
  create r := (KeyTable.create r).onPart table
  findByDigest digest := (KeyTable.findByDigest digest).onPart table
  findById id := (KeyTable.findById id).onPart table
  update r := (KeyTable.update r).onPart table
  spend id := (KeyTable.spend id).onPart table
  revoke id at' := (KeyTable.revoke id at').onPart table
  remove id := (KeyTable.remove id).onPart table
  findExpired cutoff limit := (KeyTable.findExpired cutoff limit).onPart table

end Latchkey
