import Latchkey.Proofs.Service.Run
import Latchkey.Proofs.Service.World
/-!
# Revocation is for good

A record keeps its first time of revocation until it is removed, though whole records are written over
it by callers that loaded them before. Verification of its key stops at the revocation: whatever the
hooks for loaded records and successes would do, none of it is done.
-/

namespace Latchkey

open Act KeyTable

variable {σ : Type}

/-- Records written without the service have the digest of the record that they replace, as a copy of
that record from any earlier time has. -/
def OfCopies (table : Lens σ KeyTable) (s : σ) (c : Call) : Prop :=
  ∀ r old, c = .put r → (table.get s).records.get? r.id = some old → r.digest = old.digest

/-- The pipelines do the same until a record is loaded. -/
def Pipeline.AgreeBeforeLookup (ps qs : Pipeline σ) : Prop :=
  ps.requiredFields = qs.requiredFields ∧
    ∀ request s, ps.run (.beforeVerify request) s = qs.run (.beforeVerify request) s

theorem OfCopies.continues {table : Lens σ KeyTable} {s : σ} {c : Call} (h : OfCopies table s c) :
    c.Continues KeepsRevocation (table.get s) := by
  intro r old hc hold
  refine ⟨h r old hc hold, fun at' hat => ?_⟩
  change (old.revokedAt <|> r.revokedAt) = some at'
  rw [hat]
  rfl

namespace Service

section OnTable

variable {svc : Service σ} {table : Lens σ KeyTable} (h : svc.OnTable table)

include h

theorem OnTable.revoke_of_revoked {s : σ} {id : KeyId} {r : KeyRecord}
    (hr : (table.get s).records.get? id = some r) (hrevoked : r.isRevoked) :
    svc.revoke id s = (.ok (some r), s) := by
  unfold Service.revoke
  rw [bind_ok (h.load_apply id s), hr]
  dsimp only
  rw [if_pos hrevoked]
  rfl

/-- The last that a verification does is to look up a record that is revoked. -/
theorem OnTable.verify_of_revoked {s s' : σ} {request : VerifyRequest} {r : KeyRecord}
    (hfields : svc.checkFields request s = (.ok (), s))
    (hrun : svc.plugins.run (.beforeVerify request) s = (.ok none, s'))
    (hr : (table.get s').lookup (svc.config.hasher.hash request.key) = some r)
    (hrevoked : r.isRevoked) :
    svc.verify request s = (.ok (.invalidFor r Reason.revoked), s') := by
  unfold Service.verify
  rw [bind_ok hfields, bind_ok hrun]
  dsimp only
  rw [bind_ok (h.lookup_apply request.key s'), hr]
  dsimp only
  unfold verifyRecord
  rw [if_pos hrevoked]
  rfl

/-- From when a record is revoked until it is removed it keeps that time of revocation, revoking it
answers with it and changes nothing, and verifying its key, once nothing before the look-up stands
against it, reports the revocation without any more being done. -/
theorem revocation_permanent (hplugins : svc.plugins.OnlySpends table) {s₀ s₁ s₂ : σ}
    (hempty : table.get s₀ = {}) (hrun : Run svc table (OfCopies table) s₀ s₁) {id : KeyId}
    {r : KeyRecord} {at' : Instant} (hr : (table.get s₁).records.get? id = some r)
    (hrevoked : r.revokedAt = some at') (hlater : RunWith svc table (OfCopies table) id s₁ s₂) :
    ∃ r', (table.get s₂).records.get? id = some r' ∧ r'.revokedAt = some at' ∧
      r'.digest = r.digest ∧ svc.revoke id s₂ = (.ok (some r'), s₂) ∧
      ∀ request s₃, svc.config.hasher.hash request.key = r.digest →
        svc.checkFields request s₂ = (.ok (), s₂) →
        svc.plugins.run (.beforeVerify request) s₂ = (.ok none, s₃) →
        ∀ ps : Pipeline σ, ps.AgreeBeforeLookup svc.plugins →
          { svc with plugins := ps }.verify request s₂ =
            (.ok { valid := false, reason := some Reason.revoked, keyId := some id }, s₃) := by
  have hallowed : ∀ s c, OfCopies table s c → c.Continues KeepsRevocation (table.get s) :=
    fun _ _ hc => hc.continues
  have hs₁ : (table.get s₁).Consistent := by
    refine Run.consistent h hplugins lasting_keepsRevocation hallowed hrun ?_
    rw [hempty]
    exact consistent_empty
  have hs₂ := Run.consistent h hplugins lasting_keepsRevocation hallowed hlater.run hs₁
  obtain ⟨r', hr', hdigest, hkeeps⟩ :=
    hlater.lasts h hplugins lasting_keepsRevocation hallowed hs₁ hr
  have hat := hkeeps at' hrevoked
  have hrev : ∀ {r : KeyRecord}, r.revokedAt = some at' → r.isRevoked := by
    intro r hr
    rw [KeyRecord.isRevoked, hr]
    rfl
  refine ⟨r', hr', hat, hdigest, h.revoke_of_revoked hr' (hrev hat), ?_⟩
  intro request s₃ hkey hfields hbefore ps ⟨hrequired, hagree⟩
  -- Hooks before the look-up may spend uses of this record, but that is all.
  have hspent := hplugins.run_within (.beforeVerify request) s₂
  rw [hbefore] at hspent
  have hs₃ : (table.get s₃).Consistent :=
    hspent.upkeep_of_spending.consistent (fun _ _ hw ht => hw.consistent ht) hs₂
  obtain ⟨r₃, hr₃⟩ : ∃ r₃, (table.get s₃).records.get? id = some r₃ := by
    rw [← Option.isSome_iff_exists, hspent.isSome_of_spending, hr']
    rfl
  obtain ⟨r₂, hr₂, hdigest₃, hkeeps₃⟩ := hspent.upkeep_of_spending.inherits
    lasting_keepsRevocation (fun _ _ hw => hw.inherits lasting_keepsRevocation) id r₃ hr₃
  rw [hr'] at hr₂
  cases hr₂
  have hid := hs₃.id_eq hr₃
  have hfound : (table.get s₃).lookup (svc.config.hasher.hash request.key) = some r₃ := by
    rw [hs₃.lookup_eq_some_iff, hid, hkey]
    exact ⟨hr₃, hdigest₃.trans hdigest⟩
  have hps : Service.OnTable { svc with plugins := ps } table :=
    ⟨h.lawful, h.store_eq, h.track_keeps, h.random_keeps, h.now_set⟩
  have hverify := hps.verify_of_revoked (s := s₂) (by
    unfold checkFields at hfields ⊢
    rw [hrequired]
    exact hfields) ((hagree request s₂).trans hbefore) hfound (hrev (hkeeps₃ at' hat))
  rw [hverify, VerifyOutcome.invalidFor, hid]

end OnTable

/-- The copy that was taken of a record before its revocation does not bring the key back. -/
theorem revoked_despite_stale_copy :
    let svc := World.service [] World.sameKey
    let issued := (svc.create {} {}).2
    let revoked := (svc.revoke World.firstId issued).2
    ∃ copy, issued.keys.records.get? World.firstId = some copy ∧ copy.revokedAt = none ∧
      let later := (svc.store.update copy revoked).2
      svc.verify { key := "k" } later =
        (.ok { valid := false, reason := some Reason.revoked, keyId := some World.firstId }, later) := by
  intro svc issued revoked
  refine ⟨_, rfl, rfl, ?_⟩
  intro later
  have h := World.service_onTable [] World.sameKey
  have hplugins : svc.plugins.OnlySpends World.keysPart := fun p hp => by cases hp
  have hissued : Move svc World.keysPart (OfCopies World.keysPart) {} issued :=
    .call (c := .create {}) fun _ _ hc => by cases hc
  have hrevoked : Move svc World.keysPart (OfCopies World.keysPart) issued revoked :=
    .call (c := .revoke World.firstId) fun _ _ hc => by cases hc
  have hlater : Move svc World.keysPart (OfCopies World.keysPart) revoked later := by
    refine .call (c := .put _) fun r old hc hold => ?_
    cases hc
    cases hold
    rfl
  have hwith : RunWith svc World.keysPart (OfCopies World.keysPart) World.firstId revoked later :=
    Relation.ReflTransGen.single ⟨hlater, rfl⟩
  obtain ⟨r, -, -, -, -, hverify⟩ := revocation_permanent h hplugins rfl
    ((Relation.ReflTransGen.single hissued).tail hrevoked) rfl rfl hwith
  exact hverify { key := "k" } later rfl rfl rfl [] ⟨rfl, fun _ _ => rfl⟩

end Service

end Latchkey
