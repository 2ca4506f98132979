import Latchkey.Plugin.BuiltIn
import Latchkey.Proofs.Key.Expiry
import Latchkey.Proofs.Service.Course
import Latchkey.Proofs.Service.World
/-!
# Removing expired records on the way

A verification that comes across an expired record may remove it. It judges the record that it has looked
up, and the store removes what stands under the identifier by then; in between the plugins are shown the
record. As long as none of them postpones an expiry this is the same: what is removed has expired. A plugin
that renews the key in its turn is not heard, and the renewed key is gone.
-/

namespace Latchkey

open Act KeyTable

/-- A record that has an expiry has one that is no later. -/
def KeyRecord.ExpiresNoLater (r r' : KeyRecord) : Prop :=
  ∀ expiry, r.expiresAt = some expiry → ∃ expiry', r'.expiresAt = some expiry' ∧ expiry' ≤ expiry

theorem KeyRecord.ExpiresNoLater.isExpiredAt {r r' : KeyRecord} {now : Instant}
    (h : r.ExpiresNoLater r') (hr : r.isExpiredAt now = true) : r'.isExpiredAt now = true := by
  obtain ⟨expiry, hexpiry, hle⟩ := KeyRecord.isExpiredAt_iff.1 hr
  obtain ⟨expiry', hexpiry', hle'⟩ := h expiry hexpiry
  exact KeyRecord.isExpiredAt_iff.2 ⟨expiry', hexpiry', Instant.le_trans hle' hle⟩

namespace KeyTable

/-- The same identifiers have records, and no expiry is postponed. -/
structure Shortens (t u : KeyTable) : Prop where
  isSome_eq : ∀ id, (u.records.get? id).isSome = (t.records.get? id).isSome
  expires : ∀ id r r', t.records.get? id = some r → u.records.get? id = some r' → r.ExpiresNoLater r'
  consistent : t.Consistent → u.Consistent

theorem Shortens.exists_eq_some {t u : KeyTable} (h : Shortens t u) {id : KeyId} {r : KeyRecord}
    (hr : t.records.get? id = some r) : ∃ r', u.records.get? id = some r' := by
  rw [← Option.isSome_iff_exists, h.isSome_eq, hr]
  rfl

instance : IsPreorder KeyTable Shortens where
  refl t := ⟨fun _ => rfl, fun _ r r' hr hr' expiry hexpiry => by
    rw [hr] at hr'
    cases hr'
    exact ⟨expiry, hexpiry, Instant.le_refl expiry⟩, id⟩
  trans t u v h h' := by
    refine ⟨fun id => (h'.isSome_eq id).trans (h.isSome_eq id), ?_, h'.consistent ∘ h.consistent⟩
    intro id r r'' hr hr'' expiry hexpiry
    obtain ⟨r', hr'⟩ := h.exists_eq_some hr
    obtain ⟨expiry', hexpiry', hle⟩ := h.expires id r r' hr hr' expiry hexpiry
    obtain ⟨expiry'', hexpiry'', hle'⟩ := h'.expires id r' r'' hr' hr'' expiry' hexpiry'
    exact ⟨expiry'', hexpiry'', Instant.le_trans hle' hle⟩

/-- To spend uses does not touch expiries. -/
theorem shortens_spend (id : KeyId) (t : KeyTable) : Shortens t ((Write.spend id).apply t) := by
  have hrecords := (spend_apply id t).2
  refine ⟨fun id' => ?_, ?_, fun ht => ht.spend id⟩
  · rw [Write.apply, hrecords]
    split
    · exact Option.isSome_map ..
    · rfl
  · intro id' r r' hr hr' expiry hexpiry
    rw [Write.apply, hrecords, hr] at hr'
    obtain ⟨uses, hspent⟩ := r.exists_spent_eq
    split at hr'
    · rw [Option.map_some, hspent] at hr'
      cases hr'
      exact ⟨expiry, hexpiry, Instant.le_refl expiry⟩
    · cases hr'
      exact ⟨expiry, hexpiry, Instant.le_refl expiry⟩

theorem Writes.shortens_of_spending {t u : KeyTable} (h : Writes Spending t u) : Shortens t u := by
  refine h.relates fun t w hw => ?_
  cases w with
  | spend id => exact shortens_spend id t
  | create _ | update _ | revoke _ _ | remove _ => exact hw.elim

end KeyTable

variable {σ : Type}

/-- The hooks keep all records and postpone no expiry. -/
def Pipeline.OnlyShortens (ps : Pipeline σ) (table : Lens σ KeyTable) : Prop :=
  ∀ p ∈ ps, ∀ hook, (p.answer hook).Within table.get Shortens

theorem Pipeline.OnlySpends.onlyShortens {ps : Pipeline σ} {table : Lens σ KeyTable}
    (h : ps.OnlySpends table) : ps.OnlyShortens table :=
  fun p hp hook => (h p hp hook).mono fun _ _ hw => hw.shortens_of_spending

theorem Pipeline.OnlyShortens.run {ps : Pipeline σ} {table : Lens σ KeyTable}
    (h : ps.OnlyShortens table) {hook : Hook} {result : Except (Failure Error) (Option Rejection)}
    {s s' : σ} (hrun : ps.run hook s = (result, s')) : Shortens (table.get s) (table.get s') := by
  have hwithin := Pipeline.run_within (fun p hp => h p hp hook) s
  rw [hrun] at hwithin
  exact hwithin

namespace Service

variable {svc : Service σ} {table : Lens σ KeyTable} {request : VerifyRequest} {s s₁ s₂ s₃ : σ}
  {r : KeyRecord}

theorem Clears.shortens (h : svc.Clears table request s r s₁ s₂)
    (hplugins : svc.plugins.OnlyShortens table) : Shortens (table.get s) (table.get s₂) :=
  trans_of Shortens (hplugins.run h.passed) (hplugins.run h.shown)

theorem Stands.shortens (h : svc.OnTable table) (hstands : svc.Stands table request s r s₁ s₂ s₃)
    (hplugins : svc.plugins.OnlyShortens table) : Shortens (table.get s) (table.get s₃) := by
  have hreported : table.get s₂ = table.get s₃ := by
    rw [hstands.reported]
    exact h.track_within _ s₂
  rw [← hreported]
  exact hstands.toClears.shortens hplugins

/-- A verification either keeps all records and their expiries or removes one record that had expired,
as it was stored at that time. -/
theorem OnTable.verify_removes_expired (h : svc.OnTable table) (hs : (table.get s).Consistent)
    (hplugins : svc.plugins.OnlyShortens table) (request : VerifyRequest) :
    Shortens (table.get s) (table.get (svc.verify request s).2) ∨
      ∃ found s₁ s₂, svc.Clears table request s found s₁ s₂ ∧
        table.get (svc.verify request s).2 = (Write.remove found.id).apply (table.get s₂) ∧
        ∃ r, (table.get s₂).records.get? found.id = some r ∧ r.isExpiredAt (svc.now s₂) = true := by
  have hcourse := h.verify_course request s
  revert hcourse
  obtain ⟨result, s'⟩ := svc.verify request s
  intro hcourse
  cases hcourse with
  | missing _ => exact .inl (refl_of Shortens _)
  | failedBefore _ hrun | blocked _ hrun => exact .inl (hplugins.run hrun)
  | unknown hadmits _ => exact .inl (hplugins.run hadmits.passed)
  | revoked hfinds _ => exact .inl (hplugins.run hfinds.passed)
  | failedShown hfinds _ hrun | refused hfinds _ hrun =>
      exact .inl (trans_of Shortens (hplugins.run hfinds.passed) (hplugins.run hrun))
  | exhausted hclears _ _ => exact .inl (hclears.shortens hplugins)
  | failedVerified hstands hrun | vetoed hstands hrun | accepted hstands hrun =>
      exact .inl (trans_of Shortens (hstands.shortens h hplugins) (hplugins.run hrun))
  | @expired found s₁ s₂ hclears hexpired =>
      have htable := (h.dropExpired_apply found s₂).2
      split at htable
      · right
        refine ⟨found, s₁, s₂, hclears, htable, ?_⟩
        have hs₁ := (hplugins.run hclears.passed).consistent hs
        have hfound := (hs₁.lookup_eq_some_iff.1 hclears.found).1
        -- The plugins have been shown the record since, and may have changed what is stored.
        have hshown := hplugins.run hclears.shown
        obtain ⟨r, hr⟩ := hshown.exists_eq_some hfound
        exact ⟨r, hr, (hshown.expires _ _ _ hfound hr).isExpiredAt hexpired⟩
      · left
        rw [htable]
        exact hclears.shortens hplugins

/-- A plugin renews the key that it is shown, and the verification removes it all the same. -/
theorem renewed_key_removed :
    let renewal : Plugin World := ({ name := "renewal" } : Plugin World).onRecordLoaded fun _ r => do
      (World.site.keys.update { r with expiresAt := some .latest }).mapError .passedOn
      pure none
    let svc := World.service [renewal] { World.sameKey with autoDeleteExpired := true }
    let issued := (svc.create { expiresAt := some .epoch } {}).2
    ∃ found s₂ renewed, svc.Clears World.keysPart { key := "k" } issued found issued s₂ ∧
      s₂.keys.records.get? found.id = some renewed ∧ renewed.isExpiredAt (svc.now s₂) = false ∧
      (svc.verify { key := "k" } issued).2.keys.records.get? found.id = none := by
  intro renewal svc issued
  have hclears : svc.Clears World.keysPart { key := "k" } issued _ issued _ :=
    ⟨⟨⟨rfl, rfl⟩, rfl⟩, rfl, rfl⟩
  exact ⟨_, _, _, hclears, rfl, rfl, rfl⟩

end Service

end Latchkey
