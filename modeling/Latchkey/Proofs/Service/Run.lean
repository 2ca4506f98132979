import Mathlib.Logic.Relation
import Latchkey.Proofs.Service.Frame
/-!
# Runs of a service

A run makes calls one after another, and between them anything may happen to the state that leaves the
table of keys as it is: the clock goes on, or a rate limit is reset. Which calls a run may make is up
to a predicate on the state and the call.

Runs keep the table consistent, and a record that is there all through a run stays the record that it
was, in everything that a `Lasting` relation says.
-/

namespace Latchkey

open KeyTable

/-- What can be asked of a service, or of its store of keys past it. -/
inductive Call where
  | create (request : CreateRequest)
  | verify (request : VerifyRequest)
  | revoke (id : KeyId)
  | remove (id : KeyId)
  | extend (id : KeyId) (span : Duration)
  | updateMetadata (id : KeyId) (patch : Metadata)
  | sweep (options : SweepOptions)
  | get (id : KeyId)
  | topUp (id : KeyId) (amount : Int64)
  | setRemaining (id : KeyId) (uses : Option Int64)
  /-- A record written to the store without the service. -/
  | put (r : KeyRecord)

variable {σ : Type}

/-- The state after a call, whatever its answer. -/
def Call.after (svc : Service σ) (s : σ) : Call → σ
  | create request => (svc.create request s).2
  | verify request => (svc.verify request s).2
  | revoke id => (svc.revoke id s).2
  | remove id => (svc.remove id s).2
  | extend id span => (svc.extend id span s).2
  | updateMetadata id patch => (svc.updateMetadata id patch s).2
  | sweep options => (svc.sweep options s).2
  | get id => (svc.get id s).2
  | topUp id amount => (UsageLimits.topUp ⟨svc.store⟩ id amount s).2
  | setRemaining id uses => (UsageLimits.setRemaining ⟨svc.store⟩ id uses s).2
  | put r => (svc.store.update r s).2

inductive Move (svc : Service σ) (table : Lens σ KeyTable) (allowed : σ → Call → Prop) :
    σ → σ → Prop where
  | call {s : σ} {c : Call} (h : allowed s c) : Move svc table allowed s (c.after svc s)
  | elsewhere {s s' : σ} (h : table.get s' = table.get s) : Move svc table allowed s s'

def Run (svc : Service σ) (table : Lens σ KeyTable) (allowed : σ → Call → Prop) : σ → σ → Prop :=
  Relation.ReflTransGen (Move svc table allowed)

/-- A run in which the record of `id` is not removed. -/
def RunWith (svc : Service σ) (table : Lens σ KeyTable) (allowed : σ → Call → Prop) (id : KeyId) :
    σ → σ → Prop :=
  Relation.ReflTransGen fun s s' =>
    Move svc table allowed s s' ∧ (table.get s').records.contains id

/-- A run with its calls, each with the state in which it was made. -/
inductive Log (svc : Service σ) (table : Lens σ KeyTable) (allowed : σ → Call → Prop) :
    σ → List (σ × Call) → σ → Prop where
  | nil (s : σ) : Log svc table allowed s [] s
  | call {s s' : σ} {log : List (σ × Call)} {c : Call} (hlog : Log svc table allowed s log s')
    (h : allowed s' c) : Log svc table allowed s (log ++ [(s', c)]) (c.after svc s')
  | elsewhere {s s' s'' : σ} {log : List (σ × Call)} (hlog : Log svc table allowed s log s')
    (h : table.get s'' = table.get s') : Log svc table allowed s log s''

/-- A record written without the service continues the one that is stored. -/
def Call.Continues (K : KeyRecord → KeyRecord → Prop) (t : KeyTable) (c : Call) : Prop :=
  ∀ r old, c = .put r → t.records.get? r.id = some old →
    K old { r with revokedAt := old.revokedAt <|> r.revokedAt }

variable {svc : Service σ} {table : Lens σ KeyTable} {allowed : σ → Call → Prop} {s s' : σ}
  {K : KeyRecord → KeyRecord → Prop}

theorem RunWith.run {id : KeyId} (h : RunWith svc table allowed id s s') :
    Run svc table allowed s s' :=
  Relation.ReflTransGen.mono (fun _ _ hmove => hmove.1) _ _ h

section Table

variable (h : svc.OnTable table) (hplugins : svc.plugins.OnlySpends table)

include h

/-- Every call but the writing of a record without the service. -/
theorem Call.upkeep_or_create (hplugins : svc.plugins.OnlySpends table)
    (hs : (table.get s).Consistent) {c : Call} (hput : ∀ r, c ≠ .put r) :
    Writes Upkeep (table.get s) (table.get (c.after svc s)) ∨ ∃ request, c = .create request := by
  cases c with
  | create request => exact .inr ⟨request, rfl⟩
  | verify request => exact .inl (h.verify_within hplugins request s)
  | revoke id => exact .inl (h.revoke_within id s)
  | remove id => exact .inl (h.remove_within id s)
  | extend id span =>
      refine .inl ((h.extend_replaced hs.ownIds id span).upkeep hs ?_)
      rintro r _ ⟨expiresAt, rfl⟩
      exact ⟨expiresAt, r.uses, r.metadata, rfl⟩
  | updateMetadata id patch =>
      refine .inl ((h.updateMetadata_replaced hs.ownIds id patch).upkeep hs ?_)
      rintro r _ rfl
      exact ⟨r.expiresAt, r.uses, _, rfl⟩
  | sweep options => exact .inl (h.sweep_within options s)
  | get id => exact .inl ((h.get_keeps id).within s)
  | topUp id amount =>
      refine .inl ((h.topUp_replaced hs.ownIds id amount).upkeep hs ?_)
      rintro r _ ⟨left, -, rfl⟩
      exact ⟨r.expiresAt, _, r.metadata, rfl⟩
  | setRemaining id uses =>
      refine .inl ((h.setRemaining_replaced hs.ownIds id uses).upkeep hs ?_)
      rintro r _ rfl
      exact ⟨r.expiresAt, uses, r.metadata, rfl⟩
  | put r => exact absurd rfl (hput r)

theorem table_after_put (r : KeyRecord) :
    table.get ((Call.put r).after svc s) = (Write.update r).apply (table.get s) := by
  rw [Call.after, h.store_eq]
  exact KeyStore.memory_update_within h.lawful r s

include hplugins

theorem Call.served (hs : (table.get s).Consistent) {c : Call} (hput : ∀ r, c ≠ .put r) :
    Served (table.get s) (table.get (c.after svc s)) := by
  rcases Call.upkeep_or_create h hplugins hs hput with hw | ⟨request, rfl⟩
  · exact .inl hw
  · exact h.create_served hplugins request s

theorem Call.consistent (hK : Lasting K) (hs : (table.get s).Consistent) {c : Call}
    (hc : c.Continues K (table.get s)) : (table.get (c.after svc s)).Consistent := by
  by_cases hput : ∃ r, c = .put r
  · obtain ⟨r, rfl⟩ := hput
    rw [table_after_put h]
    refine hs.update (hs.not_clashes fun old hold => ?_)
    exact (hK.digest_eq (hc r old rfl hold)).symm
  · exact (Call.served h hplugins hs fun r hr => hput ⟨r, hr⟩).consistent hs

theorem Call.lasts (hK : Lasting K) (hs : (table.get s).Consistent) {c : Call}
    (hc : c.Continues K (table.get s)) {id : KeyId} {r r' : KeyRecord}
    (hr : (table.get s).records.get? id = some r)
    (hr' : (table.get (c.after svc s)).records.get? id = some r') : K r r' := by
  by_cases hput : ∃ r, c = .put r
  · obtain ⟨new, rfl⟩ := hput
    rw [table_after_put h] at hr'
    obtain ⟨r₀, hr₀, hk⟩ := (Write.update new).inherits hK (fun _ hw => by cases hw)
      (fun r old hw hold => by cases hw; exact hc new old rfl hold) id r' hr'
    rw [hr] at hr₀
    cases hr₀
    exact hk
  · exact (Call.served h hplugins hs fun r hr => hput ⟨r, hr⟩).lasts hK hr hr'

section Allowed

variable (hK : Lasting K) (hallowed : ∀ s c, allowed s c → c.Continues K (table.get s))

include hK hallowed

theorem Move.consistent (hm : Move svc table allowed s s') (hs : (table.get s).Consistent) :
    (table.get s').Consistent := by
  cases hm with
  | call hc => exact Call.consistent h hplugins hK hs (hallowed _ _ hc)
  | elsewhere he =>
      rw [he]
      exact hs

theorem Move.lasts (hm : Move svc table allowed s s') (hs : (table.get s).Consistent) {id : KeyId}
    {r r' : KeyRecord} (hr : (table.get s).records.get? id = some r)
    (hr' : (table.get s').records.get? id = some r') : K r r' := by
  cases hm with
  | call hc => exact Call.lasts h hplugins hK hs (hallowed _ _ hc) hr hr'
  | elsewhere he =>
      rw [he, hr] at hr'
      cases hr'
      exact hK.refl r

theorem Run.consistent (hrun : Run svc table allowed s s') (hs : (table.get s).Consistent) :
    (table.get s').Consistent := by
  induction hrun with
  | refl => exact hs
  | tail _ hm ih => exact hm.consistent h hplugins hK hallowed ih

theorem RunWith.lasts {id : KeyId} (hrun : RunWith svc table allowed id s s')
    (hs : (table.get s).Consistent) {r : KeyRecord} (hr : (table.get s).records.get? id = some r) :
    ∃ r', (table.get s').records.get? id = some r' ∧ K r r' := by
  induction hrun with
  | refl => exact ⟨r, hr, hK.refl r⟩
  | tail hrun hm ih =>
      obtain ⟨r₁, hr₁, hk⟩ := ih
      obtain ⟨r', hr'⟩ := Option.isSome_iff_exists.1 hm.2
      have hs₁ := Run.consistent h hplugins hK hallowed (RunWith.run hrun) hs
      exact ⟨r', hr', hK.trans hk (hm.1.lasts h hplugins hK hallowed hs₁ hr₁ hr')⟩

end Allowed

end Table

end Latchkey
