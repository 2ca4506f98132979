import Mathlib.Algebra.Order.Ring.Int
import Latchkey.Proofs.Service.Metered
/-!
# A budget of uses is not overdrawn

A run may revoke, renew, change and remove keys, sweep them, and add to what is left of their uses. What
verifications have taken from the budget of a key is then covered by the uses that it was issued with and
by those added since.
-/

namespace Latchkey

open Act KeyTable

variable {σ : Type}

namespace Call

def accepted (svc : Service σ) (id : KeyId) (s : σ) : Call → Bool
  | verify request => accepts id (svc.verify request s).1
  | _ => false

/-- The uses that a call adds to those of an identifier. -/
def added? (id : KeyId) : Call → Option Int64
  | topUp id' amount => if id' = id then some amount else none
  | _ => none

end Call

/-- How many verifications of a run have accepted the key. -/
def acceptances (svc : Service σ) (id : KeyId) (log : List (σ × Call)) : Nat :=
  (log.map fun entry => (entry.2.accepted svc id entry.1).toNat).sum

/-- The sum of what a run has added. -/
def additions (id : KeyId) (log : List (σ × Call)) : Int :=
  (log.map fun entry => (entry.2.added? id).elim 0 Int64.toInt).sum

/-- The budget of an identifier is not set, nothing is taken from it, and its record is written by the
service only; no other key comes under the identifier. -/
structure Budgeting (svc : Service σ) (table : Lens σ KeyTable) (id : KeyId) (s : σ) (c : Call) :
    Prop where
  by_service : ∀ r, c ≠ .put r
  not_set : ∀ uses, c ≠ .setRemaining id uses
  added_nonneg : ∀ amount, c = .topUp id amount → 0 ≤ amount
  not_issued : ∀ request, c = .create request → (table.get s).records.get? id = none →
    (table.get (svc.create request s).2).records.get? id = none

theorem Budgeting.nonneg_of_added? {svc : Service σ} {table : Lens σ KeyTable} {id : KeyId} {s : σ}
    {c : Call} (h : Budgeting svc table id s c) {amount : Int64} (hadded : c.added? id = some amount) :
    0 ≤ amount := by
  unfold Call.added? at hadded
  split at hadded
  · split at hadded
    · rename_i hid
      cases hadded
      exact h.added_nonneg amount (by rw [hid])
    · cases hadded
  · cases hadded

namespace Service

/-- What is said of one call in a run that spends the uses of a key. -/
structure Metering (svc : Service σ) (table : Lens σ KeyTable) (k : IssuedKey) (s : σ) (c : Call) :
    Prop where
  verify_lowers : ∀ request n, c = .verify request → (table.get s).uses? k.id = some (some n) →
    (table.get (c.after svc s)).uses? k.id = none ∨
      ∃ m, (table.get (c.after svc s)).uses? k.id = some (some m) ∧ (m = n ∨ 0 < n ∧ m = n - 1)
  accepted_lowers : c.accepted svc k.id s = true →
    ∃ n, (table.get s).uses? k.id = some (some n) ∧ 0 < n ∧
      (table.get (c.after svc s)).uses? k.id = some (some (n - 1))
  nonneg : ∀ n m, (table.get s).uses? k.id = some (some n) →
    (table.get (c.after svc s)).uses? k.id = some (some m) → 0 ≤ n → 0 ≤ m
  verify_iff_left : ∀ request r n, c = .verify request → request.key = k.key →
    (table.get s).records.get? k.id = some r → r.uses = some n → svc.missing? request = none →
    r.isRevoked = false → r.isExpiredAt (svc.now (svc.stateAtExpiry request s r)) = false →
    svc.OnlyUsageRejects (.beforeVerify request) s →
    svc.OnlyUsageRejects (.recordLoaded request r) (svc.stateAtLookup request s) →
    svc.OnlyUsageRejects (.verified request r) (svc.stateAtSuccess request s r) →
    ∃ o, (svc.verify request s).1 = .ok o ∧ o.keyId = some k.id ∧ (o.valid = true ↔ 0 < n) ∧
      (o.valid = false → o.reason = some Reason.usageExceeded)

/-- The record of an issued key has a limit and its digest, as long as it is there. -/
structure Watched (svc : Service σ) (table : Lens σ KeyTable) (k : IssuedKey) (s : σ) : Prop where
  consistent : (table.get s).Consistent
  limited : (table.get s).uses? k.id ≠ some none
  digest_eq : ∀ r, (table.get s).records.get? k.id = some r → svc.config.hasher.hash k.key = r.digest

theorem Watched.of_same {svc : Service σ} {table : Lens σ KeyTable} {k : IssuedKey} {s s' : σ}
    (h : Watched svc table k s) (hs' : table.get s' = table.get s) : Watched svc table k s' := by
  constructor <;> rw [hs']
  · exact h.consistent
  · exact h.limited
  · exact h.digest_eq

namespace Metered

variable {svc : Service σ} {table : Lens σ KeyTable} {before after : Pipeline σ}
  (h : svc.Metered table before after)

include h

theorem useStep_of_call {s : σ} {id : KeyId} {c : Call} (hs : (table.get s).Consistent)
    (hlimited : (table.get s).uses? id ≠ some none) (hc : Budgeting svc table id s c) :
    UseStep ((table.get s).uses? id) (c.added? id) (c.accepted svc id s)
      ((table.get (c.after svc s)).uses? id) := by
  cases c with
  | create request =>
      change UseStep _ none false ((table.get (svc.create request s).2).uses? id)
      cases hr : (table.get s).records.get? id with
      | none => exact useStep_of_same ((hc.not_issued request rfl hr).trans hr.symm) hlimited none
      | some r => exact useStep_of_same ((h.create_keeps_record request hr).trans hr.symm) hlimited none
  | verify request => exact h.useStep_of_verify hs hlimited
  | revoke id' => exact (h.revoke_within_of keepsUses_revoke id' s).useStep hlimited none
  | remove id' => exact (h.remove_within_of keepsUses_remove id' s).useStep hlimited none
  | extend id' span =>
      have hreplaced := h.extend_replaced hs.ownIds id' span
      refine (hreplaced.keepsUses hs ?_).useStep hlimited none
      rintro r _ ⟨expiresAt, rfl⟩
      exact ⟨rfl, rfl⟩
  | updateMetadata id' patch =>
      have hreplaced := h.updateMetadata_replaced hs.ownIds id' patch
      refine (hreplaced.keepsUses hs ?_).useStep hlimited none
      rintro r _ rfl
      exact ⟨rfl, rfl⟩
  | sweep options => exact (h.sweep_within_of keepsUses_remove options s).useStep hlimited none
  | get id' =>
      have hsame := h.get_keeps id' s
      exact useStep_of_same (congrArg (·.records.get? id) hsame.symm) hlimited none
  | topUp id' amount =>
      have hreplaced := h.topUp_replaced hs.ownIds id' amount
      by_cases hid : id' = id
      · have hadded : (Call.topUp id' amount).added? id = some amount := if_pos hid
        rw [hadded]
        rcases hreplaced with hsame | ⟨r, r', hr, ⟨left, hleft, rfl⟩, hafter⟩
        · exact useStep_of_same (congrArg (·.records.get? id) hsame) hlimited _
        · have hbefore : (table.get s).uses? id = some (some left) := by
            rw [uses?, ← hid, hr, Option.map_some, hleft]
          have hnew : (table.get (Call.after svc s (.topUp id' amount))).uses? id =
              some (some (UsageLimits.toppedUp left amount)) := by
            rw [uses?, Call.after, hafter, records_replace, if_pos]
            · rfl
            · exact (hs.id_eq hr).trans hid
          rw [hbefore, hnew]
          exact .toppedUp left amount
      · have hadded : (Call.topUp id' amount).added? id = none := if_neg hid
        rw [hadded]
        refine useStep_of_same (hreplaced.records_of_ne hs ?_ hid) hlimited none
        rintro r _ ⟨left, -, rfl⟩
        rfl
  | setRemaining id' uses =>
      have hid : id' ≠ id := by
        rintro rfl
        exact hc.not_set uses rfl
      have hreplaced := h.setRemaining_replaced hs.ownIds id' uses
      refine useStep_of_same (hreplaced.records_of_ne hs ?_ hid) hlimited none
      rintro r _ rfl
      rfl
  | put r => exact absurd rfl (hc.by_service r)

/-! ### Runs -/

section Watched

variable {k : IssuedKey} {s : σ} (hs : Watched svc table k s)

include hs

theorem watched_after {c : Call} (hc : Budgeting svc table k.id s c) :
    Watched svc table k (c.after svc s) := by
  have hstep := h.useStep_of_call hs.consistent hs.limited hc
  have hcontinues : c.Continues SameIssue (table.get s) :=
    fun r _ he _ => absurd he (hc.by_service r)
  have honly := h.onlySpends
  refine ⟨Call.consistent h.toOnTable honly lasting_sameIssue hs.consistent hcontinues, hstep.limited,
    fun r' hr' => ?_⟩
  -- The record was there before the call, for it does not come back.
  cases hr : (table.get s).records.get? k.id with
  | none =>
      unfold uses? at hstep
      rw [hr] at hstep
      have hgone := hstep.eq_none_of_none
      rw [hr'] at hgone
      cases hgone
  | some r =>
      have hsame := Call.lasts h.toOnTable honly lasting_sameIssue hs.consistent hcontinues hr hr'
      exact (hs.digest_eq r hr).trans hsame.1.symm

theorem metering {c : Call} (hc : Budgeting svc table k.id s c) : Metering svc table k s c where
  verify_lowers := by
    rintro request n rfl hn
    exact (h.useStep_of_verify hs.consistent hs.limited).lowers hn
  accepted_lowers haccepted := by
    have hstep := h.useStep_of_call hs.consistent hs.limited hc
    rw [haccepted] at hstep
    exact hstep.lowers_of_paid
  nonneg n m hn hm := by
    have hstep := h.useStep_of_call hs.consistent hs.limited hc
    exact hstep.nonneg (fun amount => hc.nonneg_of_added?) hn hm
  verify_iff_left request r n _ hkey hr hn := by
    have hid := hs.consistent.id_eq hr
    rw [← hid] at hr ⊢
    refine h.verify_iff_left hs.consistent hr hn ?_
    rw [hkey]
    exact hs.digest_eq r (hid ▸ hr)

/-- What has been accepted and what is left is covered by what there was and what was added. -/
theorem log_spends {log : List (σ × Call)} {s' : σ}
    (hlog : Log svc table (Budgeting svc table k.id) s log s') :
    Watched svc table k s' ∧ (∀ entry ∈ log, Metering svc table k entry.1 entry.2) ∧
      acceptances svc k.id log + balance ((table.get s').uses? k.id) ≤
        balance ((table.get s).uses? k.id) + additions k.id log := by
  induction hlog with
  | nil =>
      refine ⟨hs, fun _ hentry => absurd hentry List.not_mem_nil, ?_⟩
      simp [acceptances, additions]
  | @call s₁ log c hlog hc ih =>
      obtain ⟨hs₁, hmetering, hle⟩ := ih
      refine ⟨h.watched_after hs₁ hc, ?_, ?_⟩
      · intro entry hentry
        rcases List.mem_append.1 hentry with hentry | hentry
        · exact hmetering entry hentry
        · rw [List.mem_singleton.1 hentry]
          exact h.metering hs₁ hc
      · have hstep := (h.useStep_of_call hs₁.consistent hs₁.limited hc).balance_le
          fun amount => hc.nonneg_of_added?
        have haccepted : acceptances svc k.id (log ++ [(s₁, c)]) =
            acceptances svc k.id log + (c.accepted svc k.id s₁).toNat := by simp [acceptances]
        have hadded : additions k.id (log ++ [(s₁, c)]) =
            additions k.id log + (c.added? k.id).elim 0 Int64.toInt := by simp [additions]
        rw [haccepted, hadded]
        omega
  | elsewhere hlog hsame ih =>
      obtain ⟨hs₁, hmetering, hle⟩ := ih
      refine ⟨hs₁.of_same hsame, hmetering, ?_⟩
      rwa [hsame]

end Watched

end Metered

/-- A key with a number of uses is accepted at most that often, and once more for each use added. A
verification takes one use if it accepts the key, and never more, and what is left does not become less
than nothing. If nothing else stands against the key, it is accepted just as long as a use is left. -/
theorem budget_not_overdrawn {svc : Service σ} {table : Lens σ KeyTable} {before after : Pipeline σ}
    (h : svc.Metered table before after) {s₀ s₁ s₂ s₃ : σ} (hempty : table.get s₀ = {})
    (hrun : Run svc table ByService s₀ s₁) {request : CreateRequest} {k : IssuedKey} {n : Int64}
    (huses : request.uses = some n) (hcreate : svc.create request s₁ = (.ok k, s₂))
    {log : List (σ × Call)} (hlog : Log svc table (Budgeting svc table k.id) s₂ log s₃) :
    acceptances svc k.id log ≤ max n.toInt 0 + additions k.id log ∧
      ∀ entry ∈ log, Metering svc table k entry.1 entry.2 := by
  have hs₁ : (table.get s₁).Consistent := by
    refine Run.consistent h.toOnTable h.onlySpends lasting_sameIssue
      (fun s _ hc => hc.continues SameIssue (table.get s)) hrun ?_
    rw [hempty]
    exact consistent_empty
  have hadded : k.Added svc request (table.get s₁) (table.get s₂) := by
    rcases h.create_cases request s₁ with ⟨e, s', he, -⟩ | ⟨k', s', he, hadded⟩
    · rw [hcreate] at he
      cases he
    · rw [hcreate] at he
      cases he
      exact hadded
  have hleft : (table.get s₂).uses? k.id = some (some n) := by
    obtain ⟨label, now, hrecord⟩ := hadded.record_eq
    rw [uses?, hadded.stored, hrecord, Option.map_some]
    exact congrArg some huses
  have hs₂ : Watched svc table k s₂ := by
    refine ⟨hadded.consistent hs₁, fun hspent => ?_, fun r hr => ?_⟩
    · rw [hleft] at hspent
      cases hspent
    · rw [hadded.stored] at hr
      cases hr
      exact hadded.digest_eq.symm
  obtain ⟨-, hmetering, hle⟩ := h.log_spends hs₂ hlog
  refine ⟨?_, hmetering⟩
  have hnonneg := balance_nonneg ((table.get s₃).uses? k.id)
  have hbalance : balance ((table.get s₂).uses? k.id) = max 0 n.toInt := by rw [hleft]; rfl
  omega

theorem budgeting_verify (svc : Service σ) (table : Lens σ KeyTable) (id : KeyId) (s : σ)
    (request : VerifyRequest) : Budgeting svc table id s (.verify request) where
  by_service _ he := by cases he
  not_set _ he := by cases he
  added_nonneg _ he := by cases he
  not_issued _ he := by cases he

/-- The service in memory with no plugin but the one for usage limits. -/
theorem metered_alone : (World.service [Plugin.usageLimits ⟨World.site.keys⟩] World.sameKey).Metered
    World.keysPart [] [] where
  toOnTable := World.service_onTable _ _
  plugins_eq := rfl
  others_keep _ hp := by cases hp
  others_named _ hp := by cases hp

/-- Of three verifications of a key with two uses, the last is told that there is none left. -/
theorem third_of_two_uses_exceeds :
    let svc := World.service [Plugin.usageLimits ⟨World.site.keys⟩] World.sameKey
    let check : VerifyRequest := { key := "k" }
    let s₁ := (svc.create { uses := some 2 } {}).2
    let s₂ := (svc.verify check s₁).2
    let s₃ := (svc.verify check s₂).2
    let log := [(s₁, Call.verify check), (s₂, .verify check), (s₃, .verify check)]
    acceptances svc World.firstId log = 2 ∧
      acceptances svc World.firstId log ≤ max (2 : Int64).toInt 0 + additions World.firstId log ∧
      ∃ o, (svc.verify check s₃).1 = .ok o ∧ o.valid = false ∧
        o.reason = some Reason.usageExceeded := by
  intro svc check s₁ s₂ s₃ log
  have hcreate : svc.create { uses := some 2 } {} = (.ok ⟨World.firstId, "k",
      newRecord { uses := some 2 } World.firstId "" "k" .epoch⟩, s₁) := rfl
  have hlog : Log svc World.keysPart (Budgeting svc World.keysPart World.firstId) s₁ log
      (svc.verify check s₃).2 :=
    .call (.call (.call (.nil s₁) (budgeting_verify svc _ _ s₁ check))
      (budgeting_verify svc _ _ s₂ check)) (budgeting_verify svc _ _ s₃ check)
  obtain ⟨hle, hmetering⟩ := budget_not_overdrawn metered_alone rfl Relation.ReflTransGen.refl rfl
    hcreate hlog
  refine ⟨by decide +kernel, hle, ?_⟩
  have hthird := hmetering (s₃, .verify check) (by simp [log])
  obtain ⟨o, ho, -, hvalid, hreason⟩ := hthird.verify_iff_left check _ 0 rfl rfl rfl rfl rfl rfl rfl
    ⟨_, rfl, nofun⟩ ⟨_, rfl, fun r hr => by cases hr; rfl⟩ ⟨_, rfl, nofun⟩
  have hinvalid : o.valid = false := Bool.eq_false_iff.2 fun h => absurd (hvalid.1 h) (by decide)
  exact ⟨o, ho, hinvalid, hreason hinvalid⟩

end Service

end Latchkey
