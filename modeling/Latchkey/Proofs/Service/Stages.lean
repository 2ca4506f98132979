import Latchkey.Proofs.Service.Course
import Latchkey.Proofs.Service.World
/-!
# The first objection decides

A verification with all the fields that its plugins require goes through seven stages. What each of them
has against the request is said here by itself, and the reason that the verification gives is the first
objection in the order of the stages; the request is valid if there is none. Plugins may do what they
like in their turns as long as they answer, and to fail is no objection.
-/

namespace Latchkey

open Act KeyTable

variable {σ : Type}

/-- The stages of a verification that has all required fields. -/
inductive Stage where
  | beforeVerify
  | lookup
  | revocation
  | recordLoaded
  | expiry
  | uses
  | verified
deriving DecidableEq

namespace Stage

/-- In the order in which a verification comes to them. -/
def all : List Stage := [beforeVerify, lookup, revocation, recordLoaded, expiry, uses, verified]

theorem mem_all (stage : Stage) : stage ∈ all := by
  cases stage <;> decide

end Stage

def KeyTable.StaysConsistent (t u : KeyTable) : Prop := t.Consistent → u.Consistent

instance : IsPreorder KeyTable StaysConsistent where
  refl _ h := h
  trans _ _ _ h h' := h' ∘ h

namespace Service

variable (svc : Service σ) (table : Lens σ KeyTable) (request : VerifyRequest) (s : σ)

/-- The state in which the presented key is looked up. -/
def stateAtLookup : σ := (svc.plugins.run (.beforeVerify request) s).2

/-- The record that the look-up finds, if the verification comes to it. -/
def reached? : Option KeyRecord :=
  if svc.plugins.firstRejection? (.beforeVerify request) s = none then
    (table.get (svc.stateAtLookup request s)).lookup (svc.config.hasher.hash request.key)
  else none

/-- The state in which the expiry of a record is checked. -/
def stateAtExpiry (r : KeyRecord) : σ :=
  (svc.plugins.run (.recordLoaded request r) (svc.stateAtLookup request s)).2

/-- The state in which the plugins see that a record has stood every check. -/
def stateAtSuccess (r : KeyRecord) : σ :=
  (svc.track (.verified r.id r.owner request.partition) (svc.stateAtExpiry request s r)).2

/-- What a stage after the look-up has against the record, as it was when it was looked up. -/
def objectionTo? (r : KeyRecord) : Stage → Option String
  | .beforeVerify | .lookup => none
  | .revocation => if r.revokedAt = none then none else some Reason.revoked
  | .recordLoaded =>
    (svc.plugins.firstRejection? (.recordLoaded request r) (svc.stateAtLookup request s)).map (·.reason)
  | .expiry =>
    if ∃ at' ∈ r.expiresAt, at' ≤ svc.now (svc.stateAtExpiry request s r) then some Reason.expired
    else none
  | .uses => if ∃ n ∈ r.uses, n ≤ 0 then some Reason.usageExceeded else none
  | .verified =>
    (svc.plugins.firstRejection? (.verified request r) (svc.stateAtSuccess request s r)).map (·.reason)

/-- What a stage has against the request. -/
def objection? : Stage → Option String
  | .beforeVerify => (svc.plugins.firstRejection? (.beforeVerify request) s).map (·.reason)
  | .lookup => if svc.reached? table request s = none then some Reason.notFound else none
  | stage => (svc.reached? table request s).bind fun r => svc.objectionTo? request s r stage

/-- The first objection in the order of the stages. -/
def firstObjection? : Option String := Stage.all.findSome? (svc.objection? table request s)

/-- An outcome is the one that the stages lead to. -/
structure Decides (o : VerifyOutcome) : Prop where
  valid_iff : o.valid = true ↔ ∀ stage, svc.objection? table request s stage = none
  reason_eq : o.reason = svc.firstObjection? table request s
  of_valid : o.valid = true → ∃ r, svc.reached? table request s = some r ∧ o.keyId = some r.id ∧
    o.owner = r.owner ∧ o.metadata = if request.includeMetadata then some r.metadata else none
  of_invalid : o.valid = false → o.reason.isSome ∧ o.owner = none ∧ o.metadata = none ∧
    o.keyId = (svc.reached? table request s).map (·.id)

variable {svc table request s}

theorem firstObjection?_eq_none_iff :
    svc.firstObjection? table request s = none ↔
      ∀ stage, svc.objection? table request s stage = none := by
  unfold firstObjection?
  rw [List.findSome?_eq_none_iff]
  exact ⟨fun h stage => h stage stage.mem_all, fun h stage _ => h stage⟩

theorem decides_accepted {r : KeyRecord} (hreached : svc.reached? table request s = some r)
    (h : svc.firstObjection? table request s = none) :
    svc.Decides table request s (.accepted r request.includeMetadata) where
  valid_iff := iff_of_true rfl (firstObjection?_eq_none_iff.1 h)
  reason_eq := h.symm
  of_valid _ := ⟨r, hreached, rfl, rfl, rfl⟩
  of_invalid := nofun

theorem decides_invalid {reason : String} {keyId : Option KeyId}
    (hkey : (svc.reached? table request s).map (·.id) = keyId)
    (h : svc.firstObjection? table request s = some reason) :
    svc.Decides table request s { valid := false, reason := some reason, keyId } := by
  have hobjection : ¬ ∀ stage, svc.objection? table request s stage = none := by
    rw [← firstObjection?_eq_none_iff, h]
    exact nofun
  exact ⟨iff_of_false nofun hobjection, h.symm, nofun, fun _ => ⟨rfl, rfl, rfl, hkey.symm⟩⟩

theorem decides_invalidFor {r : KeyRecord} {reason : String}
    (hreached : svc.reached? table request s = some r)
    (h : svc.firstObjection? table request s = some reason) :
    svc.Decides table request s (.invalidFor r reason) :=
  decides_invalid (congrArg _ hreached) h

/-! ### The stages along the course of a verification -/

variable {r : KeyRecord} {s₁ s₂ s₃ : σ}

theorem Admits.objection?_beforeVerify (h : svc.Admits request s s₁) :
    svc.objection? table request s .beforeVerify = none := by
  have hfirst := Pipeline.firstRejection?_of_run h.passed
  exact congrArg (Option.map (·.reason)) hfirst

theorem Admits.reached?_eq (h : svc.Admits request s s₁) :
    svc.reached? table request s = (table.get s₁).lookup (svc.config.hasher.hash request.key) := by
  unfold reached? stateAtLookup
  rw [Pipeline.firstRejection?_of_run h.passed, h.passed]
  exact if_pos rfl

theorem Admits.stateAtLookup_eq (h : svc.Admits request s s₁) : svc.stateAtLookup request s = s₁ :=
  congrArg Prod.snd h.passed

theorem Finds.reached?_eq (h : svc.Finds table request s r s₁) :
    svc.reached? table request s = some r :=
  (h.toAdmits.reached?_eq).trans h.found

theorem Finds.objection?_eq (h : svc.Finds table request s r s₁) (stage : Stage) :
    svc.objection? table request s stage = svc.objectionTo? request s r stage := by
  have hreached := h.reached?_eq
  have hbind : (svc.reached? table request s).bind (svc.objectionTo? request s · stage) =
      svc.objectionTo? request s r stage := by rw [hreached, Option.bind_some]
  cases stage with
  | beforeVerify => exact h.objection?_beforeVerify
  | lookup => exact if_neg (by rw [hreached]; exact nofun)
  | _ => exact hbind

theorem objectionTo?_revocation :
    svc.objectionTo? request s r .revocation = if r.isRevoked then some Reason.revoked else none := by
  unfold objectionTo? KeyRecord.isRevoked
  cases r.revokedAt <;> rfl

theorem Finds.objectionTo?_recordLoaded (h : svc.Finds table request s r s₁)
    {rejection : Option Rejection}
    (hrun : svc.plugins.run (.recordLoaded request r) s₁ = (.ok rejection, s₂)) :
    svc.objectionTo? request s r .recordLoaded = rejection.map (·.reason) := by
  unfold objectionTo?
  rw [h.stateAtLookup_eq, Pipeline.firstRejection?_of_run hrun]

theorem Clears.stateAtExpiry_eq (h : svc.Clears table request s r s₁ s₂) :
    svc.stateAtExpiry request s r = s₂ := by
  unfold stateAtExpiry stateAtLookup
  rw [h.passed, h.shown]

theorem Clears.objectionTo?_expiry (h : svc.Clears table request s r s₁ s₂) :
    svc.objectionTo? request s r .expiry =
      if r.isExpiredAt (svc.now s₂) then some Reason.expired else none := by
  unfold objectionTo? KeyRecord.isExpiredAt
  rw [h.stateAtExpiry_eq]
  cases r.expiresAt <;> simp

theorem objectionTo?_uses :
    svc.objectionTo? request s r .uses =
      if r.isExhausted then some Reason.usageExceeded else none := by
  unfold objectionTo? KeyRecord.isExhausted
  cases r.uses <;> simp

theorem Stands.stateAtSuccess_eq (h : svc.Stands table request s r s₁ s₂ s₃) :
    svc.stateAtSuccess request s r = s₃ := by
  unfold stateAtSuccess
  rw [h.toClears.stateAtExpiry_eq, h.reported]

theorem Stands.objectionTo?_verified (h : svc.Stands table request s r s₁ s₂ s₃) {s₄ : σ}
    {rejection : Option Rejection}
    (hrun : svc.plugins.run (.verified request r) s₃ = (.ok rejection, s₄)) :
    svc.objectionTo? request s r .verified = rejection.map (·.reason) := by
  unfold objectionTo?
  rw [h.stateAtSuccess_eq, Pipeline.firstRejection?_of_run hrun]

/-- What is first held against a record that is found. -/
theorem Finds.firstObjection?_eq (h : svc.Finds table request s r s₁) :
    svc.firstObjection? table request s =
      (svc.objectionTo? request s r .revocation).or
        ((svc.objectionTo? request s r .recordLoaded).or
          ((svc.objectionTo? request s r .expiry).or
            ((svc.objectionTo? request s r .uses).or (svc.objectionTo? request s r .verified)))) := by
  unfold firstObjection?
  rw [funext (h.objection?_eq)]
  have hbefore : svc.objectionTo? request s r .beforeVerify = none := rfl
  have hlookup : svc.objectionTo? request s r .lookup = none := rfl
  simp only [Stage.all, List.findSome?_cons, List.findSome?_nil, hbefore, hlookup]
  cases svc.objectionTo? request s r .revocation <;>
    cases svc.objectionTo? request s r .recordLoaded <;>
    cases svc.objectionTo? request s r .expiry <;>
    cases svc.objectionTo? request s r .uses <;>
    cases svc.objectionTo? request s r .verified <;> rfl

theorem Clears.firstObjection?_eq (h : svc.Clears table request s r s₁ s₂) :
    svc.firstObjection? table request s =
      (svc.objectionTo? request s r .expiry).or
        ((svc.objectionTo? request s r .uses).or (svc.objectionTo? request s r .verified)) := by
  rw [h.toFinds.firstObjection?_eq, objectionTo?_revocation, h.unrevoked,
    h.toFinds.objectionTo?_recordLoaded h.shown]
  rfl

theorem Stands.firstObjection?_eq (h : svc.Stands table request s r s₁ s₂ s₃) :
    svc.firstObjection? table request s =
      svc.objectionTo? request s r .verified := by
  rw [h.toClears.firstObjection?_eq, h.toClears.objectionTo?_expiry, h.unexpired,
    objectionTo?_uses, h.usable]
  rfl

/-- Whatever a verification answers is what the stages lead to. -/
theorem Course.decides {o : VerifyOutcome} {s' : σ} (h : svc.Course table request s (.ok o) s') :
    svc.Decides table request s o := by
  -- Each way to end shows that the stages before it object to nothing, and what the one at which it ends
  -- has against the request.
  cases h with
  | blocked hfields hrun =>
      have hfirst := Pipeline.firstRejection?_of_run hrun
      have hreached : svc.reached? table request s = none := if_neg (by rw [hfirst]; exact nofun)
      have hbefore : svc.objection? table request s .beforeVerify = some _ :=
        congrArg (Option.map fun rejection : Rejection => rejection.reason) hfirst
      refine decides_invalid (congrArg _ hreached) ?_
      unfold firstObjection? Stage.all
      rw [List.findSome?_cons, hbefore]
  | unknown hadmits hnone =>
      have hreached : svc.reached? table request s = none := hadmits.reached?_eq.trans hnone
      have hlookup : svc.objection? table request s .lookup = some Reason.notFound := if_pos hreached
      refine decides_invalid (congrArg _ hreached) ?_
      unfold firstObjection? Stage.all
      rw [List.findSome?_cons, hadmits.objection?_beforeVerify, List.findSome?_cons, hlookup]
  | revoked hfinds hrevoked =>
      refine decides_invalidFor (hfinds.reached?_eq) ?_
      rw [hfinds.firstObjection?_eq, objectionTo?_revocation, hrevoked]
      rfl
  | refused hfinds hrevoked hrun =>
      refine decides_invalidFor (hfinds.reached?_eq) ?_
      rw [hfinds.firstObjection?_eq, objectionTo?_revocation, hrevoked,
        hfinds.objectionTo?_recordLoaded hrun]
      rfl
  | expired hclears hexpired =>
      refine decides_invalidFor (hclears.reached?_eq) ?_
      rw [hclears.firstObjection?_eq, hclears.objectionTo?_expiry, hexpired]
      rfl
  | exhausted hclears hexpired hexhausted =>
      refine decides_invalidFor (hclears.reached?_eq) ?_
      rw [hclears.firstObjection?_eq, hclears.objectionTo?_expiry, hexpired,
        objectionTo?_uses, hexhausted]
      rfl
  | vetoed hstands hrun =>
      refine decides_invalidFor (hstands.reached?_eq) ?_
      rw [hstands.firstObjection?_eq, hstands.objectionTo?_verified hrun]
      rfl
  | accepted hstands hrun =>
      refine decides_accepted (hstands.reached?_eq) ?_
      rw [hstands.firstObjection?_eq, hstands.objectionTo?_verified hrun]
      rfl

/-- A verification with all its fields answers if the plugins do. -/
theorem Course.exists_ok {ready : σ → Prop} (hplugins : svc.plugins.AnswersWhile ready)
    (htrack : ∀ e s, ready s → ready (svc.track e s).2) (hs : ready s)
    {result : Except (Failure Error) VerifyOutcome} {s' : σ}
    (h : svc.Course table request s result s') (hfields : svc.missing? request = none) :
    ∃ o, result = .ok o := by
  have hno : ∀ {hook s s' e}, ready s → svc.plugins.run hook s = (.error e, s') → False := by
    intro hook s s' e hs hrun
    obtain ⟨⟨rejection, he⟩, -⟩ := hplugins.run hrun hs
    cases he
  cases h with
  | missing h =>
      rw [hfields] at h
      cases h
  | failedBefore _ hrun => exact (hno hs hrun).elim
  | failedShown hfinds _ hrun => exact (hno (hplugins.run hfinds.passed hs).2 hrun).elim
  | @failedVerified r _ s₁ s₂ s₃ _ hstands hrun =>
      have hs₁ := (hplugins.run hstands.passed hs).2
      have hs₂ := (hplugins.run hstands.shown hs₁).2
      have hs₃ : ready s₃ := hstands.reported ▸ htrack _ s₂ hs₂
      exact (hno hs₃ hrun).elim
  | _ => exact ⟨_, rfl⟩

/-- The key that is looked up is the one whose digest is the presented key's, whatever the plugins have
done before, as long as they leave the index of the table in order. -/
theorem reached?_eq_some_iff {r : KeyRecord}
    (hbefore : ∀ p ∈ svc.plugins, (p.answer (.beforeVerify request)).Within table.get StaysConsistent)
    (hs : (table.get s).Consistent) :
    svc.reached? table request s = some r ↔
      svc.objection? table request s .beforeVerify = none ∧
      (table.get (svc.stateAtLookup request s)).records.get? r.id = some r ∧
      r.digest = svc.config.hasher.hash request.key := by
  have hconsistent : (table.get (svc.stateAtLookup request s)).Consistent :=
    Pipeline.run_within hbefore s hs
  unfold reached?
  rw [Option.ite_none_right_eq_some, hconsistent.lookup_eq_some_iff]
  refine and_congr_left fun _ => ?_
  exact Option.map_eq_none_iff.symm

/-- A verification is decided by the first stage that has something against it. The required fields come
before all stages, and of those that are missing the first in the order of the plugins is named. The
plugins may decide what they like, fail, and change all state but the index of the keys, as long as they
answer. -/
theorem verify_decided_by_first_stage (h : svc.OnTable table)
    {ready : σ → Prop} (hplugins : svc.plugins.AnswersWhile ready)
    (htrack : ∀ e s, ready s → ready (svc.track e s).2) (hready : ready s)
    (hbefore : ∀ p ∈ svc.plugins, (p.answer (.beforeVerify request)).Within table.get StaysConsistent)
    (hs : (table.get s).Consistent) :
    (∀ plugin field, svc.missing? request = some (plugin, field) →
      svc.verify request s = (.error (.error (missingField plugin field)), s) ∧
      (missingField plugin field).code = .validationFailed) ∧
    (svc.missing? request = none → ∃ o, (svc.verify request s).1 = .ok o ∧
      svc.Decides table request s o) ∧
    ∀ r, svc.reached? table request s = some r ↔
      svc.objection? table request s .beforeVerify = none ∧
      (table.get (svc.stateAtLookup request s)).records.get? r.id = some r ∧
      r.digest = svc.config.hasher.hash request.key := by
  refine ⟨fun plugin field hmissing => ⟨?_, rfl⟩, fun hfields => ?_, fun r =>
    reached?_eq_some_iff hbefore hs⟩
  · unfold verify
    rw [bind_error (checkFields_of_missing? hmissing s)]
  · have hcourse := h.verify_course request s
    obtain ⟨o, ho⟩ := hcourse.exists_ok hplugins htrack hready hfields
    rw [ho] at hcourse
    exact ⟨o, ho, hcourse.decides⟩

/-- A key that is both expired and used up is reported as expired, and a plugin that fails wherever it is
asked has no say in it. -/
theorem expired_before_used_up :
    let faulty : Plugin World := { name := "faulty", answer := fun _ => .fail (.hookFailed "faulty" "") }
    let svc := World.service [faulty] World.sameKey
    let issued := (svc.create { expiresAt := some .epoch, uses := some 0 } {}).2
    ∃ o, (svc.verify { key := "k" } issued).1 = .ok o ∧
      svc.Decides World.keysPart { key := "k" } issued o ∧ o.reason = some Reason.expired ∧
      o.keyId = some World.firstId := by
  intro faulty svc issued
  have h := World.service_onTable [faulty] World.sameKey
  have hplugins : svc.plugins.AnswersWhile fun _ => True := by
    refine ⟨fun p hp hook s _ => ?_, fun _ _ _ _ h => h⟩
    rw [List.mem_singleton.1 hp]
    exact nofun
  have hkeeps : ∀ p ∈ svc.plugins, ∀ hook, (p.answer hook).Keeps World.keysPart.get := by
    intro p hp hook s
    rw [List.mem_singleton.1 hp]
    rfl
  have hissued : (World.keysPart.get issued).Consistent :=
    (h.create_served (fun p hp hook => (hkeeps p hp hook).within) _ _).consistent consistent_empty
  obtain ⟨o, ho, hdecides⟩ := (verify_decided_by_first_stage h hplugins
    (fun _ _ h => h) trivial (fun p hp => (hkeeps p hp _).within) hissued).2.1 rfl
  have houtcome : (svc.verify { key := "k" } issued).1 = .ok (.invalidFor _ Reason.expired) := rfl
  obtain rfl := Except.ok.inj (ho.symm.trans houtcome)
  exact ⟨_, ho, hdecides, rfl, rfl⟩

end Service

end Latchkey
