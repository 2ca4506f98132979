import Latchkey.Proofs.Plugin.Turns
import Latchkey.Proofs.Service.Frame
/-!
# The course of a verification

How far a verification comes before it is decided, for a service whose keys lie in a table: the points
that it passes, each with the state there, and the ways in which it ends. `OnTable.verify_course` is the
only place that follows the code of a verification; what is said of verifications elsewhere goes by cases
on the `Course`.
-/

namespace Latchkey.Service

open Act KeyTable

variable {σ : Type}

/-- The first required field that a request lacks, with the plugin that asks for it. -/
def missing? (svc : Service σ) (request : VerifyRequest) : Option (String × VerifyField) :=
  svc.plugins.demands.find? fun d => !request.hasField d.2

/-- Nothing before the look-up stands against the request, and `s₁` is the state then. -/
structure Admits (svc : Service σ) (request : VerifyRequest) (s s₁ : σ) : Prop where
  fields : svc.missing? request = none
  passed : svc.plugins.run (.beforeVerify request) s = (.ok none, s₁)

/-- The presented key leads to a record. -/
structure Finds (svc : Service σ) (table : Lens σ KeyTable) (request : VerifyRequest) (s : σ)
    (r : KeyRecord) (s₁ : σ) : Prop extends svc.Admits request s s₁ where
  found : (table.get s₁).lookup (svc.config.hasher.hash request.key) = some r

/-- The record is not revoked, and the plugins that it is shown to let it pass. -/
structure Clears (svc : Service σ) (table : Lens σ KeyTable) (request : VerifyRequest) (s : σ)
    (r : KeyRecord) (s₁ s₂ : σ) : Prop extends svc.Finds table request s r s₁ where
  unrevoked : r.isRevoked = false
  shown : svc.plugins.run (.recordLoaded request r) s₁ = (.ok none, s₂)

/-- The record has neither expired nor is it used up, and its use has been reported. -/
structure Stands (svc : Service σ) (table : Lens σ KeyTable) (request : VerifyRequest) (s : σ)
    (r : KeyRecord) (s₁ s₂ s₃ : σ) : Prop extends svc.Clears table request s r s₁ s₂ where
  unexpired : r.isExpiredAt (svc.now s₂) = false
  usable : r.isExhausted = false
  reported : s₃ = (svc.track (.verified r.id r.owner request.partition) s₂).2

/-- The ways in which a verification ends, with its answer and the state that it leaves. -/
inductive Course (svc : Service σ) (table : Lens σ KeyTable) (request : VerifyRequest) (s : σ) :
    Except (Failure Error) VerifyOutcome → σ → Prop where
  | missing {plugin : String} {field : VerifyField}
    (h : svc.missing? request = some (plugin, field)) :
    Course svc table request s (.error (.error (missingField plugin field))) s
  | failedBefore {e : Failure Error} {s₁ : σ} (hfields : svc.missing? request = none)
    (h : svc.plugins.run (.beforeVerify request) s = (.error e, s₁)) :
    Course svc table request s (.error e) s₁
  | blocked {rejection : Rejection} {s₁ : σ} (hfields : svc.missing? request = none)
    (h : svc.plugins.run (.beforeVerify request) s = (.ok (some rejection), s₁)) :
    Course svc table request s (.ok (.invalid rejection.reason)) s₁
  | unknown {s₁ : σ} (hadmits : svc.Admits request s s₁)
    (h : (table.get s₁).lookup (svc.config.hasher.hash request.key) = none) :
    Course svc table request s (.ok (.invalid Reason.notFound)) s₁
  | revoked {r : KeyRecord} {s₁ : σ} (hfinds : svc.Finds table request s r s₁)
    (h : r.isRevoked = true) :
    Course svc table request s (.ok (.invalidFor r Reason.revoked)) s₁
  | failedShown {r : KeyRecord} {e : Failure Error} {s₁ s₂ : σ}
    (hfinds : svc.Finds table request s r s₁) (hrevoked : r.isRevoked = false)
    (h : svc.plugins.run (.recordLoaded request r) s₁ = (.error e, s₂)) :
    Course svc table request s (.error e) s₂
  | refused {r : KeyRecord} {rejection : Rejection} {s₁ s₂ : σ}
    (hfinds : svc.Finds table request s r s₁) (hrevoked : r.isRevoked = false)
    (h : svc.plugins.run (.recordLoaded request r) s₁ = (.ok (some rejection), s₂)) :
    Course svc table request s (.ok (.invalidFor r rejection.reason)) s₂
  | expired {r : KeyRecord} {s₁ s₂ : σ} (hclears : svc.Clears table request s r s₁ s₂)
    (h : r.isExpiredAt (svc.now s₂) = true) :
    Course svc table request s (.ok (.invalidFor r Reason.expired)) (svc.dropExpired r s₂).2
  | exhausted {r : KeyRecord} {s₁ s₂ : σ} (hclears : svc.Clears table request s r s₁ s₂)
    (hexpired : r.isExpiredAt (svc.now s₂) = false) (h : r.isExhausted = true) :
    Course svc table request s (.ok (.invalidFor r Reason.usageExceeded)) s₂
  | failedVerified {r : KeyRecord} {e : Failure Error} {s₁ s₂ s₃ s₄ : σ}
    (hstands : svc.Stands table request s r s₁ s₂ s₃)
    (h : svc.plugins.run (.verified request r) s₃ = (.error e, s₄)) :
    Course svc table request s (.error e) s₄
  | vetoed {r : KeyRecord} {rejection : Rejection} {s₁ s₂ s₃ s₄ : σ}
    (hstands : svc.Stands table request s r s₁ s₂ s₃)
    (h : svc.plugins.run (.verified request r) s₃ = (.ok (some rejection), s₄)) :
    Course svc table request s (.ok (.invalidFor r rejection.reason)) s₄
  | accepted {r : KeyRecord} {s₁ s₂ s₃ s₄ : σ} (hstands : svc.Stands table request s r s₁ s₂ s₃)
    (h : svc.plugins.run (.verified request r) s₃ = (.ok none, s₄)) :
    Course svc table request s (.ok (.accepted r request.includeMetadata)) s₄

variable {svc : Service σ} {table : Lens σ KeyTable}

theorem checkFields_of_missing? {request : VerifyRequest} {plugin : String} {field : VerifyField}
    (h : svc.missing? request = some (plugin, field)) (s : σ) :
    svc.checkFields request s = (.error (.error (missingField plugin field)), s) := by
  unfold checkFields
  rw [Pipeline.find?_requiredFields fun field => !request.hasField field]
  unfold missing? at h
  rw [h]
  rfl

theorem checkFields_of_missing?_eq_none {request : VerifyRequest}
    (h : svc.missing? request = none) (s : σ) : svc.checkFields request s = (.ok (), s) := by
  unfold checkFields
  rw [Pipeline.find?_requiredFields fun field => !request.hasField field]
  unfold missing? at h
  rw [h]
  rfl

namespace OnTable

variable (h : svc.OnTable table)

include h

/-- The removal of an expired record cannot fail in a table. -/
theorem dropExpired_apply (r : KeyRecord) (s : σ) :
    svc.dropExpired r s = (.ok (), (svc.dropExpired r s).2) ∧
      table.get (svc.dropExpired r s).2 =
        if svc.config.autoDeleteExpired then (Write.remove r.id).apply (table.get s)
        else table.get s := by
  unfold dropExpired
  split
  · obtain ⟨removed, hremoved⟩ := h.remove_attempt r.id s
    rw [bind_ok hremoved]
    obtain ⟨s', htrack, hs'⟩ := h.track_apply (.removed r.id false) (svc.store.remove r.id s).2
    dsimp only
    rw [htrack]
    exact ⟨rfl, hs'.trans (h.table_of_remove r.id s)⟩
  · exact ⟨rfl, rfl⟩

theorem verifyStanding_course {request : VerifyRequest} {s s₁ s₂ : σ} {r : KeyRecord}
    (hclears : svc.Clears table request s r s₁ s₂) :
    svc.Course table request s (svc.verifyStanding request r s₂).1
      (svc.verifyStanding request r s₂).2 := by
  unfold verifyStanding
  rw [bind_ok (svc.clock_apply s₂)]
  split
  · rename_i hexpired
    rw [bind_ok (h.dropExpired_apply r s₂).1]
    exact .expired hclears hexpired
  · rename_i hexpired
    have hexpired := Bool.eq_false_iff.2 hexpired
    split
    · rename_i hexhausted
      exact .exhausted hclears hexpired hexhausted
    · rename_i hexhausted
      have hstands : svc.Stands table request s r s₁ s₂
          (svc.track (.verified r.id r.owner request.partition) s₂).2 :=
        ⟨hclears, hexpired, Bool.eq_false_iff.2 hexhausted, rfl⟩
      obtain ⟨s₃, htrack, -⟩ := h.track_apply (.verified r.id r.owner request.partition) s₂
      rw [htrack] at hstands
      rw [bind_ok htrack]
      rcases hrun : svc.plugins.run (.verified request r) s₃ with ⟨e | rejection, s₄⟩
      · rw [bind_error hrun]
        exact .failedVerified hstands hrun
      · rw [bind_ok hrun]
        cases rejection with
        | none => exact .accepted hstands hrun
        | some rejection => exact .vetoed hstands hrun

theorem verifyRecord_course {request : VerifyRequest} {s s₁ : σ} {r : KeyRecord}
    (hfinds : svc.Finds table request s r s₁) :
    svc.Course table request s (svc.verifyRecord request r s₁).1
      (svc.verifyRecord request r s₁).2 := by
  unfold verifyRecord
  split
  · rename_i hrevoked
    exact .revoked hfinds hrevoked
  · rename_i hrevoked
    have hrevoked := Bool.eq_false_iff.2 hrevoked
    rcases hrun : svc.plugins.run (.recordLoaded request r) s₁ with ⟨e | rejection, s₂⟩
    · rw [bind_error hrun]
      exact .failedShown hfinds hrevoked hrun
    · rw [bind_ok hrun]
      cases rejection with
      | none => exact h.verifyStanding_course ⟨hfinds, hrevoked, hrun⟩
      | some rejection => exact .refused hfinds hrevoked hrun

theorem verify_course (request : VerifyRequest) (s : σ) :
    svc.Course table request s (svc.verify request s).1 (svc.verify request s).2 := by
  unfold verify
  cases hfields : svc.missing? request with
  | some d =>
      obtain ⟨plugin, field⟩ := d
      rw [bind_error (checkFields_of_missing? hfields s)]
      exact .missing hfields
  | none =>
      rw [bind_ok (checkFields_of_missing?_eq_none hfields s)]
      rcases hrun : svc.plugins.run (.beforeVerify request) s with ⟨e | rejection, s₁⟩
      · rw [bind_error hrun]
        exact .failedBefore hfields hrun
      · rw [bind_ok hrun]
        cases rejection with
        | some rejection => exact .blocked hfields hrun
        | none =>
            dsimp only
            rw [bind_ok (h.lookup_apply request.key s₁)]
            cases hfound : (table.get s₁).lookup (svc.config.hasher.hash request.key) with
            | none => exact .unknown ⟨hfields, hrun⟩ hfound
            | some r => exact h.verifyRecord_course ⟨⟨hfields, hrun⟩, hfound⟩

end OnTable

end Latchkey.Service
