import Latchkey.Proofs.Plugin.Pipeline
import Latchkey.Service.Verify
/-!
# What a verification does

A verification does to the state what its plugins, its look-up, the removal of an expired record and
the report of an event do to it, one after another. It is valid only if it comes to a record that the
plugins for loaded records let pass, and then it names that record.
-/

namespace Latchkey.Service

open Act

variable {σ τ : Type} {svc : Service σ} {request : VerifyRequest} {r : KeyRecord}

theorem clock_apply (svc : Service σ) (s : σ) : svc.clock s = (.ok (svc.now s), s) := rfl

theorem access_ok {α : Type} {kind : StoreAccess} {purpose : String} {x : Act σ Error α} {s s' : σ}
    {a : α} (h : x s = (.ok a, s')) : access kind purpose x s = (.ok a, s') :=
  mapError_ok h

theorem access_error {α : Type} {kind : StoreAccess} {purpose : String} {x : Act σ Error α} {s s' : σ}
    {e : Error} (h : x s = (.error (.error e), s')) :
    access kind purpose x s = (.error (.error (.keystore kind purpose (some e))), s') :=
  mapError_error h

theorem access_within {α : Type} {view : σ → τ} {R : τ → τ → Prop} {x : Act σ Error α}
    (kind : StoreAccess) (purpose : String) (h : x.Within view R) :
    (access kind purpose x).Within view R :=
  h.mapError _

/-- The parts of a verification all do to a view what `R` allows. -/
structure VerifyWithin (svc : Service σ) (view : σ → τ) (R : τ → τ → Prop) : Prop where
  find : ∀ d, (svc.store.findByDigest d).Within view R
  remove : ∀ id, (svc.store.remove id).Within view R
  track : ∀ e, (svc.sink.track e).Within view R

theorem VerifyWithin.coarser {υ : Type} {view : σ → τ} (h : svc.VerifyWithin view Eq) (g : τ → υ) :
    svc.VerifyWithin (fun s => g (view s)) Eq where
  find d := Keeps.coarser (h.find d) g
  remove id := Keeps.coarser (h.remove id) g
  track e := Keeps.coarser (h.track e) g

section Within

variable {view : σ → τ} {R : τ → τ → Prop} [IsPreorder τ R] (h : svc.VerifyWithin view R)

theorem checkFields_within (request : VerifyRequest) : (svc.checkFields request).Within view R := by
  unfold checkFields
  split
  · exact Within.fail _
  · exact Within.pure ()

include h

omit [IsPreorder τ R] in
theorem VerifyWithin.lookup (key : String) : (svc.lookup key).Within view R :=
  access_within _ _ (h.find _)

theorem VerifyWithin.dropExpired (r : KeyRecord) : (svc.dropExpired r).Within view R := by
  unfold Service.dropExpired
  split
  · refine Within.bind (h.remove r.id).attempt fun removed => ?_
    cases removed with
    | ok _ => exact (h.track _).ignore
    | error _ => exact Within.pure ()
  · exact Within.pure ()

theorem VerifyWithin.verifyStanding
    (hrun : (svc.plugins.run (.verified request r)).Within view R) :
    (svc.verifyStanding request r).Within view R := by
  refine Within.bind (Within.read _) fun now => ?_
  split
  · exact Within.bind (h.dropExpired r) fun _ => Within.pure _
  · split
    · exact Within.pure _
    · refine Within.bind (h.track _).ignore fun _ => Within.bind hrun fun rejection => ?_
      cases rejection with
      | some _ => exact Within.pure _
      | none => exact Within.pure _

theorem VerifyWithin.verify (hrun : ∀ hook, (svc.plugins.run hook).Within view R) :
    (svc.verify request).Within view R := by
  refine Within.bind (checkFields_within request) fun _ => Within.bind (hrun _) fun rejection => ?_
  cases rejection with
  | some _ => exact Within.pure _
  | none =>
      refine Within.bind (h.lookup _) fun found => ?_
      cases found with
      | none => exact Within.pure _
      | some r =>
          dsimp only
          unfold verifyRecord
          split
          · exact Within.pure _
          · refine Within.bind (hrun _) fun rejection => ?_
            cases rejection with
            | some _ => exact Within.pure _
            | none => exact h.verifyStanding (hrun _)

end Within

/-- The verification comes as far as to load the record. -/
def Loads (svc : Service σ) (request : VerifyRequest) (s : σ) (r : KeyRecord) : Prop :=
  ∃ s₁ s₂, svc.plugins.run (.beforeVerify request) s = (.ok none, s₁) ∧
    svc.lookup request.key s₁ = (.ok (some r), s₂)

theorem verifyStanding_keyId :
    (svc.verifyStanding request r).Ensures fun o => o.keyId = some r.id := by
  refine Ensures.bind fun now => ?_
  split
  · exact Ensures.bind fun _ => Ensures.pure rfl
  · split
    · exact Ensures.pure rfl
    · refine Ensures.bind fun _ => Ensures.bind fun rejection => ?_
      cases rejection with
      | some _ => exact Ensures.pure rfl
      | none => exact Ensures.pure rfl

/-- A verification that is valid has loaded a record and passed the plugins for it. -/
theorem verify_cases (request : VerifyRequest) {view : σ → τ} (h : svc.VerifyWithin view Eq)
    (hrun : ∀ hook, hook.phase ≠ .recordLoaded → (svc.plugins.run hook).Keeps view) (s : σ) :
    (view (svc.verify request s).2 = view s ∧
        ∀ o, (svc.verify request s).1 = .ok o → o.valid = false) ∨
      ∃ r s₁, svc.Loads request s r ∧ view s₁ = view s ∧
        view (svc.verify request s).2 = view (svc.plugins.run (.recordLoaded request r) s₁).2 ∧
        ∀ o, (svc.verify request s).1 = .ok o → o.valid = true →
          o.keyId = some r.id ∧ (svc.plugins.run (.recordLoaded request r) s₁).1 = .ok none := by
  have hfields : (svc.checkFields request).Keeps view := checkFields_within request
  have hbefore := hrun (.beforeVerify request) fun hphase => by cases hphase
  unfold Service.verify
  rcases hfields.bind_cases s with ⟨e, s', he, hs'⟩ | ⟨_, s₁, hcheck, he, hs₁⟩
  · rw [he]
    exact .inl ⟨hs', nofun⟩
  have hsame : s₁ = s := by
    have hunchanged : (svc.checkFields request).Keeps id := checkFields_within request
    have hstate := hunchanged s
    rw [hcheck] at hstate
    exact hstate.symm
  rw [hsame] at he
  rw [he]
  rcases hbefore.bind_cases s with ⟨e, s', he, hs'⟩ | ⟨rejection, s₂, hpassed, he, hs₂⟩
  · rw [he]
    exact .inl ⟨hs', nofun⟩
  rw [he]
  cases rejection with
  | some rejection =>
      refine .inl ⟨hs₂, ?_⟩
      rintro o ⟨⟩
      rfl
  | none =>
      dsimp only
      have hlookup : (svc.lookup request.key).Keeps view := h.lookup request.key
      rcases hlookup.bind_cases s₂ with
        ⟨e, s', he, hs'⟩ | ⟨found, s₃, hfound, he, hs₃⟩
      · rw [he]
        exact .inl ⟨hs'.trans hs₂, nofun⟩
      rw [he]
      cases found with
      | none =>
          refine .inl ⟨hs₃.trans hs₂, ?_⟩
          rintro o ⟨⟩
          rfl
      | some r =>
          dsimp only
          unfold verifyRecord
          split
          · refine .inl ⟨hs₃.trans hs₂, ?_⟩
            rintro o ⟨⟩
            rfl
          · refine .inr ⟨r, s₃, ⟨s₂, s₃, hpassed, hfound⟩, hs₃.trans hs₂, ?_⟩
            have hstanding := h.verifyStanding (r := r)
              (hrun (.verified request r) fun hphase => by cases hphase)
            rcases hloaded : svc.plugins.run (.recordLoaded request r) s₃ with
              ⟨e | rejection, s₄⟩
            · rw [bind_error hloaded]
              exact ⟨rfl, nofun⟩
            · rw [bind_ok hloaded]
              cases rejection with
              | some rejection =>
                  refine ⟨rfl, ?_⟩
                  rintro o ⟨⟩ ⟨⟩
              | none =>
                  refine ⟨(hstanding s₄).symm, fun o ho _ => ⟨?_, rfl⟩⟩
                  exact verifyStanding_keyId s₄ o _ (Prod.ext ho rfl)

end Latchkey.Service
