import Latchkey.Key.Generator
import Latchkey.Proofs.Action
/-!
# The bytes of a key

A key of a kind that is not the caller's own is its label with a body made of bytes drawn at once. An empty
body needs no bytes, and then none are drawn.
-/

namespace Latchkey

open Act

variable {σ : Type} {source : Nat → Act σ Error Bytes} {s s' : σ}

/-- The error of a source that gives no bytes is passed on. -/
theorem Recipe.run_draw (source : Nat → Act σ Error Bytes) (count : Nat) (f : Bytes → String) :
    (Recipe.draw count fun bytes => .done (bytes.map f)).run source =
      source count >>= fun bytes => pure (f bytes) := by
  funext s
  rw [Recipe.run]
  rcases hdraw : source count s with ⟨(e | -) | bytes, s'⟩
  · rw [bind_ok (attempt_error hdraw), bind_error hdraw]
    rfl
  · rw [bind_error (attempt_outOfTime hdraw), bind_error hdraw]
  · rw [bind_ok (attempt_ok hdraw), bind_ok hdraw]
    rfl

namespace Generator

variable {g : Generator} {label key : String}

theorem generateWith_eq (hkind : ∀ recipe, g.kind ≠ .custom recipe) (label : String)
    (source : Nat → Act σ Error Bytes) :
    g.generateWith label source =
      if g.kind.byteCount = 0 then pure (label ++ g.kind.body [])
      else source g.kind.byteCount >>= fun bytes => pure (label ++ g.kind.body bytes) := by
  have hrecipe : g.recipe label =
      if g.kind.byteCount = 0 then .done (.ok (label ++ g.kind.body []))
      else .draw g.kind.byteCount fun bytes =>
        .done (bytes.map fun bytes => label ++ g.kind.body bytes) := by
    rw [recipe]
    split
    · rename_i recipe hcustom
      exact absurd hcustom (hkind recipe)
    · rfl
  rw [generateWith, hrecipe]
  split
  · rfl
  · exact Recipe.run_draw source g.kind.byteCount _

theorem generateWith_ok (hkind : ∀ recipe, g.kind ≠ .custom recipe)
    (h : g.generateWith label source s = (.ok key, s')) :
    ∃ bytes, key = label ++ g.kind.body bytes ∧
      (g.kind.byteCount = 0 ∧ bytes = [] ∨ source g.kind.byteCount s = (.ok bytes, s')) := by
  rw [generateWith_eq hkind] at h
  split at h
  · rename_i hnone
    cases h
    exact ⟨[], rfl, .inl ⟨hnone, rfl⟩⟩
  · rcases hdraw : source g.kind.byteCount s with ⟨e | bytes, s₁⟩
    · rw [bind_error hdraw] at h
      cases h
    · rw [bind_ok hdraw] at h
      cases h
      exact ⟨bytes, rfl, .inr rfl⟩

/-- A source that never fails lets every key be made. -/
theorem exists_generateWith_ok (hkind : ∀ recipe, g.kind ≠ .custom recipe)
    (hsource : ∀ n s, ∃ bytes s', source n s = (.ok bytes, s')) (label : String) (s : σ) :
    ∃ key s', g.generateWith label source s = (.ok key, s') := by
  rw [generateWith_eq hkind]
  split
  · exact ⟨_, s, rfl⟩
  · obtain ⟨bytes, s', hdraw⟩ := hsource g.kind.byteCount s
    exact ⟨_, s', bind_ok hdraw⟩

end Generator

end Latchkey
