import Mathlib.Order.Defs.Unbundled
import Latchkey.Limit.Window
import Latchkey.Proofs.Time.Instant
/-!
# Windows over time

Where no request counts, a window only ends, and when it has ended it may be dropped. As long as one
window is open the requests that were let pass are among those that it has counted; `Window.Bounds` says
this up to an instant that the window does not end before, and every step of the rule preserves it.
-/

namespace Latchkey

theorem WindowLimit.length_nonneg (l : WindowLimit) : 0 ≤ l.length.ns := by
  unfold WindowLimit.length Duration.ofMillis
  dsimp only
  omega

namespace Window

variable {w w' : Option Window} {now later : Instant} {l : WindowLimit}

theorem live?_live? (h : now ≤ later) : live? (live? w now) later = live? w later := by
  cases w with
  | none => rfl
  | some w =>
      have hlive : later < w.resetAt → now < w.resetAt := fun hlater => Instant.lt_of_le_of_lt h hlater
      simp only [live?, Option.filter]
      grind

/-- What may become of a window by `now` without a request that it counts: when it has ended it may be
dropped. -/
def LeftAlone (now : Instant) (w w' : Option Window) : Prop :=
  w' = w ∨ w' = none ∧ live? w now = none

theorem leftAlone_live? : LeftAlone now w (live? w now) := by
  cases h : live? w now with
  | none => exact .inr ⟨rfl, h⟩
  | some v => exact .inl (Option.filter_eq_some_iff.1 h).1.symm

instance (now : Instant) : IsPreorder (Option Window) (LeftAlone now) where
  refl _ := .inl rfl
  trans w w' w'' h h' := by
    rcases h with rfl | ⟨rfl, hw⟩
    · exact h'
    · rcases h' with rfl | ⟨rfl, -⟩
      · exact .inr ⟨rfl, hw⟩
      · exact .inr ⟨rfl, hw⟩

/-- A window that has been left alone is open exactly if it would be anyway. -/
theorem LeftAlone.live?_eq (h : LeftAlone now w w') (hlater : now ≤ later) :
    live? w' later = live? w later := by
  rcases h with rfl | ⟨rfl, hw⟩
  · rfl
  · rw [← live?_live? (w := w) hlater, hw]

theorem LeftAlone.mono (h : LeftAlone now w w') (hlater : now ≤ later) : LeftAlone later w w' := by
  rcases h with rfl | ⟨rfl, hw⟩
  · exact .inl rfl
  · refine .inr ⟨rfl, ?_⟩
    rw [← live?_live? hlater, hw]
    rfl

/-- What may become of the time and a window where no request counts in it. -/
def Idle (p q : Instant × Option Window) : Prop := p.1 ≤ q.1 ∧ LeftAlone q.1 p.2 q.2

instance : IsPreorder (Instant × Option Window) Idle where
  refl p := ⟨Instant.le_refl p.1, refl_of _ _⟩
  trans _ _ _ h h' :=
    ⟨Instant.le_trans h.1 h'.1, trans_of _ (h.2.mono h'.1) h'.2⟩

/-! ### Counting -/

theorem toNat_bump (n : UInt64) : (bump n).toNat = min (n.toNat + 1) (UInt64.size - 1) := by
  have hsize : UInt64.size = 18446744073709551616 := rfl
  unfold bump
  split
  · rename_i h
    rw [h]
    decide
  · rename_i h
    have hn : n.toNat ≠ UInt64.size - 1 := fun he => h (UInt64.toNat_inj.1 (he.trans (by decide)))
    have hlt := n.toNat_lt
    rw [UInt64.toNat_add]
    simp only [UInt64.toNat_one]
    omega

/-- Until `ends`, of the `n` requests let pass all have been counted in the open window, which does not
end before. -/
def Bounds (ends : Instant) (n : Nat) (p : Instant × Option Window) : Prop :=
  ends ≤ p.1 ∨ n = 0 ∧ live? p.2 p.1 = none ∨
    ∃ w, live? p.2 p.1 = some w ∧ ends ≤ w.resetAt ∧ n ≤ w.count.toNat

variable {ends : Instant} {n : Nat} {p q : Instant × Option Window}

theorem Bounds.idle (h : Bounds ends n p) (hpq : Idle p q) : Bounds ends n q := by
  have hlive : live? q.2 q.1 = live? (live? p.2 p.1) q.1 :=
    (hpq.2.live?_eq (Instant.le_refl _)).trans (live?_live? hpq.1).symm
  unfold Bounds
  rw [hlive]
  rcases h with hends | ⟨hn, hnone⟩ | ⟨w, hw, hends, hn⟩
  · exact .inl (Instant.le_trans hends hpq.1)
  · rw [hnone]
    exact .inr (.inl ⟨hn, rfl⟩)
  · rw [hw]
    by_cases hopen : q.1 < w.resetAt
    · exact .inr (.inr ⟨w, Option.filter_eq_some_iff.2 ⟨rfl, decide_eq_true hopen⟩, hends, hn⟩)
    · exact .inl (Instant.le_trans hends (Instant.not_lt.1 hopen))

theorem Bounds.le_count_next (h : Bounds ends n (now, w)) (hbefore : now < ends) :
    min (n + 1) (UInt64.size - 1) ≤ (next w now l).count.toNat := by
  unfold next
  rcases h with hpast | ⟨rfl, hnone⟩ | ⟨v, hv, -, hn⟩
  · exact absurd hpast (Instant.not_le.2 hbefore)
  · rw [hnone]
    exact Nat.min_le_left _ _
  · rw [hv]
    change _ ≤ (bump v.count).toNat
    rw [toNat_bump]
    omega

theorem Bounds.le_resetAt_next (h : Bounds ends n (now, w)) (hbefore : now < ends)
    (hends : ends ≤ now.later l.length) : ends ≤ (next w now l).resetAt := by
  unfold next
  rcases h with hpast | ⟨rfl, hnone⟩ | ⟨v, hv, hreset, -⟩
  · exact absurd hpast (Instant.not_le.2 hbefore)
  · rw [hnone]
    exact hends
  · rw [hv]
    exact hreset

/-- The step of the rule bounds any number that is no more than it has counted. -/
theorem Bounds.counted (h : Bounds ends n (now, w)) (hends : ends ≤ now.later l.length) {m : Nat}
    (hm : now < ends → m ≤ (next w now l).count.toNat) : Bounds ends m (now, some (next w now l)) := by
  by_cases hbefore : now < ends
  · have hreset := h.le_resetAt_next hbefore hends
    have hopen : now < (next w now l).resetAt := Instant.lt_of_lt_of_le hbefore hreset
    exact .inr (.inr ⟨_, Option.filter_eq_some_iff.2 ⟨rfl, decide_eq_true hopen⟩, hreset, hm hbefore⟩)
  · exact .inl (Instant.not_lt.1 hbefore)

end Window

end Latchkey
