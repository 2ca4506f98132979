import Latchkey.Proofs.Limit.Window
/-!
# What looking at a window foretells

Looking at a window counts nothing, and it foretells what the next request will be told: whether it
passes, when the window ends, and that one request less is left if it does. The count stops at the
largest number, and there the two part: a limit that is as large lets every request pass, but looking at
a window that has counted so many says that none will.
-/

namespace Latchkey

theorem toNat_leftOver (n m : UInt64) : (leftOver n m).toNat = n.toNat - m.toNat := by
  unfold leftOver
  split
  · rename_i h
    exact UInt64.toNat_sub_of_le n m h
  · rename_i h
    have hlt : n.toNat < m.toNat := UInt64.lt_iff_toNat_lt.1 (UInt64.not_le.1 h)
    rw [UInt64.toNat_zero]
    omega

/-- The most requests that a window can count. -/
def mostCounted : UInt64 := UInt64.ofNat (UInt64.size - 1)

theorem eq_mostCounted_iff {n : UInt64} : n = mostCounted ↔ n.toNat = UInt64.size - 1 := by
  rw [← UInt64.toNat_inj]
  exact Iff.rfl

/-- What is said before a request agrees with what the request is told. -/
structure LimitResult.Foretells (before told : LimitResult) : Prop where
  success : before.success = told.success
  resetAt : before.resetAt = told.resetAt
  remaining_of_passed : told.success = true → before.remaining.toNat = told.remaining.toNat + 1
  remaining_of_denied : told.success = false → before.remaining = 0 ∧ told.remaining = 0

namespace Window

variable {w : Option Window} {now : Instant} {l : WindowLimit}

/-- The open window can count no further, and the limit is not below what it has counted. -/
def Saturated (w : Option Window) (now : Instant) (l : WindowLimit) : Prop :=
  l.limit = mostCounted ∧ ∃ v, live? w now = some v ∧ v.count = mostCounted

theorem foretells_of_bump {c c' : UInt64} (hbump : c'.toNat = min (c.toNat + 1) (UInt64.size - 1))
    (hopen : ¬(l.limit = mostCounted ∧ c = mostCounted)) (ends : Instant) :
    LimitResult.Foretells ⟨c < l.limit, leftOver l.limit c, ends⟩
      ⟨c' ≤ l.limit, leftOver l.limit c', ends⟩ := by
  have hlimit := l.limit.toNat_lt
  have hcount := c.toNat_lt
  have hsize : UInt64.size = 18446744073709551616 := rfl
  rw [eq_mostCounted_iff, eq_mostCounted_iff] at hopen
  have hagree : c.toNat < l.limit.toNat ↔ c'.toNat ≤ l.limit.toNat := by omega
  constructor
  · exact decide_eq_decide.2 (UInt64.lt_iff_toNat_lt.trans (hagree.trans UInt64.le_iff_toNat_le.symm))
  · rfl
  · intro hpassed
    have hle := UInt64.le_iff_toNat_le.1 (of_decide_eq_true hpassed)
    simp only [toNat_leftOver]
    omega
  · intro hdenied
    have hlt := mt UInt64.le_iff_toNat_le.2 (of_decide_eq_false hdenied)
    constructor <;> rw [← UInt64.toNat_inj, toNat_leftOver, UInt64.toNat_zero] <;> omega

theorem peek_of_live? {v : Window} (h : live? w now = some v) (l : WindowLimit) :
    peek w now l = ⟨v.count < l.limit, leftOver l.limit v.count, v.resetAt⟩ := by
  unfold peek
  rw [h]

theorem increment_of_live? {v : Window} (h : live? w now = some v) (l : WindowLimit) :
    (increment w now l).2 =
      ⟨bump v.count ≤ l.limit, leftOver l.limit (bump v.count), v.resetAt⟩ := by
  unfold increment next
  rw [h]
  rfl

theorem foretells_of_not_live? (h : live? w now = none) (l : WindowLimit) :
    (peek w now l).Foretells (increment w now l).2 := by
  have hempty : ¬(l.limit = mostCounted ∧ (0 : UInt64) = mostCounted) := fun h => by
    have hzero := eq_mostCounted_iff.1 h.2
    revert hzero
    decide
  have hone : (1 : UInt64).toNat = min ((0 : UInt64).toNat + 1) (UInt64.size - 1) := by decide
  have hfirst := foretells_of_bump hone hempty (now.later l.length)
  have hall : leftOver l.limit 0 = l.limit := by
    rw [← UInt64.toNat_inj, toNat_leftOver]
    exact Nat.sub_zero _
  unfold peek increment next
  rw [h]
  rwa [hall] at hfirst

/-- Looking at a saturated window says that no request passes, but the next one does. -/
theorem Saturated.disagrees (h : Saturated w now l) :
    (peek w now l).success = false ∧ (increment w now l).2.success = true := by
  obtain ⟨hlimit, v, hv, hcount⟩ := h
  rw [peek_of_live? hv, increment_of_live? hv, hlimit, hcount]
  constructor
  · change decide (mostCounted < mostCounted) = false
    decide
  · change decide (bump mostCounted ≤ mostCounted) = true
    decide

/-- Looking at a window always tells when it ends, and it foretells the rest of what the next request is
told just if the window is not saturated. -/
theorem peek_foretells_iff (w : Option Window) (now : Instant) (l : WindowLimit) :
    (peek w now l).resetAt = (increment w now l).2.resetAt ∧
      ((peek w now l).Foretells (increment w now l).2 ↔ ¬Saturated w now l) := by
  cases hlive : live? w now with
  | none =>
      have hforetells := foretells_of_not_live? hlive l
      refine ⟨hforetells.resetAt, iff_of_true hforetells ?_⟩
      rintro ⟨-, v, hv, -⟩
      rw [hlive] at hv
      cases hv
  | some v =>
      refine ⟨by rw [peek_of_live? hlive, increment_of_live? hlive], fun hforetells hsaturated => ?_,
        fun hopen => ?_⟩
      · obtain ⟨hdenied, hpassed⟩ := hsaturated.disagrees
        have hsame := hforetells.success
        rw [hdenied, hpassed] at hsame
        cases hsame
      · rw [peek_of_live? hlive, increment_of_live? hlive]
        exact foretells_of_bump (toNat_bump v.count) (fun h => hopen ⟨h.1, v, hlive, h.2⟩) v.resetAt

/-- A window that has counted all it can, under a limit as large. -/
theorem peek_misleads :
    ¬∀ (w : Option Window) (now : Instant) (l : WindowLimit),
      (peek w now l).Foretells (increment w now l).2 := by
  intro h
  have hsame := (h (some ⟨mostCounted, .later .epoch (.ofSeconds 1)⟩) .epoch ⟨mostCounted, 1000⟩).success
  revert hsame
  decide

end Window

end Latchkey
