import Latchkey.Time.Instant
/-!
# Sums of instants in order

Later instants have later sums, with one exception in the range of instants. A sum counts the leap
second that it starts in and no other, so of two instants in one second, the first before its leap
second and the second in it, the first may have the later sum.
-/

namespace Latchkey.Instant

variable {t u v : Instant} {d : Duration}

theorem le_refl (t : Instant) : t ≤ t := le_def.2 (.inr ⟨rfl, Nat.le_refl _⟩)

theorem le_trans (h : t ≤ u) (h' : u ≤ v) : t ≤ v := by
  rw [le_def] at *
  omega

theorem lt_of_lt_of_le (h : t < u) (h' : u ≤ v) : t < v := by
  rw [lt_def, le_def] at *
  omega

theorem lt_of_le_of_lt (h : t ≤ u) (h' : u < v) : t < v := by
  rw [lt_def, le_def] at *
  omega

theorem le_of_lt (h : t < u) : t ≤ u := by
  rw [lt_def] at h
  rw [le_def]
  omega

theorem not_lt : ¬t < u ↔ u ≤ t := by
  rw [← not_le, Decidable.not_not]

/-- `u` lies in the leap second of a second in which `t` lies before it. -/
def EntersLeap (t u : Instant) : Prop :=
  t.second = u.second ∧ t.inLeapSecond = false ∧ u.inLeapSecond = true

theorem inLeapSecond_iff : t.inLeapSecond = true ↔ 1000000000 ≤ t.nanos := decide_eq_true_iff

theorem nanos_lt_two_seconds (t : Instant) : t.nanos < 2000000000 := by
  have hnanos := t.nanos_lt
  unfold secondLength at hnanos
  split at hnanos <;> omega

theorem second_of_inLeapSecond (h : t.inLeapSecond = true) :
    t.second % 60 = 59 ∧ t.second ≠ latestSecond := by
  have hnanos := t.nanos_lt
  have hleap := inLeapSecond_iff.1 h
  unfold secondLength at hnanos
  split at hnanos
  · assumption
  · omega

theorem secondLength_of_inLeapSecond (h : t.inLeapSecond = true) :
    secondLength t.second = 2000000000 :=
  if_pos (second_of_inLeapSecond h)

theorem le_latest (t : Instant) : t ≤ latest := by
  have hhigh := t.le_latestSecond
  have hleap := @second_of_inLeapSecond t
  have hsecond : latest.second = latestSecond := rfl
  have hnanos : latest.nanos = 999999999 := rfl
  rw [inLeapSecond_iff] at hleap
  rw [le_def]
  omega

/-- Nanoseconds since the start of 1970 without the leap second that `t` may lie in. -/
def nsAfterLeap (t : Instant) : Int := if t.inLeapSecond then t.ns - 1000000000 else t.ns

theorem ofNs?_getD {n : Int} (hn : earliestSecond * 1000000000 ≤ n) :
    ((ofNs? n).getD latest).nanos < 1000000000 ∧
      ((ofNs? n).getD latest).ns = min latest.ns n := by
  have hlatest : latest.ns = latestSecond * 1000000000 + 999999999 := rfl
  cases h : ofNs? n with
  | some t =>
      obtain ⟨hns, hleap⟩ := ofNs?_eq_some_iff.1 h
      have hle := t.le_latestSecond
      simp only [Option.getD_some, ns, inLeapSecond, decide_eq_false_iff_not] at *
      omega
  | none =>
      refine ⟨by decide, ?_⟩
      have hlength := le_secondLength (n / 1000000000)
      unfold ofNs? ofSecond? at h
      split at h
      · cases h
      · rw [Option.getD_none]
        unfold earliestSecond latestSecond at *
        omega

/-- A sum either stays in the leap second that it starts in, or it is in none. -/
theorem later_cases (hd : 0 ≤ d.ns) :
    t.inLeapSecond = true ∧ (t.later d).second = t.second ∧
        ((t.later d).nanos : Int) = t.nanos + d.ns ∨
      (t.inLeapSecond = true → 2000000000 ≤ t.nanos + d.ns) ∧ (t.later d).nanos < 1000000000 ∧
        (t.later d).ns = min latest.ns (t.nsAfterLeap + d.ns) := by
  have hlow := t.earliestSecond_le
  have hhigh := t.le_latestSecond
  have hnanos := t.nanos_lt
  unfold later add? nsAfterLeap
  dsimp only
  -- The sum starts in a leap second and does not go back behind its beginning, or it counts none.
  split
  · rename_i hleap
    have ht := inLeapSecond_iff.1 hleap.1
    split
    · rename_i hpassed
      left
      rw [secondLength_of_inLeapSecond hleap.1] at hnanos
      unfold ofSecond?
      rw [dif_pos (by rw [secondLength_of_inLeapSecond hleap.1]; omega)]
      exact ⟨hleap.1, rfl, Int.toNat_of_nonneg (by omega)⟩
    · right
      rw [if_pos hleap.1]
      have h := ofNs?_getD (n := t.ns + d.ns - 1000000000) (by unfold ns; omega)
      exact ⟨fun _ => by omega, h.1, by rw [h.2]; congr 1; omega⟩
  · rename_i hleap
    right
    have hno : t.inLeapSecond = false := by
      rw [Bool.eq_false_iff]
      intro ht
      exact hleap ⟨ht, by have := inLeapSecond_iff.1 ht; omega⟩
    rw [hno]
    have h := ofNs?_getD (n := t.ns + d.ns) (by unfold ns; omega)
    exact ⟨fun h => (by cases h), h⟩

theorem later_le_later (h : t ≤ u) (hleap : ¬EntersLeap t u) (hd : 0 ≤ d.ns) :
    t.later d ≤ u.later d := by
  have hu := u.le_latest
  have ht := later_cases (t := t) hd
  have hu' := later_cases (t := u) hd
  have hsecond : latest.second = latestSecond := rfl
  have hnanos : latest.nanos = 999999999 := rfl
  have htnanos := t.nanos_lt_two_seconds
  have hlnanos := (u.later d).nanos_lt_two_seconds
  unfold EntersLeap at hleap
  rw [le_def] at *
  simp only [nsAfterLeap, ns, inLeapSecond_iff, Bool.eq_false_iff, ne_eq] at *
  split at ht <;> split at hu' <;> omega

theorem le_later (hd : 0 ≤ d.ns) : t ≤ t.later d := by
  have ht := t.le_latest
  have hlater := later_cases (t := t) hd
  have hsecond : latest.second = latestSecond := rfl
  have hnanos : latest.nanos = 999999999 := rfl
  rw [le_def] at *
  simp only [nsAfterLeap, ns, inLeapSecond_iff] at hlater
  split at hlater <;> omega

/-- A longer time after an instant is later. -/
theorem later_mono {d' : Duration} (hd : 0 ≤ d.ns) (hle : d.ns ≤ d'.ns) :
    t.later d ≤ t.later d' := by
  have ht := t.le_latest
  have hshort := later_cases (t := t) hd
  have hlong := later_cases (t := t) (Int.le_trans hd hle)
  have hsecond : latest.second = latestSecond := rfl
  have hnanos : latest.nanos = 999999999 := rfl
  have htnanos := (t.later d').nanos_lt_two_seconds
  rw [le_def] at *
  simp only [nsAfterLeap, ns, inLeapSecond_iff] at hshort hlong
  split at hshort <;> omega

/-- The last instant that is a minute or more before the end of the range. -/
def minuteBeforeLatest : Instant :=
  ⟨latestSecond - 60, 999999999, by decide, by decide, by decide⟩

theorem ofNs?_isSome {n : Int} (hlow : earliestSecond * 1000000000 ≤ n) (hhigh : n ≤ latest.ns) :
    (ofNs? n).isSome := by
  have hlatest : latest.ns = latestSecond * 1000000000 + 999999999 := rfl
  have hlength := le_secondLength (n / 1000000000)
  unfold ofNs? ofSecond?
  rw [dif_pos (by unfold earliestSecond latestSecond at *; omega)]
  rfl

/-- A sum that stays in the range of counts of nanoseconds is an instant. -/
theorem add?_isSome (hd : 0 ≤ d.ns) (h : t.ns + d.ns ≤ latest.ns) : (t.add? d).isSome := by
  have hlow := t.earliestSecond_le
  unfold add?
  dsimp only
  split
  · rename_i hleap
    split
    · rename_i hpassed
      have hlength := secondLength_of_inLeapSecond hleap.1
      unfold ofSecond?
      rw [dif_pos ⟨hlow, t.le_latestSecond, by omega⟩]
      rfl
    · exact ofNs?_isSome (by unfold ns; omega) (by omega)
  · exact ofNs?_isSome (by unfold ns; omega) (by omega)

/-- A sum in range, as `later_cases` has it, but without an end to the range. -/
theorem add?_cases (hd : 0 ≤ d.ns) (h : t.add? d = some u) :
    t.inLeapSecond = true ∧ u.second = t.second ∧ (u.nanos : Int) = t.nanos + d.ns ∨
      (t.inLeapSecond = true → 2000000000 ≤ t.nanos + d.ns) ∧ u.inLeapSecond = false ∧
        u.ns = t.nsAfterLeap + d.ns := by
  unfold add? nsAfterLeap at *
  dsimp only at h
  split at h
  · rename_i hleap
    rw [if_pos hleap.1]
    split at h
    · obtain ⟨hsecond, hnanos⟩ := ofSecond?_eq_some_iff.1 h
      exact .inl ⟨hleap.1, hsecond, by omega⟩
    · obtain ⟨hns, hnone⟩ := ofNs?_eq_some_iff.1 h
      exact .inr ⟨fun _ => by omega, hnone, by omega⟩
  · rename_i hleap
    have hno : t.inLeapSecond = false := by
      rw [Bool.eq_false_iff]
      intro ht
      exact hleap ⟨ht, by have := inLeapSecond_iff.1 ht; omega⟩
    obtain ⟨hns, hnone⟩ := ofNs?_eq_some_iff.1 h
    rw [hno]
    exact .inr ⟨fun h => (by cases h), hnone, hns⟩

/-- A minute fits into the range just if it fits in whole seconds. -/
theorem add?_minute_isSome_iff :
    (t.add? (.ofSeconds 60)).isSome ↔ t.second + 60 ≤ latestSecond := by
  have hminute : (Duration.ofSeconds 60).ns = 60000000000 := rfl
  have htnanos := t.nanos_lt_two_seconds
  constructor
  · intro h
    obtain ⟨u, hu⟩ := Option.isSome_iff_exists.1 h
    have hcases := add?_cases (by omega) hu
    have hunanos := u.nanos_lt_two_seconds
    have hule := u.le_latestSecond
    simp only [nsAfterLeap, ns, inLeapSecond_iff, Bool.eq_false_iff, ne_eq] at hcases
    split at hcases <;> omega
  · intro h
    have hlow := t.earliestSecond_le
    have hlatest : latest.ns = latestSecond * 1000000000 + 999999999 := rfl
    unfold add?
    dsimp only
    split
    · rename_i hleap
      rw [if_neg (by omega)]
      exact ofNs?_isSome (by unfold ns; omega) (by rw [hlatest]; unfold ns; omega)
    · rename_i hleap
      have hno : ¬1000000000 ≤ t.nanos := fun ht => hleap ⟨inLeapSecond_iff.2 ht, by omega⟩
      exact ofNs?_isSome (by unfold ns; omega) (by rw [hlatest]; unfold ns; omega)

theorem add?_minute_isSome (h : t ≤ minuteBeforeLatest) : (t.add? (.ofSeconds 60)).isSome := by
  have hsecond : minuteBeforeLatest.second = latestSecond - 60 := rfl
  rw [le_def] at h
  exact add?_minute_isSome_iff.2 (by omega)

theorem lt_add?_minute (h : t ≤ minuteBeforeLatest) (hu : t.add? (.ofSeconds 60) = some u) : t < u := by
  have hminute : (Duration.ofSeconds 60).ns = 60000000000 := rfl
  have hsum := later_cases (t := t) (d := .ofSeconds 60) (by omega)
  have hlater : t.later (.ofSeconds 60) = u := by
    unfold later
    rw [hu]
    rfl
  have hlatest : latest.ns = latestSecond * 1000000000 + 999999999 := rfl
  have hsecond : minuteBeforeLatest.second = latestSecond - 60 := rfl
  have hnanos : minuteBeforeLatest.nanos = 999999999 := rfl
  have htnanos := t.nanos_lt_two_seconds
  have hunanos := u.nanos_lt_two_seconds
  rw [hlater] at hsum
  rw [le_def] at h
  rw [lt_def]
  simp only [nsAfterLeap, ns, inLeapSecond_iff] at *
  split at hsum <;> omega

end Latchkey.Instant
