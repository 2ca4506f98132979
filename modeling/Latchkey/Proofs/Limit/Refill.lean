import Mathlib.Algebra.Order.Field.Basic
import Mathlib.Algebra.Order.Field.Rat
import Mathlib.Tactic.Linarith
import Latchkey.Limit.Bucket
import Latchkey.Proofs.Time.Instant
/-!
# When a bucket is full again

Counted in exact fractions, and away from leap seconds, the instant from which on a bucket is full under
a limit is just the first at which it gives the same as a bucket not seen before. It is the limit of the
next request that counts, not the one under which the bucket was last asked.
-/

namespace Latchkey

namespace Instant

variable {t now : Instant}

theorem nanos_lt_of_not_leap (h : t.inLeapSecond = false) : t.nanos < 1000000000 := by
  simpa [inLeapSecond] using h

theorem le_iff_ns_le (ht : t.nanos < 1000000000) (hnow : now.nanos < 1000000000) :
    t ≤ now ↔ t.ns ≤ now.ns := by
  rw [le_def]
  unfold ns
  omega

theorem millisSince_eq (ht : t.inLeapSecond = false) (hnow : now.inLeapSecond = false) :
    now.millisSince t = (now.ns - t.ns).toNat / 1000000 := by
  unfold millisSince since
  simp [ht, hnow]

@[simp] theorem millisSince_self (t : Instant) : t.millisSince t = 0 := by
  simp [millisSince, since]

theorem laterMillis_of_not_leap {m : Int} (hm : 0 ≤ m) (hnow : now.inLeapSecond = false) :
    (now.laterMillis m).inLeapSecond = false ∧
      (now.laterMillis m).ns = min latest.ns (now.ns + m * 1000000) := by
  have hd : (Duration.ofMillis m).ns = m * 1000000 := rfl
  rcases later_cases (t := now) (d := .ofMillis m) (by omega) with ⟨hleap, -⟩ | ⟨-, hnanos, hsum⟩
  · rw [hnow] at hleap
    cases hleap
  · unfold nsAfterLeap at hsum
    rw [hnow, hd] at hsum
    exact ⟨decide_eq_false (Nat.not_le_of_gt hnanos), hsum⟩

/-- So many milliseconds later is not after `now` just if so many whole ones have passed. -/
theorem laterMillis_le_iff {m : Int} (ht : t.inLeapSecond = false) (hnow : now.inLeapSecond = false)
    (hle : t ≤ now) (hlatest : now ≤ minuteBeforeLatest) (hm : 0 ≤ m) :
    t.laterMillis m ≤ now ↔ m ≤ now.millisSince t := by
  have hnanos := nanos_lt_of_not_leap hnow
  obtain ⟨hleap, hsum⟩ := laterMillis_of_not_leap hm ht
  rw [le_iff_ns_le (nanos_lt_of_not_leap ht) hnanos] at hle
  rw [le_iff_ns_le hnanos (by decide)] at hlatest
  rw [le_iff_ns_le (nanos_lt_of_not_leap hleap) hnanos, hsum, millisSince_eq ht hnow]
  have hends : latest.ns = 8210266876799999999999 := by decide
  have hbefore : minuteBeforeLatest.ns = 8210266876739999999999 := by decide
  omega

theorem millisSince_lt (t now : Instant) : now.millisSince t < 9223372036854775807 := by
  have hlow := t.earliestSecond_le
  have hhigh := now.le_latestSecond
  have hnanos := now.nanos_lt_two_seconds
  have hns : (now.since t).ns ≤ now.ns - t.ns + 1000000000 := by
    unfold since
    dsimp only
    split
    · exact Int.le_refl _
    · split <;> omega
  unfold millisSince
  unfold ns earliestSecond latestSecond at *
  omega

end Instant

/-- A limit has no fault if its amounts are above zero, its interval is one that a limit may have, and an
empty bucket is full soon enough. -/
theorem BucketLimit.fault?_eq_none_iff {α : Type} [Amount α] {l : BucketLimit α} :
    l.fault? = none ↔ isPositive l.capacity = true ∧ isPositive l.refillTokens = true ∧
      0 < l.intervalMs.toNat ∧ l.intervalMs.toNat ≤ maxWindowMs ∧
      l.millisToAccrue l.capacity ≤ maxWindowMs := by
  have hzero : l.intervalMs = 0 ↔ l.intervalMs.toNat = 0 := UInt64.toNat_inj.symm
  unfold fault?
  cases isPositive l.capacity with
  | false => simp
  | true =>
      cases isPositive l.refillTokens with
      | false => simp
      | true =>
          simp only [Bool.not_true, Bool.false_eq_true, if_false, true_and]
          split <;> rename_i hinterval <;> rw [hzero] at hinterval
          · exact iff_of_false nofun (by omega)
          · split
            · exact iff_of_false nofun (by omega)
            · exact iff_of_true rfl (by omega)

/-! ### Counted in exact fractions -/

section Exact

variable {l : BucketLimit Rat} {b : Bucket Rat} {now : Instant} {cost : Rat}

namespace BucketLimit

theorem isPositive_iff {x : Rat} : isPositive x = true ↔ 0 < x := by
  change (true && decide (0 < x)) = true ↔ 0 < x
  rw [Bool.true_and, decide_eq_true_iff]

theorem positive_of_fit (h : l.fault? = none) :
    0 < l.capacity ∧ 0 < l.refillTokens ∧ 0 < l.interval := by
  obtain ⟨hcapacity, hrefill, hinterval, -, -⟩ := fault?_eq_none_iff.1 h
  exact ⟨isPositive_iff.1 hcapacity, isPositive_iff.1 hrefill, Nat.cast_pos.2 hinterval⟩

theorem millisToAccrue_eq (l : BucketLimit Rat) (tokens : Rat) :
    l.millisToAccrue tokens =
      if 0 < tokens then
        clampInt (-9223372036854775808) 9223372036854775807 (tokens / l.refillTokens * l.interval).ceil
      else 0 := by
  unfold millisToAccrue
  exact if_congr decide_eq_true_iff rfl rfl

theorem millisToAccrue_nonneg (hfit : l.fault? = none) (tokens : Rat) : 0 ≤ l.millisToAccrue tokens := by
  obtain ⟨-, hrefill, hinterval⟩ := positive_of_fit hfit
  rw [millisToAccrue_eq]
  split
  · rename_i htokens
    have hceil : 0 < (tokens / l.refillTokens * l.interval).ceil := by
      rw [Rat.lt_ceil_iff, Int.cast_zero]
      positivity
    unfold clampInt
    omega
  · exact Int.le_refl 0

/-- So many tokens have flowed in after `n` milliseconds just if no more milliseconds are needed for them. -/
theorem millisToAccrue_le_iff (hfit : l.fault? = none) {tokens : Rat} {n : Nat}
    (hn : n < 9223372036854775807) :
    l.millisToAccrue tokens ≤ n ↔ tokens ≤ n / l.interval * l.refillTokens := by
  obtain ⟨-, hrefill, hinterval⟩ := positive_of_fit hfit
  rw [millisToAccrue_eq]
  split
  · have hceil : clampInt (-9223372036854775808) 9223372036854775807
          (tokens / l.refillTokens * l.interval).ceil ≤ n ↔
        (tokens / l.refillTokens * l.interval).ceil ≤ n := by
      unfold clampInt
      omega
    rw [hceil, Rat.ceil_le_iff, Int.cast_natCast, ← le_div_iff₀ hinterval, div_le_iff₀ hrefill]
  · rename_i htokens
    have hflow : 0 ≤ (n : Rat) / l.interval * l.refillTokens := by positivity
    exact iff_of_true (by omega) (le_trans (not_lt.1 htokens) hflow)

end BucketLimit

namespace Bucket

theorem consume_of_refilled {α : Type} [Amount α] {b : Bucket α} {now : Instant} {l : BucketLimit α}
    {cost : α} (h : refilled (some b) now l = refilled none now l) :
    consume (some b) now l cost = consume none now l cost := by
  unfold consume
  rw [h]

theorem refilled_some (b : Bucket Rat) (now : Instant) (l : BucketLimit Rat) :
    refilled (some b) now l = clampAmount 0 l.capacity
      (b.tokens + (now.millisSince b.lastRefillAt : Rat) / l.interval * l.refillTokens) := by
  have hlt := Instant.millisSince_lt b.lastRefillAt now
  have htoNat : (UInt64.ofNat (now.millisSince b.lastRefillAt)).toNat =
      now.millisSince b.lastRefillAt := by
    rw [UInt64.toNat_ofNat']
    omega
  change clampAmount 0 l.capacity (b.tokens +
    ((UInt64.ofNat (now.millisSince b.lastRefillAt)).toNat : Rat) / l.interval * l.refillTokens) = _
  rw [htoNat]

theorem clampAmount_eq (high x : Rat) :
    clampAmount 0 high x = if x < 0 then 0 else if high < x then high else x := by
  unfold clampAmount
  exact if_congr decide_eq_true_iff rfl (if_congr decide_eq_true_iff rfl rfl)

theorem clampAmount_eq_high_iff {high x : Rat} (hhigh : 0 < high) :
    clampAmount 0 high x = high ↔ high ≤ x := by
  rw [clampAmount_eq]
  grind

/-- A bucket gives the same as one not seen before just if it is refilled to the capacity. -/
theorem consume_eq_fresh_iff :
    consume (some b) now l cost = consume none now l cost ↔
      refilled (some b) now l = refilled none now l := by
  constructor
  · intro h
    have htokens : (consume (some b) now l cost).1.tokens = (consume none now l cost).1.tokens := by
      rw [h]
    have hsuccess : (consume (some b) now l cost).2.success = (consume none now l cost).2.success := by
      rw [h]
    unfold consume outcome at htokens hsuccess
    dsimp only at htokens hsuccess
    rw [hsuccess] at htokens
    split at htokens
    · exact sub_left_injective htokens
    · exact htokens
  · exact consume_of_refilled

/-- In exact fractions, and away from leap seconds, a bucket gives the same as one not seen before just
if it is full under the limit of the request. -/
theorem consume_eq_fresh_iff_fullAt_le (hfit : l.fault? = none) (hb : b.lastRefillAt ≤ now)
    (hbleap : b.lastRefillAt.inLeapSecond = false) (hleap : now.inLeapSecond = false)
    (hlatest : now ≤ .minuteBeforeLatest) :
    consume (some b) now l cost = consume none now l cost ↔ b.fullAt l ≤ now := by
  have hcapacity := (BucketLimit.positive_of_fit hfit).1
  have hnonneg := BucketLimit.millisToAccrue_nonneg hfit (l.capacity - b.tokens)
  calc consume (some b) now l cost = consume none now l cost
    _ ↔ refilled (some b) now l = l.capacity := consume_eq_fresh_iff
    _ ↔ l.capacity ≤
          b.tokens + (now.millisSince b.lastRefillAt : Rat) / l.interval * l.refillTokens := by
        rw [refilled_some, clampAmount_eq_high_iff hcapacity]
    _ ↔ l.millisToAccrue (l.capacity - b.tokens) ≤ now.millisSince b.lastRefillAt := by
        rw [BucketLimit.millisToAccrue_le_iff hfit (Instant.millisSince_lt _ _), sub_le_iff_le_add']
    _ ↔ b.fullAt l ≤ now := (Instant.laterMillis_le_iff hbleap hleap hb hlatest hnonneg).symm

end Bucket

end Exact

end Latchkey
