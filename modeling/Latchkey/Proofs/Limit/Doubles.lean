import Latchkey.Proofs.Decimal.Arithmetic
import Latchkey.Proofs.Limit.Refill
/-!
# Buckets counted in doubles

Every operation on doubles rounds, but all of them keep the order of what they are given. So more time
lets no less flow in, no more tokens than the capacity take longer than the capacity, and what a bucket
is refilled to stays between nothing and the capacity.
-/

namespace Latchkey

open Binary64

namespace BucketLimit

variable {l : BucketLimit Float} {x y : Float}

/-- What a limit in doubles without a fault guarantees. -/
structure IsFit (l : BucketLimit Float) : Prop where
  capacity : Positive l.capacity
  refillTokens : Positive l.refillTokens
  one_le : 1 ≤ l.intervalMs.toNat
  le_maxWindow : l.intervalMs.toNat ≤ maxWindowMs
  millisToAccrue_le : l.millisToAccrue l.capacity ≤ maxWindowMs

theorem positive_of_isPositive (h : isPositive x = true) : Positive x := by
  obtain ⟨hfinite, hlt⟩ := Bool.and_eq_true_iff.1 h
  have hpos : 0 < x := of_decide_eq_true hlt
  have hnonneg := nonneg_of_le zero_le_zero (le_of_lt hpos)
  exact ⟨hnonneg, hfinite, (zero_lt_iff hnonneg).1 hpos⟩

theorem isFit_of_fault? (h : l.fault? = none) : l.IsFit := by
  obtain ⟨hcapacity, hrefill, hone, hle, haccrue⟩ := fault?_eq_none_iff.1 h
  exact ⟨positive_of_isPositive hcapacity, positive_of_isPositive hrefill, hone, hle, haccrue⟩

namespace IsFit

variable (h : l.IsFit)

include h

theorem value_interval : value l.interval = l.intervalMs.toNat := by
  have hle := h.le_maxWindow
  unfold maxWindowMs at hle
  exact value_toFloat (by omega)

theorem one_le_value_interval : 1 ≤ value l.interval := by
  rw [h.value_interval]
  exact_mod_cast h.one_le

theorem interval : Positive l.interval :=
  ⟨(toFloat_rounds l.intervalMs).nonneg, isFinite_toFloat l.intervalMs,
    one_pos.trans_le h.one_le_value_interval⟩

end IsFit

/-! ### Time for tokens -/

/-- The milliseconds in which tokens flow in, before they are rounded up. -/
def accrual (l : BucketLimit Float) (tokens : Float) : Float := tokens / l.refillTokens * l.interval

theorem millisToAccrue_of_not_pos (hx : ¬0 < x) : l.millisToAccrue x = 0 :=
  if_neg fun hlt => hx (of_decide_eq_true hlt)

namespace IsFit

variable (h : l.IsFit) (hx : 0 ≤ x) (hle : x ≤ l.capacity)

include h hx hle

theorem perRefill_rounds : Rounds (x / l.refillTokens) (value x / value l.refillTokens) :=
  div_rounds hx (isFinite_of_le hx hle h.capacity.finite) h.refillTokens

theorem accrual_rounds : Rounds (l.accrual x) (value (x / l.refillTokens) * value l.interval) :=
  mul_rounds (h.perRefill_rounds hx hle).nonneg h.interval (.inr h.one_le_value_interval)

theorem accrual_le : l.accrual x ≤ l.accrual l.capacity :=
  mul_le_mul_right_of_positive h.interval (h.perRefill_rounds hx hle).nonneg
    (div_le_div_right_of_positive h.refillTokens hx hle h.capacity.finite)
    (.inr h.one_le_value_interval)

omit hx hle in
theorem accrual_capacity : (l.accrual l.capacity).isFinite = true ∧
    value (l.accrual l.capacity) ≤ maxWindowMs := by
  have hnonneg := (h.accrual_rounds h.capacity.nonneg (le_refl_of_nonneg h.capacity.nonneg)).nonneg
  have hmillis : l.millisToAccrue l.capacity =
      ceilWithin (-9223372036854775808) 9223372036854775807 (l.accrual l.capacity) :=
    if_pos (decide_eq_true ((zero_lt_iff h.capacity.nonneg).2 h.capacity.pos))
  have hle := h.millisToAccrue_le
  have hlarge : (maxWindowMs : ℤ) < 9223372036854775807 := by decide
  rw [hmillis] at hle
  cases hfinite : (l.accrual l.capacity).isFinite with
  | false =>
      -- infinity is rounded up to the largest integer, which no limit without a fault allows
      rw [ceilWithin_of_not_finite hnonneg hfinite] at hle
      omega
  | true =>
      rw [ceilWithin_eq hnonneg hfinite] at hle
      unfold clampInt at hle
      have hceil : ⌈value (l.accrual l.capacity)⌉ ≤ (maxWindowMs : ℤ) := by omega
      exact ⟨rfl, Int.ceil_le.1 hceil⟩

theorem value_accrual_le : value (l.accrual x) ≤ maxWindowMs := by
  obtain ⟨-, hcapacity⟩ := h.accrual_capacity
  have hrounds := h.accrual_rounds hx hle
  have hle' := h.accrual_le hx hle
  exact ((le_iff hrounds.nonneg (nonneg_of_le hrounds.nonneg hle')).1 hle').trans hcapacity

/-- So many tokens take as many milliseconds as their accrual has, rounded up. -/
theorem millisToAccrue_eq (hpos : 0 < value x) : l.millisToAccrue x = ⌈value (l.accrual x)⌉ := by
  have hrounds := h.accrual_rounds hx hle
  have hmillis : l.millisToAccrue x =
      ceilWithin (-9223372036854775808) 9223372036854775807 (l.accrual x) :=
    if_pos (decide_eq_true ((zero_lt_iff hx).2 hpos))
  have hlow : 0 ≤ ⌈value (l.accrual x)⌉ := Int.ceil_nonneg (value_nonneg _)
  have hhigh : ⌈value (l.accrual x)⌉ ≤ maxWindowMs := Int.ceil_le.2 (h.value_accrual_le hx hle)
  unfold maxWindowMs at hhigh
  rw [hmillis, ceilWithin_eq hrounds.nonneg (isFinite_of_le hrounds.nonneg (h.accrual_le hx hle)
    h.accrual_capacity.1)]
  unfold clampInt
  omega

theorem millisToAccrue_nonneg : 0 ≤ l.millisToAccrue x := by
  rcases (value_nonneg x).lt_or_eq with hpos | hzero
  · rw [h.millisToAccrue_eq hx hle hpos]
    exact Int.ceil_nonneg (value_nonneg _)
  · exact (millisToAccrue_of_not_pos fun hlt => ((zero_lt_iff hx).1 hlt).ne hzero).ge

end IsFit

/-! ### Tokens for time -/

/-- The tokens that flow in within `n` milliseconds. -/
def inflow (l : BucketLimit Float) (n : ℕ) : Float :=
  (UInt64.ofNat n).toFloat / l.interval * l.refillTokens

namespace IsFit

variable (h : l.IsFit)

include h

theorem intervals_rounds (n : UInt64) :
    Rounds (n.toFloat / l.interval) (value n.toFloat / value l.interval) :=
  div_rounds (toFloat_rounds n).nonneg (isFinite_toFloat n) h.interval

theorem isFinite_intervals (n : UInt64) : (n.toFloat / l.interval).isFinite = true := by
  have hrounds := h.intervals_rounds n
  have hfinite := (isFinite_iff (toFloat_rounds n).nonneg).1 (isFinite_toFloat n)
  rw [isFinite_iff hrounds.nonneg]
  refine (hrounds.nearest.le_of_le (isDouble_value n.toFloat) ?_).trans_lt hfinite
  exact div_le_self (value_nonneg _) h.one_le_value_interval

theorem inflow_rounds (n : ℕ) : Rounds (l.inflow n)
    (value ((UInt64.ofNat n).toFloat / l.interval) * value l.refillTokens) :=
  mul_rounds (h.intervals_rounds _).nonneg h.refillTokens (.inl (h.isFinite_intervals _))

theorem value_inflow_zero : value (l.inflow 0) = 0 := by
  have hintervals := (h.intervals_rounds (UInt64.ofNat 0)).nearest
  have hnone : value (UInt64.ofNat 0).toFloat = 0 := by
    rw [value_toFloat (by decide)]
    exact Nat.cast_zero
  rw [hnone, zero_div] at hintervals
  have hproduct := (h.inflow_rounds 0).nearest
  rw [hintervals.eq_of_isDouble isDouble_zero, zero_mul] at hproduct
  exact hproduct.eq_of_isDouble isDouble_zero

theorem inflow_nonneg (n : ℕ) : 0 ≤ l.inflow n := (h.inflow_rounds n).nonneg

theorem inflow_le {n m : ℕ} (hle : n ≤ m) (hm : m < UInt64.size) : l.inflow n ≤ l.inflow m := by
  have htoNat : (UInt64.ofNat n).toNat ≤ (UInt64.ofNat m).toNat := by
    rw [UInt64.toNat_ofNat_of_lt' (hle.trans_lt hm), UInt64.toNat_ofNat_of_lt' hm]
    exact hle
  refine mul_le_mul_right_of_positive h.refillTokens (h.intervals_rounds _).nonneg ?_
    (.inl (h.isFinite_intervals _))
  exact div_le_div_right_of_positive h.interval (toFloat_rounds _).nonneg
    (toFloat_le_toFloat htoNat) (isFinite_toFloat _)

end IsFit

end BucketLimit

namespace Bucket

open BucketLimit

variable {l : BucketLimit Float} {now : Instant} {high x y : Float}

theorem refilled_some_eq (b : Bucket Float) (now : Instant) (l : BucketLimit Float) :
    refilled (some b) now l = clampAmount (0 : Float) l.capacity
      (b.tokens + l.inflow (now.millisSince b.lastRefillAt)) := rfl

theorem clampAmount_of_nonneg_eq (hhigh : 0 ≤ high) (hy : 0 ≤ y) :
    clampAmount 0 high y = if y ≤ high then y else high := by
  have hlow : ¬y < 0 := (not_lt_iff hy zero_le_zero).2 hy
  change (if decide (y < 0) = true then 0 else if decide (high < y) = true then high else y) = _
  rw [if_neg (by rwa [decide_eq_true_iff])]
  by_cases hle : y ≤ high
  · rw [if_pos hle, if_neg (by rwa [decide_eq_true_iff, not_lt_iff hhigh hy])]
  · rw [if_neg hle, if_pos (decide_eq_true ((not_le_iff hy hhigh).1 hle))]

/-- What is kept between nothing and a bound covers as much as before, up to the bound. -/
theorem le_clampAmount_iff (hx : 0 ≤ x) (hxhigh : x ≤ high) (hy : 0 ≤ y) :
    x ≤ clampAmount 0 high y ↔ x ≤ y := by
  have hhigh := nonneg_of_le hx hxhigh
  rw [clampAmount_of_nonneg_eq hhigh hy]
  split
  · exact Iff.rfl
  · rename_i hgt
    have hlt := (lt_iff hhigh hy).1 ((not_le_iff hy hhigh).1 hgt)
    rw [le_iff hx hy]
    exact iff_of_true hxhigh (((le_iff hx hhigh).1 hxhigh).trans hlt.le)

/-- What a bucket is refilled to, if it is a number. -/
theorem refilled_bounds (h : l.IsFit) (b : Option (Bucket Float)) (now : Instant)
    (hnan : (refilled b now l).isNaN = false) :
    0 ≤ refilled b now l ∧ refilled b now l ≤ l.capacity := by
  have hcapacity := h.capacity.nonneg
  cases b with
  | none => exact ⟨hcapacity, le_refl_of_nonneg hcapacity⟩
  | some b =>
      rw [refilled_some_eq] at *
      generalize b.tokens + l.inflow (now.millisSince b.lastRefillAt) = y at *
      unfold clampAmount at *
      split
      · exact ⟨zero_le_zero, hcapacity⟩
      · rename_i hlow
        split
        · exact ⟨hcapacity, le_refl_of_nonneg hcapacity⟩
        · rename_i hhigh
          rw [if_neg hlow, if_neg hhigh] at hnan
          have hy := nonneg_of_not_lt hnan fun hlt => hlow (decide_eq_true hlt)
          exact ⟨hy, (not_lt_iff hcapacity hy).1 fun hlt => hhigh (decide_eq_true hlt)⟩

theorem refilled_within_capacity (h : l.IsFit) {b : Option (Bucket Float)}
    (hb : ∀ v, b = some v → 0 ≤ v.tokens) (now : Instant) :
    0 ≤ refilled b now l ∧ refilled b now l ≤ l.capacity := by
  refine refilled_bounds h b now (isNaN_of_nonneg ?_)
  cases b with
  | none => exact h.capacity.nonneg
  | some v =>
      have hsum := (add_rounds (hb v rfl) (h.inflow_nonneg (now.millisSince v.lastRefillAt))).nonneg
      rw [refilled_some_eq, clampAmount_of_nonneg_eq h.capacity.nonneg hsum]
      split
      · exact hsum
      · exact h.capacity.nonneg

theorem success_eq_true_iff {b : Option (Bucket Float)} {cost : Float} :
    (consume b now l cost).2.success = true ↔ 0 ≤ cost ∧ cost ≤ refilled b now l := by
  change (decide (0 ≤ cost) && decide (cost ≤ refilled b now l)) = true ↔ _
  rw [Bool.and_eq_true, decide_eq_true_iff, decide_eq_true_iff]

theorem consume_tokens_eq (b : Option (Bucket Float)) (now : Instant) (l : BucketLimit Float)
    (cost : Float) :
    (consume b now l cost).1.tokens =
      if (consume b now l cost).2.success = true then refilled b now l - cost else refilled b now l := rfl

/-- What a request leaves lies between nothing and the capacity if what it is refilled to does. -/
theorem consume_bounds (h : l.IsFit) {b : Option (Bucket Float)} (hnonneg : 0 ≤ refilled b now l)
    (hle : refilled b now l ≤ l.capacity) (cost : Float) :
    0 ≤ (consume b now l cost).1.tokens ∧ (consume b now l cost).1.tokens ≤ l.capacity := by
  rw [consume_tokens_eq]
  split
  · rename_i hpassed
    obtain ⟨hcost, hcovered⟩ := success_eq_true_iff.1 hpassed
    have hfinite := isFinite_of_le hnonneg hle h.capacity.finite
    have hrest := (sub_rounds hcost hcovered hfinite).nonneg
    exact ⟨hrest, le_trans_of_nonneg hrest (sub_le_self_of_nonneg hcost hcovered hfinite) hle⟩
  · exact ⟨hnonneg, hle⟩

/-- A request never leaves less than nothing. -/
theorem consume_nonneg (h : l.IsFit) {b : Option (Bucket Float)}
    (hb : ∀ v, b = some v → 0 ≤ v.tokens) (now : Instant) (cost : Float) :
    0 ≤ (consume b now l cost).1.tokens := by
  obtain ⟨hnonneg, hle⟩ := refilled_within_capacity h hb now
  exact (consume_bounds h hnonneg hle cost).1

/-- In no time nothing flows in. -/
theorem value_refilled_now (h : l.IsFit) (hx : 0 ≤ x) (hle : x ≤ l.capacity) (now : Instant) :
    0 ≤ refilled (some ⟨x, now⟩) now l ∧ value (refilled (some ⟨x, now⟩) now l) = value x := by
  have hsum := add_rounds hx (h.inflow_nonneg 0)
  have hsame : value (x + l.inflow 0) = value x := by
    have hnearest := hsum.nearest
    rw [h.value_inflow_zero, add_zero] at hnearest
    exact hnearest.eq_of_isDouble (isDouble_value x)
  have hle' : x + l.inflow 0 ≤ l.capacity := by
    rw [le_iff hsum.nonneg h.capacity.nonneg, hsame]
    exact (le_iff hx h.capacity.nonneg).1 hle
  rw [refilled_some_eq, Instant.millisSince_self,
    clampAmount_of_nonneg_eq h.capacity.nonneg hsum.nonneg, if_pos hle']
  exact ⟨hsum.nonneg, hsame⟩

end Bucket

end Latchkey
