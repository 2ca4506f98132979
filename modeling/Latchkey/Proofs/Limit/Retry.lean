import Mathlib.Algebra.Order.Ring.Pow
import Latchkey.Proofs.Limit.Doubles
import Latchkey.Proofs.Limit.Flow
/-!
# When a denied request is let in

The answer to a request that a bucket is short of names the time at which it fits. In doubles, three
roundings lead to that time and two lead back from it to tokens, so that at the time itself the bucket
may still be short by a last digit. One millisecond is worth far more than five roundings lose: from a
millisecond later on, the request always passes.
-/

namespace Latchkey

namespace Instant

variable {t now : Instant}

/-- After a wait, the time passed is the wait and the time since then. -/
theorem millisSince_of_laterMillis_le {m : Int} (hm : 0 ≤ m) (hnow : now.inLeapSecond = false)
    (ht : t.inLeapSecond = false) (hrange : now.laterMillis m < .latest) (hle : now.laterMillis m ≤ t) :
    (t.millisSince now : Int) = m + t.millisSince (now.laterMillis m) := by
  obtain ⟨hleap, hns⟩ := laterMillis_of_not_leap hm hnow
  have hbefore : (now.laterMillis m).ns < latest.ns := by
    rw [lt_def] at hrange
    have hnanos := nanos_lt_of_not_leap hleap
    have hlatest : latest.nanos = 999999999 := rfl
    unfold ns
    omega
  have hafter := ns_le_of_le hle hleap ht
  rw [millisSince_eq hnow ht, millisSince_eq hleap ht]
  omega

end Instant

open Binary64

namespace BucketLimit

variable {l : BucketLimit Float} {cost x : Float}

/-- One millisecond outweighs what five roundings lose of the longest time that a limit may take. -/
theorem le_of_five_roundings {need wait spent : ℚ} (hwait : 0 ≤ wait) (hle : wait ≤ maxWindowMs)
    (hneed : need * kept ^ 3 ≤ wait) (hspent : wait + 1 ≤ spent) : need ≤ spent * kept ^ 2 := by
  have hunit : weight (-53) * (2 ^ 53 : ℕ) = 1 := by
    rw [← weight_natCast, ← weight_add]
    exact weight_zero
  -- Bernoulli: five roundings lose at most five units of the last place
  have hbernoulli : 1 - 5 * weight (-53) ≤ kept ^ 5 := by
    have hhalf := half_le_kept
    have h := one_add_mul_sub_le_pow (show -1 ≤ kept by linarith) 5
    unfold kept at *
    push_cast at h
    linarith
  have hwindow : (wait + 1) * (5 * weight (-53)) ≤ 1 := by
    have hmillis : wait + 1 ≤ 31622400001 := by
      unfold maxWindowMs at hle
      push_cast at hle
      linarith
    have hpos := weight_pos (-53)
    have h := mul_le_mul_of_nonneg_right hmillis (show 0 ≤ 5 * weight (-53) by linarith)
    push_cast at hunit
    linarith
  refine le_of_mul_le_mul_right ?_ (pow_pos kept_pos 3)
  calc need * kept ^ 3 ≤ wait := hneed
    _ ≤ (wait + 1) * (1 - 5 * weight (-53)) := by linarith
    _ ≤ (wait + 1) * kept ^ 5 := mul_le_mul_of_nonneg_left hbernoulli (by linarith)
    _ ≤ spent * kept ^ 5 := mul_le_mul_of_nonneg_right hspent (pow_pos kept_pos 5).le
    _ = spent * kept ^ 2 * kept ^ 3 := by ring

namespace IsFit

variable (h : l.IsFit)

include h

/-- A share of one interval is far from where doubles lose digits. -/
theorem weight_le_inv_interval : weight (-1000) ≤ (value l.interval)⁻¹ := by
  have hle : value l.interval ≤ weight (1000 : ℕ) := by
    have hwindow : ((maxWindowMs : ℕ) : ℚ) ≤ weight (35 : ℕ) := by
      rw [weight_natCast, Nat.cast_le]
      decide
    rw [h.value_interval]
    exact (Nat.cast_le.2 h.le_maxWindow).trans (hwindow.trans (weight_le_iff.2 (by decide)))
  have hunit : weight (-1000) * weight (1000 : ℕ) = 1 := by
    rw [← weight_add]
    exact weight_zero
  rwa [le_inv_comm₀ (weight_pos _) h.interval.pos, inv_eq_of_mul_eq_one_right hunit]

/-- Time that is not very short is worth more refills than where doubles lose digits. -/
theorem weight_le_of_long {refills : ℚ} (hlong : (1 / 2) ^ 2 ≤ refills * value l.interval) :
    weight (-1022) ≤ refills * kept := by
  have hinterval := h.interval.pos
  have hinv := h.weight_le_inv_interval
  have hrefills : (value l.interval)⁻¹ * (1 / 2) ^ 2 ≤ refills := by
    rwa [inv_mul_le_iff₀ hinterval, mul_comm (value l.interval)]
  calc weight (-1022) ≤ weight (-1000) * weight (-3) := by
        rw [← weight_add]
        exact weight_le_iff.2 (by decide)
    _ = weight (-1000) * (1 / 2) ^ 2 * (1 / 2) := by
        rw [weight_eq_mul (show -3 = -1 + (-1 + -1) by decide), weight_add, weight_neg_one]
        ring
    _ ≤ (value l.interval)⁻¹ * (1 / 2) ^ 2 * (1 / 2) := by linarith
    _ ≤ refills * kept :=
        mul_le_mul hrefills half_le_kept one_half_pos.le (le_trans (by positivity) hrefills)

/-- Three roundings keep nearly all of the time for tokens, unless that is very short. -/
theorem le_value_accrual {tokens : ℚ} (hx : 0 ≤ x) (hle : x ≤ l.capacity)
    (hkept : tokens * kept ≤ value x)
    (hlong : (1 / 2) ^ 2 ≤ tokens / value l.refillTokens * value l.interval) :
    tokens / value l.refillTokens * value l.interval * kept ^ 3 ≤ value (l.accrual x) := by
  have hshare := h.perRefill_rounds hx hle
  have haccrual := h.accrual_rounds hx hle
  have haccrual_lt : value (l.accrual x) < weight 1024 :=
    (isFinite_iff haccrual.nonneg).1
      (isFinite_of_le haccrual.nonneg (h.accrual_le hx hle) h.accrual_capacity.1)
  have hshare_lt : value (x / l.refillTokens) < weight 1024 :=
    (le_mul_of_one_le_right (value_nonneg _) h.one_le_value_interval).trans_lt
      (haccrual.nearest.lt_of_lt haccrual_lt)
  have hfirst : tokens / value l.refillTokens * kept ≤ value x / value l.refillTokens := by
    rw [div_mul_eq_mul_div]
    exact div_le_div_of_nonneg_right hkept h.refillTokens.pos.le
  have hsecond := hshare.nearest.mul_kept_le hshare_lt (h.weight_le_of_long hlong) hfirst
  have hscaled := mul_le_mul_of_nonneg_right hsecond h.interval.pos.le
  have hnormal : weight (-1022) ≤ tokens / value l.refillTokens * kept * kept * value l.interval :=
    calc weight (-1022) ≤ weight (-4) := weight_le_iff.2 (by decide)
      _ = (1 / 2) ^ 2 * (1 / 2) ^ 2 := by
          rw [weight_eq_mul (show -4 = -1 + -1 + (-1 + -1) by decide), weight_add, weight_neg_one, sq]
      _ ≤ tokens / value l.refillTokens * value l.interval * kept ^ 2 :=
          mul_le_mul hlong (pow_le_pow_left₀ one_half_pos.le half_le_kept 2) (by norm_num) (by linarith)
      _ = tokens / value l.refillTokens * kept * kept * value l.interval := by ring
  calc tokens / value l.refillTokens * value l.interval * kept ^ 3
      = tokens / value l.refillTokens * kept * kept * value l.interval * kept := by ring
    _ ≤ value (l.accrual x) := haccrual.nearest.mul_kept_le haccrual_lt hnormal hscaled

/-- Two roundings keep enough of the tokens for a time that has some to spare. -/
theorem multiple_le_inflow {k n : ℕ} (hhigh : k * weight (-1074) ≤ weight 1024) (hn : 1 ≤ n)
    (hn' : n ≤ 2 ^ 53)
    (hspare : k * weight (-1074) / value l.refillTokens * value l.interval ≤ n * kept ^ 2) :
    k * weight (-1074) ≤ value (l.inflow n) := by
  have hinterval := h.interval.pos
  have hrefill := h.refillTokens.pos
  have hmillis : (UInt64.ofNat n).toNat = n := UInt64.toNat_ofNat_of_lt' (by
    have hsize : UInt64.size = 2 ^ 64 := rfl
    omega)
  have hintervals := h.intervals_rounds (UInt64.ofNat n)
  have hfinite := (isFinite_iff hintervals.nonneg).1 (h.isFinite_intervals (UInt64.ofNat n))
  rw [value_toFloat (by omega), hmillis] at hintervals
  have hnormal : weight (-1022) ≤ n / value l.interval :=
    calc weight (-1022) ≤ weight (-1000) := weight_le_iff.2 (by decide)
      _ ≤ (value l.interval)⁻¹ := h.weight_le_inv_interval
      _ ≤ n / value l.interval := by
          rw [div_eq_mul_inv]
          exact le_mul_of_one_le_left (inv_pos.2 hinterval).le (Nat.one_le_cast.2 hn)
  have hfirst := hintervals.nearest.mul_kept_le hfinite hnormal le_rfl
  refine (h.inflow_rounds n).nearest.multiple_le hhigh ?_
  calc k * weight (-1074)
      = k * weight (-1074) / value l.refillTokens * value l.interval / value l.interval *
          value l.refillTokens := by
        rw [mul_div_cancel_right₀ _ hinterval.ne', div_mul_cancel₀ _ hrefill.ne']
    _ ≤ n * kept ^ 2 / value l.interval * value l.refillTokens :=
        mul_le_mul_of_nonneg_right (div_le_div_of_nonneg_right hspare hinterval.le) hrefill.le
    _ = n / value l.interval * kept * value l.refillTokens * kept := by ring
    _ ≤ value ((UInt64.ofNat n).toFloat / l.interval) * value l.refillTokens * kept :=
        mul_le_mul_of_nonneg_right (mul_le_mul_of_nonneg_right hfirst hrefill.le) kept_pos.le

theorem shortfall_rounds (hx : 0 ≤ x) (hlt : x < cost) (hcost : cost ≤ l.capacity) :
    Rounds (cost - x) (value cost - value x) ∧ cost - x ≤ l.capacity := by
  have hcost' := nonneg_of_le hx (le_of_lt hlt)
  have hfinite := isFinite_of_le hcost' hcost h.capacity.finite
  have hrounds := sub_rounds hx (le_of_lt hlt) hfinite
  have hself := sub_le_self_of_nonneg hx (le_of_lt hlt) hfinite
  exact ⟨hrounds, le_trans_of_nonneg hrounds.nonneg hself hcost⟩

/-- What is missing of a cost flows in within a millisecond more than the time that is named for it. -/
theorem shortfall_le_inflow (hx : 0 ≤ x) (hlt : x < cost) (hcost : cost ≤ l.capacity) {n : ℕ}
    (hn : l.millisToAccrue (cost - x) + 1 = n) : value cost - value x ≤ value (l.inflow n) := by
  have hlt' := (lt_iff hx (nonneg_of_le hx (le_of_lt hlt))).1 hlt
  obtain ⟨hrounds, hle⟩ := h.shortfall_rounds hx hlt hcost
  -- the exact difference is a multiple of the least double, so no rounding can slip below it
  obtain ⟨k, hk⟩ := (isDouble_value cost).sub_multiple (isDouble_value x) hlt'.le
  have hhigh : k * weight (-1074) ≤ weight 1024 :=
    hk ▸ (sub_le_self _ (value_nonneg x)).trans (isDouble_value cost).le
  have hkept : (value cost - value x) * kept ≤ value (cost - x) := by
    rw [hk]
    exact Nearest.le_of_multiple (hk ▸ hrounds.nearest) hhigh
  have hpos : 0 < value (cost - x) := (mul_pos (sub_pos.2 hlt') kept_pos).trans_le hkept
  have hwindow := h.value_accrual_le hrounds.nonneg hle
  have haccrual := value_nonneg (l.accrual (cost - x))
  rw [h.millisToAccrue_eq hrounds.nonneg hle hpos] at hn
  have hceil : 0 ≤ ⌈value (l.accrual (cost - x))⌉ := Int.ceil_nonneg haccrual
  have hceil' : ⌈value (l.accrual (cost - x))⌉ ≤ (maxWindowMs : ℤ) := Int.ceil_le.2 hwindow
  have hbelow : value (l.accrual (cost - x)) + 1 ≤ n := by
    have hle := Int.le_ceil (value (l.accrual (cost - x)))
    have hn' : ((⌈value (l.accrual (cost - x))⌉ : ℤ) : ℚ) + 1 = n := mod_cast hn
    linarith
  have hlast : maxWindowMs < 2 ^ 53 := by decide
  rw [hk] at *
  refine h.multiple_le_inflow hhigh (by omega) (by omega) ?_
  -- below a quarter of a millisecond a share may be subnormal, but then one millisecond is plenty
  rcases le_or_gt ((1 / 2) ^ 2) (k * weight (-1074) / value l.refillTokens * value l.interval)
    with hlong | hbrief
  · exact le_of_five_roundings haccrual hwindow (h.le_value_accrual hrounds.nonneg hle hkept hlong) hbelow
  · have hhalf := pow_le_pow_left₀ one_half_pos.le half_le_kept 2
    have hone : (1 : ℚ) ≤ n := by linarith
    exact hbrief.le.trans (hhalf.trans (le_mul_of_one_le_left (pow_pos kept_pos 2).le hone))

end IsFit

end BucketLimit

namespace Bucket

open BucketLimit

variable {l : BucketLimit Float} {b : Option (Bucket Float)} {now t : Instant} {cost : Float}

/-- The bucket is short of a cost that its limit could let in, and what it is left with is a number. -/
structure Denied (b : Option (Bucket Float)) (now : Instant) (l : BucketLimit Float) (cost : Float) :
    Prop where
  fit : l.fault? = none
  isCost : BucketLimit.isCost cost = true
  le_capacity : cost ≤ l.capacity
  denied : (consume b now l cost).2.success = false
  isNumber : (consume b now l cost).1.tokens.isNaN = false

/-- Whether the same request, asked next and at `t`, passes. -/
def passesAgain (b : Option (Bucket Float)) (now : Instant) (l : BucketLimit Float) (cost : Float)
    (t : Instant) : Bool :=
  (consume (some (consume b now l cost).1) t l cost).2.success

theorem consume_of_denied (h : (consume b now l cost).2.success = false) :
    (consume b now l cost).1 = ⟨refilled b now l, now⟩ ∧
      (consume b now l cost).2.resetAt =
        now.laterMillis (l.millisToAccrue (cost - refilled b now l)) := by
  unfold consume outcome recovery at *
  dsimp only at *
  rw [h]
  exact ⟨rfl, rfl⟩

namespace Denied

variable (h : Denied b now l cost)

include h

theorem isFit : l.IsFit := isFit_of_fault? h.fit

theorem cost_nonneg : 0 ≤ cost := of_decide_eq_true (Bool.and_eq_true_iff.1 h.isCost).2

theorem refilled_nonneg : 0 ≤ refilled b now l := by
  have hnan := h.isNumber
  rw [(consume_of_denied h.denied).1] at hnan
  exact (refilled_bounds h.isFit b now hnan).1

theorem refilled_lt : refilled b now l < cost := by
  rw [← not_le_iff h.cost_nonneg h.refilled_nonneg]
  intro hle
  have hpassed := success_eq_true_iff.2 ⟨h.cost_nonneg, hle⟩
  rw [h.denied] at hpassed
  cases hpassed

theorem millis_nonneg : 0 ≤ l.millisToAccrue (cost - refilled b now l) := by
  obtain ⟨hrounds, hle⟩ := h.isFit.shortfall_rounds h.refilled_nonneg h.refilled_lt h.le_capacity
  exact h.isFit.millisToAccrue_nonneg hrounds.nonneg hle

/-- It passes again just if the tokens that were left and those that flow in since cover the cost. -/
theorem passesAgain_iff : passesAgain b now l cost t = true ↔
    cost ≤ refilled b now l + l.inflow (t.millisSince now) := by
  have hsum := add_rounds h.refilled_nonneg (h.isFit.inflow_nonneg (t.millisSince now))
  unfold passesAgain
  rw [(consume_of_denied h.denied).1, success_eq_true_iff, refilled_some_eq,
    le_clampAmount_iff h.cost_nonneg h.le_capacity hsum.nonneg]
  exact and_iff_right h.cost_nonneg

/-- Once so many milliseconds have passed as cover the cost, it passes. -/
theorem passesAgain_of_covered {n : ℕ} (hcovered : cost ≤ refilled b now l + l.inflow n)
    (hle : n ≤ t.millisSince now) : passesAgain b now l cost t = true := by
  have hsize : t.millisSince now < UInt64.size := (Instant.millisSince_lt now t).trans (by decide)
  rw [h.passesAgain_iff]
  exact le_trans_of_nonneg h.cost_nonneg hcovered
    (add_le_add_left_of_nonneg h.refilled_nonneg (h.isFit.inflow_nonneg n) (h.isFit.inflow_le hle hsize))

/-- After a millisecond more than was named, what was missing has flowed in. -/
theorem passesAgain_of_lt (hlt : l.millisToAccrue (cost - refilled b now l) < t.millisSince now) :
    passesAgain b now l cost t = true := by
  have hmillis := h.millis_nonneg
  have hx := h.refilled_nonneg
  obtain ⟨n, hn⟩ := Int.eq_ofNat_of_zero_le
    (show 0 ≤ l.millisToAccrue (cost - refilled b now l) + 1 by omega)
  have hshort := h.isFit.shortfall_le_inflow hx h.refilled_lt h.le_capacity hn
  have hsum := add_rounds hx (h.isFit.inflow_nonneg n)
  have hcovered : cost ≤ refilled b now l + l.inflow n := by
    rw [le_iff h.cost_nonneg hsum.nonneg]
    exact hsum.nearest.ge_of_ge (isDouble_value cost) (by linarith)
  exact h.passesAgain_of_covered hcovered (by omega)

theorem resetAt_inLeapSecond (hnow : now.inLeapSecond = false) :
    (consume b now l cost).2.resetAt.inLeapSecond = false := by
  rw [(consume_of_denied h.denied).2]
  exact (Instant.laterMillis_of_not_leap h.millis_nonneg hnow).1

/-- Outside leap seconds, the time passed since the denial is that until the time it names and since. -/
theorem millisSince_eq_add (hnow : now.inLeapSecond = false) (ht : t.inLeapSecond = false)
    (hrange : (consume b now l cost).2.resetAt < .latest)
    (hle : (consume b now l cost).2.resetAt ≤ t) :
    (t.millisSince now : Int) = l.millisToAccrue (cost - refilled b now l) +
      t.millisSince (consume b now l cost).2.resetAt := by
  rw [(consume_of_denied h.denied).2] at *
  exact Instant.millisSince_of_laterMillis_le h.millis_nonneg hnow ht hrange hle

end Denied

/-- The time that a denial names can be relied on just if the same request passes at that time itself, and
from a millisecond later on, it always passes. -/
theorem retry_honoured_iff (h : Denied b now l cost) (hnow : now.inLeapSecond = false)
    (hrange : (consume b now l cost).2.resetAt < .latest) :
    ((∀ t, (consume b now l cost).2.resetAt ≤ t → t.inLeapSecond = false →
        passesAgain b now l cost t = true) ↔
      passesAgain b now l cost (consume b now l cost).2.resetAt = true) ∧
    ∀ t, t.inLeapSecond = false → 1 ≤ t.millisSince (consume b now l cost).2.resetAt →
      passesAgain b now l cost t = true := by
  have hleap := h.resetAt_inLeapSecond hnow
  refine ⟨⟨fun hall => hall _ (Instant.le_refl _) hleap, fun hpasses t hle ht => ?_⟩,
    fun t ht hlater => ?_⟩
  · have hwait := h.millisSince_eq_add hnow hleap hrange (Instant.le_refl _)
    have hwait' := h.millisSince_eq_add hnow ht hrange hle
    rw [Instant.millisSince_self] at hwait
    exact h.passesAgain_of_covered (h.passesAgain_iff.1 hpasses) (by omega)
  · have hle : (consume b now l cost).2.resetAt ≤ t := by
      rw [Instant.millisSince_eq hleap ht] at hlater
      rw [Instant.le_iff_ns_le (Instant.nanos_lt_of_not_leap hleap) (Instant.nanos_lt_of_not_leap ht)]
      omega
    have hwait := h.millisSince_eq_add hnow ht hrange hle
    exact h.passesAgain_of_lt (by omega)

/-- An empty bucket that a token flows into every second: asked for one, it names the next second, and the
time can be relied on. -/
theorem retry_honoured_after_second :
    let l : BucketLimit Float := ⟨1, 1, 1000⟩
    let b : Option (Bucket Float) := some ⟨0, .epoch⟩
    (consume b .epoch l 1).2.resetAt = Instant.epoch.laterMillis 1000 ∧
      (∀ t, Instant.epoch.laterMillis 1000 ≤ t → t.inLeapSecond = false →
        passesAgain b .epoch l 1 t = true) ∧
      passesAgain b .epoch l 1 (Instant.epoch.laterMillis 1001) = true := by
  intro l b
  have hdenied : Denied b .epoch l 1 := by constructor <;> decide +kernel
  have hresetAt : (consume b .epoch l 1).2.resetAt = Instant.epoch.laterMillis 1000 := by decide +kernel
  obtain ⟨hiff, hlater⟩ := retry_honoured_iff hdenied rfl (by rw [hresetAt]; decide)
  rw [hresetAt] at hiff hlater
  exact ⟨hresetAt, hiff.2 (by decide +kernel), hlater _ (by decide) (by decide)⟩

/-- Forty-nine tokens in as many milliseconds are one in each. But in doubles a forty-ninth times
forty-nine is short of one, and so is the bucket a millisecond after it was empty, the time named for one
token. -/
theorem retry_fails_by_rounding :
    ¬∀ (l : BucketLimit Float) (b : Option (Bucket Float)) (now : Instant) (cost : Float),
      Denied b now l cost → (consume b now l cost).2.resetAt < .latest →
        ∀ t, (consume b now l cost).2.resetAt ≤ t → passesAgain b now l cost t = true := by
  intro h
  have hdenied : Denied (some ⟨0, .epoch⟩) .epoch ⟨1, 49, 49⟩ 1 := by constructor <;> decide +kernel
  have hpasses := h _ _ _ _ hdenied (by decide +kernel) (Instant.epoch.laterMillis 1) (by decide +kernel)
  revert hpasses
  decide +kernel

end Bucket

end Latchkey
