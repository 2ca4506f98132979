import Mathlib.Algebra.Order.Archimedean.Basic
import Mathlib.Algebra.Order.Round
import Mathlib.Data.Rat.Floor
import Mathlib.Tactic.Linarith
import Mathlib.Tactic.Positivity
import Mathlib.Tactic.Ring
/-!
# The doubles closest to an exact result

A double that is not negative stands for a whole number up to 2^53 times a power of two, and an
infinite one is taken for 2^1024, the first number that is too large. The result of an operation is a
double that no other is closer to the exact result than. This alone makes rounding keep the order of
exact results, leave doubles as they are, and lose no more than one part in 2^53, except where results
are so small that doubles are whole multiples of 2^-1074.
-/

namespace Latchkey.Binary64

/-! ### Powers of two -/

/-- What the binary digit at the place `e` counts. -/
def weight (e : ℤ) : ℚ := 2 ^ e

theorem weight_pos (e : ℤ) : 0 < weight e := zpow_pos two_pos e

theorem weight_add (d e : ℤ) : weight (d + e) = weight d * weight e := zpow_add₀ two_ne_zero d e

@[simp] theorem weight_natCast (n : ℕ) : weight n = (2 ^ n : ℕ) := by
  unfold weight
  push_cast
  exact zpow_natCast 2 n

@[simp] theorem weight_zero : weight 0 = 1 := zpow_zero 2

theorem weight_neg_one : weight (-1) = 1 / 2 := by
  unfold weight
  norm_num

theorem weight_le_iff {d e : ℤ} : weight d ≤ weight e ↔ d ≤ e :=
  zpow_le_zpow_iff_right₀ one_lt_two

theorem weight_lt_iff {d e : ℤ} : weight d < weight e ↔ d < e :=
  zpow_lt_zpow_iff_right₀ one_lt_two

theorem weight_eq_mul {d e f : ℤ} (h : f = d + e) : weight f = weight d * weight e := by
  rw [h, weight_add]

/-- The place of the first digit. -/
theorem exists_weight_le {q : ℚ} (h : 0 < q) : ∃ n : ℤ, weight n ≤ q ∧ q < weight (n + 1) := by
  obtain ⟨n, hn, hn'⟩ := exists_mem_Ico_zpow h (one_lt_two (α := ℚ))
  exact ⟨n, hn, hn'⟩

attribute [irreducible] weight

/-! ### Doubles -/

/-- The numbers that doubles which are not negative stand for. -/
def IsDouble (z : ℚ) : Prop :=
  ∃ (k : ℕ) (e : ℤ), k ≤ 2 ^ 53 ∧ -1074 ≤ e ∧ e ≤ 971 ∧ z = k * weight e

/-- No double is closer to `q` than `y` is. -/
structure Nearest (y q : ℚ) : Prop where
  isDouble : IsDouble y
  le_abs : ∀ z, IsDouble z → |y - q| ≤ |z - q|

variable {y y' q q' z : ℚ}

theorem IsDouble.nonneg (h : IsDouble z) : 0 ≤ z := by
  obtain ⟨k, e, -, -, -, rfl⟩ := h
  have := weight_pos e
  positivity

theorem natCast_mul_weight_le {k : ℕ} {e f : ℤ} (hk : k ≤ 2 ^ 53) (he : 53 + e ≤ f) :
    k * weight e ≤ weight f := by
  have hk' : (k : ℚ) ≤ weight (53 : ℕ) := by
    rw [weight_natCast]
    exact_mod_cast hk
  calc (k : ℚ) * weight e ≤ weight (53 : ℕ) * weight e :=
        mul_le_mul_of_nonneg_right hk' (weight_pos e).le
    _ = weight (53 + e) := (weight_add _ _).symm
    _ ≤ weight f := weight_le_iff.2 he

theorem natCast_mul_weight_lt {k : ℕ} {e f : ℤ} (hk : k < 2 ^ 53) (he : 53 + e ≤ f) :
    k * weight e < weight f := by
  have hk' : (k : ℚ) < weight (53 : ℕ) := by
    rw [weight_natCast]
    exact_mod_cast hk
  calc (k : ℚ) * weight e < weight (53 : ℕ) * weight e := mul_lt_mul_of_pos_right hk' (weight_pos e)
    _ = weight (53 + e) := (weight_add _ _).symm
    _ ≤ weight f := weight_le_iff.2 he

theorem IsDouble.le (h : IsDouble z) : z ≤ weight 1024 := by
  obtain ⟨k, e, hk, -, he, rfl⟩ := h
  exact natCast_mul_weight_le hk (by omega)

theorem isDouble_zero : IsDouble 0 := ⟨0, 0, by decide, by decide, by decide, by simp⟩

theorem isDouble_natCast {n : ℕ} (h : n ≤ 2 ^ 53) : IsDouble n :=
  ⟨n, 0, h, by decide, by decide, by simp⟩

theorem isDouble_weight_1024 : IsDouble (weight 1024) := by
  refine ⟨2 ^ 53, 971, le_rfl, by decide, le_rfl, ?_⟩
  rw [← weight_natCast]
  exact weight_eq_mul rfl

/-- Above `2 ^ (52 + e)`, doubles are whole multiples of `2 ^ e`, and all are of the least one. -/
theorem IsDouble.multiple {e : ℤ} (h : IsDouble z) (hz : e = -1074 ∨ weight (52 + e) < z) :
    ∃ k : ℕ, z = k * weight e := by
  obtain ⟨k, f, hk, hf, hf', rfl⟩ := h
  rcases le_or_gt e f with hle | hlt
  · obtain ⟨d, rfl⟩ := Int.exists_add_of_le hle
    refine ⟨k * 2 ^ d, ?_⟩
    rw [weight_add, weight_natCast]
    push_cast
    ring
  · exfalso
    rcases hz with rfl | hz
    · omega
    · exact absurd hz (not_lt.2 (natCast_mul_weight_le hk (by omega)))

/-- So far down, all multiples of the least double are doubles. -/
theorem isDouble_of_small {k : ℕ} (h : k * weight (-1074) ≤ weight (-1022)) :
    IsDouble (k * weight (-1074)) := by
  refine ⟨k, -1074, ?_, le_rfl, by decide, rfl⟩
  have hsplit : weight (-1022) = (2 ^ 52 : ℕ) * weight (-1074) := by
    rw [← weight_natCast]
    exact weight_eq_mul rfl
  rw [hsplit, mul_le_mul_iff_of_pos_right (weight_pos _)] at h
  have hk : k ≤ 2 ^ 52 := mod_cast h
  omega

/-! ### Closest doubles -/

theorem IsDouble.nearest (h : IsDouble z) : Nearest z z :=
  ⟨h, fun z' _ => by rw [sub_self, abs_zero]; exact abs_nonneg _⟩

namespace Nearest

theorem le_of_le (h : Nearest y q) (hz : IsDouble z) (hle : q ≤ z) : y ≤ z := by
  by_contra hlt
  have hcloser := h.le_abs z hz
  rw [abs_of_nonneg (by linarith), abs_of_nonneg (by linarith)] at hcloser
  linarith

theorem ge_of_ge (h : Nearest y q) (hz : IsDouble z) (hle : z ≤ q) : z ≤ y := by
  by_contra hlt
  have hcloser := h.le_abs z hz
  rw [abs_of_nonpos (by linarith), abs_of_nonpos (by linarith)] at hcloser
  linarith

theorem eq_of_isDouble (h : Nearest y q) (hq : IsDouble q) : y = q :=
  le_antisymm (h.le_of_le hq le_rfl) (h.ge_of_ge hq le_rfl)

theorem eq_of_overflow (h : Nearest y q) (hq : weight 1024 ≤ q) : y = weight 1024 :=
  le_antisymm h.isDouble.le (h.ge_of_ge isDouble_weight_1024 hq)

theorem lt_of_lt (h : Nearest y q) (hlt : y < weight 1024) : q < weight 1024 :=
  lt_of_not_ge fun hq => hlt.ne (h.eq_of_overflow hq)

/-- Of two exact results, the larger one is not rounded to less. -/
theorem mono (h : Nearest y q) (h' : Nearest y' q') (hlt : q < q') : y ≤ y' := by
  by_contra hgt
  have hcloser := h.le_abs y' h'.isDouble
  have hcloser' := h'.le_abs y h.isDouble
  rcases abs_cases (y - q) with ⟨h₁, _⟩ | ⟨h₁, _⟩ <;>
    rcases abs_cases (y' - q) with ⟨h₂, _⟩ | ⟨h₂, _⟩ <;>
    rcases abs_cases (y' - q') with ⟨h₃, _⟩ | ⟨h₃, _⟩ <;>
    rcases abs_cases (y - q') with ⟨h₄, _⟩ | ⟨h₄, _⟩ <;> linarith

end Nearest

theorem abs_mul_weight_sub (x q : ℚ) (e : ℤ) :
    |x * weight e - q| = |x - q / weight e| * weight e := by
  have hpos := weight_pos e
  rw [← abs_of_pos hpos, ← abs_mul, abs_of_pos hpos, sub_mul, div_mul_cancel₀ _ hpos.ne']

/-- Where doubles are spaced `2 ^ e` apart, a closest whole multiple of that is a closest double. -/
theorem nearest_of_scaled {n : ℕ} {e : ℤ} (hlow : -1074 ≤ e) (hhigh : e ≤ 971) (hn : n ≤ 2 ^ 53)
    (hq : e = -1074 ∨ weight (52 + e) ≤ q) (hclose : |n - q / weight e| ≤ 1 / 2) :
    Nearest (n * weight e) q := by
  have hmultiple : ∀ k : ℕ, |n * weight e - q| ≤ |k * weight e - q| := fun k => by
    rw [abs_mul_weight_sub, abs_mul_weight_sub, mul_le_mul_iff_of_pos_right (weight_pos e)]
    rcases eq_or_ne k n with rfl | hne
    · exact le_rfl
    · have hapart : (1 : ℚ) ≤ |(k : ℚ) - n| := by
        have hint : (1 : ℤ) ≤ |(k : ℤ) - n| := Int.one_le_abs (by omega)
        exact_mod_cast hint
      have htriangle := abs_sub_le (k : ℚ) (q / weight e) n
      rw [abs_sub_comm (q / weight e)] at htriangle
      linarith
  refine ⟨⟨n, e, hn, hlow, hhigh, rfl⟩, fun z hz => ?_⟩
  rcases hq with rfl | hq
  · obtain ⟨k, rfl⟩ := hz.multiple (.inl rfl)
    exact hmultiple k
  · rcases lt_or_ge (weight (52 + e)) z with hlt | hge
    · obtain ⟨k, rfl⟩ := hz.multiple (.inr hlt)
      exact hmultiple k
    · -- What lies below the range with this spacing is no closer than where the range starts.
      have hstart := hmultiple (2 ^ 52)
      rw [← weight_natCast, ← weight_add] at hstart
      change _ ≤ |weight (52 + e) - q| at hstart
      rw [abs_of_nonpos (by linarith : weight (52 + e) - q ≤ 0)] at hstart
      rw [abs_of_nonpos (by linarith : z - q ≤ 0)]
      linarith

theorem nearest_of_overflow (hq : weight 1024 ≤ q) : Nearest (weight 1024) q := by
  refine ⟨isDouble_weight_1024, fun z hz => ?_⟩
  have hle := hz.le
  rw [abs_of_nonpos (by linarith), abs_of_nonpos (by linarith)]
  linarith

/-- A double at most half of the spacing away from `q`, if doubles are spaced `2 ^ e` apart there. -/
theorem exists_isDouble_near {e : ℤ} (hlow : -1074 ≤ e) (hhigh : e ≤ 971) (hq : 0 ≤ q)
    (hq' : q < weight (53 + e)) : ∃ z, IsDouble z ∧ |z - q| ≤ 1 / 2 * weight e := by
  have hpos := weight_pos e
  have hround := abs_sub_round (q / weight e)
  have hnonneg : 0 ≤ round (q / weight e) := by
    rw [round_eq]
    exact Int.floor_nonneg.2 (by positivity)
  obtain ⟨k, hk⟩ := Int.eq_ofNat_of_zero_le hnonneg
  rw [hk, Int.cast_natCast, abs_sub_comm] at hround
  have hscaled : q / weight e < (2 ^ 53 : ℕ) := by
    rw [← weight_natCast, div_lt_iff₀ hpos, ← weight_add]
    exact hq'
  have hbound : ∀ n : ℕ, q / weight e < n → k ≤ n := fun n hn => by
    have hlt : (k : ℚ) < n + 1 := by
      have hle := (abs_le.1 hround).2
      linarith
    exact Nat.lt_succ_iff.1 (by exact_mod_cast hlt)
  refine ⟨k * weight e, ⟨k, e, hbound _ hscaled, hlow, hhigh, rfl⟩, ?_⟩
  rw [abs_mul_weight_sub]
  exact mul_le_mul_of_nonneg_right hround hpos.le

/-- All but one part in 2^53. -/
def kept : ℚ := 1 - weight (-53)

theorem kept_lt_one : kept < 1 := sub_lt_self 1 (weight_pos _)

theorem half_le_kept : 1 / 2 ≤ kept := by
  have hunit : weight (-53) ≤ weight (-1) := weight_le_iff.2 (by decide)
  rw [weight_neg_one] at hunit
  unfold kept
  linarith

theorem kept_pos : 0 < kept := one_half_pos.trans_le half_le_kept

theorem mul_kept_le_self (hq : 0 ≤ q) : q * kept ≤ q := mul_le_of_le_one_right hq kept_lt_one.le

/-- In the range of normal doubles, not more than one part in 2^53 is lost. -/
theorem Nearest.le_of_normal (h : Nearest y q) (hlow : weight (-1022) ≤ q)
    (hhigh : q ≤ weight 1024) : q * kept ≤ y := by
  have hpos : 0 < q := lt_of_lt_of_le (weight_pos _) hlow
  rcases eq_or_lt_of_le hhigh with heq | hlt
  · rw [h.eq_of_overflow heq.ge, ← heq]
    exact mul_kept_le_self hpos.le
  · obtain ⟨n, hn, hn'⟩ := exists_weight_le hpos
    have hnlow := weight_lt_iff.1 (lt_of_le_of_lt hlow hn')
    have hnhigh := weight_lt_iff.1 (lt_of_le_of_lt hn hlt)
    obtain ⟨z, hz, hnear⟩ := exists_isDouble_near (e := n - 52) (by omega) (by omega) hpos.le
      (by rwa [show 53 + (n - 52) = n + 1 by omega])
    have hclose := (h.le_abs z hz).trans hnear
    have hhalf : 1 / 2 * weight (n - 52) = weight n * weight (-53) := by
      have hplace : -1 + (n - 52) = n + -53 := by ring
      rw [← weight_neg_one, ← weight_add, ← weight_add, hplace]
    have hunit : weight n * weight (-53) ≤ q * weight (-53) :=
      mul_le_mul_of_nonneg_right hn (weight_pos _).le
    have hbelow := (abs_le.1 hclose).1
    unfold kept
    linarith

/-- What is known to be below a finite exact result is lost from by no more than the result itself. -/
theorem Nearest.mul_kept_le {w : ℚ} (h : Nearest y q) (hfinite : y < weight 1024)
    (hlow : weight (-1022) ≤ w) (hle : w ≤ q) : w * kept ≤ y :=
  (mul_le_mul_of_nonneg_right hle kept_pos.le).trans
    (h.le_of_normal (hlow.trans hle) (h.lt_of_lt hfinite).le)

/-- A difference of doubles is a whole multiple of the least one. -/
theorem IsDouble.sub_multiple (h : IsDouble y) (h' : IsDouble z) (hle : z ≤ y) :
    ∃ k : ℕ, y - z = k * weight (-1074) := by
  obtain ⟨k, rfl⟩ := h.multiple (.inl rfl)
  obtain ⟨k', rfl⟩ := h'.multiple (.inl rfl)
  rw [mul_le_mul_iff_of_pos_right (weight_pos _)] at hle
  refine ⟨k - k', ?_⟩
  rw [Nat.cast_sub (Nat.cast_le.1 hle), sub_mul]

/-- Of a whole multiple of the least double, not more than one part in 2^53 is lost. -/
theorem Nearest.le_of_multiple {k : ℕ} (h : Nearest y (k * weight (-1074)))
    (hhigh : k * weight (-1074) ≤ weight 1024) : k * weight (-1074) * kept ≤ y := by
  rcases le_total (weight (-1022)) (k * weight (-1074)) with hnormal | hsmall
  · exact h.le_of_normal hnormal hhigh
  · have hdouble := isDouble_of_small hsmall
    rw [h.eq_of_isDouble hdouble]
    exact mul_kept_le_self hdouble.nonneg

/-- If the exact result has one part in 2^53 to spare over a whole multiple of the least double, its
closest double is not below that. -/
theorem Nearest.multiple_le {k : ℕ} (h : Nearest y q) (hhigh : k * weight (-1074) ≤ weight 1024)
    (hspare : k * weight (-1074) ≤ q * kept) : k * weight (-1074) ≤ y := by
  have hq : 0 ≤ q := by
    have hpos := weight_pos (-1074)
    exact nonneg_of_mul_nonneg_left (le_trans (by positivity) hspare) kept_pos
  rcases le_or_gt (weight 1024) q with hoverflow | hlt
  · rw [h.eq_of_overflow hoverflow]
    exact hhigh
  · rcases le_or_gt (weight (-1022)) q with hnormal | hlow
    · exact hspare.trans (h.le_of_normal hnormal hlt.le)
    · have hle := hspare.trans (mul_kept_le_self hq)
      exact h.ge_of_ge (isDouble_of_small (hle.trans hlow.le)) hle

end Latchkey.Binary64
