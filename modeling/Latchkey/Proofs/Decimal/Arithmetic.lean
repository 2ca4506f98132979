import Latchkey.Proofs.Decimal.Rounding
/-!
# Arithmetic of doubles that are not negative

Sums, products, quotients, differences that are not negative and conversions of integers all give a
closest double to the exact result. So they keep the order of their operands.
-/

namespace Latchkey.Binary64

open Float.Model (UnpackedFloat Format totalExponent)
open Float.Model.UnpackedFloat

/-! ### Normalizing -/

/-- Digits that are appended count for what they did before. -/
theorem shiftLeft_mul_weight (m k : ℕ) (e : ℤ) :
    ((m <<< k : ℕ) : ℚ) * weight (e - k) = m * weight e := by
  have hsplit : weight e = weight k * weight (e - k) := weight_eq_mul (by omega)
  rw [Nat.shiftLeft_eq, hsplit, weight_natCast]
  push_cast
  ring

theorem decreaseExponent_mul_weight (m : ℕ) {e e' : ℤ} (h : e' ≤ e) :
    ((decreaseExponent m e e').1 : ℚ) * weight e' = m * weight e := by
  have hplace : e' = e - (e - e').toNat := by omega
  have hshift := shiftLeft_mul_weight m (e - e').toNat e
  rw [← hplace] at hshift
  exact hshift

theorem log2_shiftLeft {m : ℕ} (hm : 0 < m) (k : ℕ) : (m <<< k).log2 = m.log2 + k := by
  rw [Nat.shiftLeft_eq, Nat.log2_eq_iff (Nat.mul_pos hm (Nat.two_pow_pos k)).ne', Nat.pow_add,
    show m.log2 + k + 1 = m.log2 + 1 + k by omega, Nat.pow_add]
  exact ⟨Nat.mul_le_mul_right _ (Nat.log2_self_le hm.ne'),
    Nat.mul_lt_mul_of_pos_right Nat.lt_log2_self (Nat.two_pow_pos k)⟩

theorem packsNearest_round {m : ℕ} (hm : 0 < m) (e : ℤ) :
    PacksNearest (UnpackedFloat.round .binary64 .positive m e) (m * weight e) := by
  change PacksNearest (roundWithAccuracy .binary64 .positive (m <<< (e - lastPlace m e).toNat)
    (e - (e - lastPlace m e).toNat) .exact) _
  refine packsNearest_roundWithAccuracy ?_ ?_
  · rw [← shiftLeft_mul_weight m (e - lastPlace m e).toNat, mul_div_cancel_right₀ _ (weight_pos _).ne']
    exact represents_exact _
  · have hplace := lastPlace_eq m e
    rw [lastPlace_eq (m <<< _), log2_shiftLeft hm]
    push_cast
    omega

theorem packsNearest_zero (s : Sign) : PacksNearest (.zero s) 0 :=
  packsNearest_of_canonical trivial trivial isDouble_zero.nearest

theorem packsNearest_normalize (m : ℕ) (e : ℤ) (s : Sign) :
    PacksNearest (UnpackedFloat.normalize .binary64 m e s) (m * weight e) := by
  unfold UnpackedFloat.normalize
  rcases Nat.eq_zero_or_pos m with rfl | hm
  · rw [Nat.cast_zero, Nat.cast_zero, zero_mul]
    exact packsNearest_zero s
  · have hcompare : compare (m : ℤ) 0 = .gt := compare_gt_iff_gt.2 (Int.natCast_pos.2 hm)
    rw [hcompare]
    exact packsNearest_round hm e

/-! ### Operations on unpacked doubles -/

theorem packsNearest_self {u : UnpackedFloat} (hu : IsNonneg u) (hu' : Canonical u) :
    PacksNearest u (magnitude u) :=
  packsNearest_of_canonical hu' hu (isDouble_magnitude hu').nearest

theorem packsNearest_infinity {q : ℚ} (hq : weight 1024 ≤ q) : PacksNearest (.infinity .positive) q :=
  packsNearest_of_canonical trivial rfl (nearest_of_overflow hq)

section Finite

variable {m m' : ℕ} {e e' : ℤ} (hm : 0 < m) (hm' : 0 < m')

theorem add_packsNearest_finite :
    PacksNearest (UnpackedFloat.add .binary64 (.finite .positive m e hm) (.finite .positive m' e' hm'))
      (m * weight e + m' * weight e') := by
  have hsum := packsNearest_normalize
    ((decreaseExponent m e (min e e')).1 + (decreaseExponent m' e' (min e e')).1) (min e e') .positive
  rw [Nat.cast_add, Nat.cast_add, add_mul, decreaseExponent_mul_weight m (min_le_left _ _),
    decreaseExponent_mul_weight m' (min_le_right _ _)] at hsum
  exact hsum

theorem sub_packsNearest_finite (hle : m' * weight e' ≤ m * weight e) :
    PacksNearest (UnpackedFloat.sub .binary64 (.finite .positive m e hm) (.finite .positive m' e' hm'))
      (m * weight e - m' * weight e') := by
  have hdigits := decreaseExponent_mul_weight m (min_le_left e e')
  have hdigits' := decreaseExponent_mul_weight m' (min_le_right e e')
  have hle' : (decreaseExponent m' e' (min e e')).1 ≤ (decreaseExponent m e (min e e')).1 := by
    rw [← hdigits, ← hdigits', mul_le_mul_iff_of_pos_right (weight_pos _)] at hle
    exact_mod_cast hle
  have hdifference := packsNearest_normalize
    ((decreaseExponent m e (min e e')).1 - (decreaseExponent m' e' (min e e')).1) (min e e') .positive
  rw [Nat.cast_sub hle', Nat.cast_sub hle', sub_mul, hdigits, hdigits'] at hdifference
  exact hdifference

theorem mul_packsNearest_finite (h : HasDigits m e) (h' : HasDigits m' e') :
    PacksNearest (UnpackedFloat.mul .binary64 (.finite .positive m e hm) (.finite .positive m' e' hm'))
      (m * weight e * (m' * weight e')) := by
  refine packsNearest_roundWithAccuracy ?_ ?_
  · have hproduct : m * weight e * (m' * weight e') / weight (e + e') = (m * m' : ℕ) := by
      rw [weight_add, mul_mul_mul_comm,
        mul_div_cancel_right₀ _ (mul_pos (weight_pos e) (weight_pos e')).ne', Nat.cast_mul]
    rw [hproduct]
    exact represents_exact _
  · -- If the places are not too low as they are, one of the factors has all of its digits.
    have hlow := h.least_le
    have hlow' := h'.least_le
    rw [lastPlace_eq]
    by_cases hplace : e + e' ≤ -1074
    · omega
    · have hfull : 2 ^ 52 ≤ m * m' := by
        rcases h.full with hfull | hleast
        · exact hfull.trans (Nat.le_mul_of_pos_right m hm')
        · exact (h'.full.resolve_right (by omega)).trans (Nat.le_mul_of_pos_left m' hm)
      have hlog := (Nat.le_log2 (Nat.mul_pos hm hm').ne').2 hfull
      omega

/-- A quotient at the place `p` has all of its digits, unless the place is low enough as it is. -/
theorem quotient_digits (hm : 0 < m) (hm' : 0 < m') (h : m < 2 ^ 53) {p : ℤ} (hp : -1074 < p)
    (hplace : p = min (e - e') (max (m.log2 + 1 + e - (m'.log2 + 1 + e') - 53) (-1074))) :
    2 ^ 52 ≤ m <<< (e - e' - p).toNat / m' := by
  have hlog := (Nat.log2_lt hm.ne').2 h
  have hshift : (e - e' - p).toNat + m.log2 = 52 + (m'.log2 + 1) := by omega
  rw [Nat.le_div_iff_mul_le hm', Nat.shiftLeft_eq]
  calc 2 ^ 52 * m' ≤ 2 ^ 52 * 2 ^ (m'.log2 + 1) := Nat.mul_le_mul_left _ Nat.lt_log2_self.le
    _ = 2 ^ m.log2 * 2 ^ (e - e' - p).toNat := by
        rw [← Nat.pow_add, ← Nat.pow_add, ← hshift, Nat.add_comm]
    _ ≤ m * 2 ^ (e - e' - p).toNat := Nat.mul_le_mul_right _ (Nat.log2_self_le hm.ne')

theorem div_packsNearest_finite (h : m < 2 ^ 53) :
    PacksNearest (UnpackedFloat.div .binary64 (.finite .positive m e hm) (.finite .positive m' e' hm'))
      (m * weight e / (m' * weight e')) := by
  obtain ⟨p, hplace⟩ : ∃ p, p = min (e - e') (Format.binary64.targetExponent
    (totalExponent m e - totalExponent m' e')) := ⟨_, rfl⟩
  change PacksNearest (roundWithAccuracy .binary64 .positive (m <<< (e - e' - min (e - e') _).toNat / m')
    (min (e - e') _) (accuracyOfFraction (m <<< (e - e' - min (e - e') _).toNat % m') m')) _
  rw [← hplace]
  refine packsNearest_roundWithAccuracy ?_ ?_
  · have hquotient : m * weight e / (m' * weight e') / weight p =
        (m <<< (e - e' - p).toNat : ℕ) / (m' : ℚ) := by
      have hpos' : (0 : ℚ) < m' := Nat.cast_pos.2 hm'
      have hplaces : e - (e - e' - p).toNat = e' + p := by omega
      rw [div_div, mul_assoc, ← weight_add, ← shiftLeft_mul_weight m (e - e' - p).toNat e, hplaces,
        mul_div_mul_right _ _ (weight_pos _).ne']
    rw [hquotient]
    exact represents_div _ hm'
  · rw [lastPlace_eq]
    by_cases hlow : p ≤ -1074
    · omega
    · have hfull := quotient_digits hm hm' h (by omega) hplace
      have hlog := (Nat.le_log2 (by omega)).2 hfull
      omega

end Finite

section Operations

variable {u v : UnpackedFloat} (hu : IsNonneg u) (hv : IsNonneg v) (hu' : Canonical u) (hv' : Canonical v)

include hu hv hu' hv'

theorem add_packsNearest :
    PacksNearest (UnpackedFloat.add .binary64 u v) (magnitude u + magnitude v) := by
  have hu0 := (isDouble_magnitude hu').nonneg
  have hv0 := (isDouble_magnitude hv').nonneg
  cases hu using IsNonneg.cases with
  | infinity =>
      cases hv using IsNonneg.cases with
      | infinity | zero | finite => exact packsNearest_infinity (le_add_of_nonneg_right hv0)
  | zero s =>
      cases hv using IsNonneg.cases with
      | infinity => exact packsNearest_infinity (le_add_of_nonneg_left hu0)
      | zero s' =>
          have hsum : UnpackedFloat.add .binary64 (.zero s) (.zero s') =
            if s == s' then .zero s else .zero .positive := rfl
          rw [hsum, magnitude_zero, magnitude_zero, add_zero]
          split <;> exact packsNearest_zero _
      | finite m e hm =>
          have hsum : UnpackedFloat.add .binary64 (.zero s) (.finite .positive m e hm) =
            .finite .positive m e hm := rfl
          rw [hsum, magnitude_zero, zero_add]
          exact packsNearest_self rfl hv'
  | finite m e hm =>
      cases hv using IsNonneg.cases with
      | infinity => exact packsNearest_infinity (le_add_of_nonneg_left hu0)
      | zero s =>
          have hsum : UnpackedFloat.add .binary64 (.finite .positive m e hm) (.zero s) =
            .finite .positive m e hm := rfl
          rw [hsum, magnitude_zero, add_zero]
          exact packsNearest_self rfl hu'
      | finite m' e' hm' => exact add_packsNearest_finite hm hm'

theorem sub_packsNearest (hle : magnitude v ≤ magnitude u) (hfinite : magnitude u < weight 1024) :
    PacksNearest (UnpackedFloat.sub .binary64 u v) (magnitude u - magnitude v) := by
  cases hv using IsNonneg.cases with
  | infinity => exact absurd (hle.trans_lt hfinite) (lt_irrefl _)
  | zero s' =>
      cases hu using IsNonneg.cases with
      | infinity => exact absurd hfinite (lt_irrefl _)
      | zero s =>
          have hdifference : UnpackedFloat.sub .binary64 (.zero s) (.zero s') =
            if s == -s' then .zero s else .zero .positive := rfl
          rw [hdifference, magnitude_zero, magnitude_zero, sub_zero]
          split <;> exact packsNearest_zero _
      | finite m e hm =>
          have hdifference : UnpackedFloat.sub .binary64 (.finite .positive m e hm) (.zero s') =
            .finite .positive m e hm := rfl
          rw [hdifference, magnitude_zero, sub_zero]
          exact packsNearest_self rfl hu'
  | finite m' e' hm' =>
      cases hu using IsNonneg.cases with
      | infinity => exact absurd hfinite (lt_irrefl _)
      | zero s => exact absurd hle (not_le.2 (magnitude_pos hm'))
      | finite m e hm => exact sub_packsNearest_finite hm hm' hle

/-- The first factor may be infinite if the other is not below one. -/
theorem mul_packsNearest (hfinite : magnitude u < weight 1024 ∨ 1 ≤ magnitude v)
    (hfinite' : magnitude v < weight 1024) :
    PacksNearest (UnpackedFloat.mul .binary64 u v) (magnitude u * magnitude v) := by
  cases hu using IsNonneg.cases with
  | infinity =>
      have hone := hfinite.resolve_left (lt_irrefl _)
      cases hv using IsNonneg.cases with
      | infinity => exact absurd hfinite' (lt_irrefl _)
      | zero s => exact absurd hone (not_le.2 one_pos)
      | finite m e hm => exact packsNearest_infinity (le_mul_of_one_le_right (weight_pos _).le hone)
  | zero s =>
      rw [magnitude_zero, zero_mul]
      cases hv using IsNonneg.cases with
      | infinity => exact absurd hfinite' (lt_irrefl _)
      | zero | finite => exact packsNearest_zero _
  | finite m e hm =>
      cases hv using IsNonneg.cases with
      | infinity => exact absurd hfinite' (lt_irrefl _)
      | zero s =>
          rw [magnitude_zero, mul_zero]
          exact packsNearest_zero _
      | finite m' e' hm' => exact mul_packsNearest_finite hm hm' hu'.1 hv'.1

theorem div_packsNearest (hfinite : magnitude u < weight 1024) (hfinite' : magnitude v < weight 1024)
    (hpos : 0 < magnitude v) :
    PacksNearest (UnpackedFloat.div .binary64 u v) (magnitude u / magnitude v) := by
  cases hv using IsNonneg.cases with
  | infinity => exact absurd hfinite' (lt_irrefl _)
  | zero s => exact absurd hpos (lt_irrefl _)
  | finite m' e' hm' =>
      cases hu using IsNonneg.cases with
      | infinity => exact absurd hfinite (lt_irrefl _)
      | zero s =>
          rw [magnitude_zero, zero_div]
          exact packsNearest_zero _
      | finite m e hm => exact div_packsNearest_finite hm hm' hu'.1.lt

end Operations

/-! ### Operations on doubles -/

/-- A double that is not negative and that no other is closer to `q` than. -/
structure Rounds (x : Float) (q : ℚ) : Prop where
  nonneg : 0 ≤ x
  nearest : Nearest (value x) q

theorem PacksNearest.rounds {u : UnpackedFloat} {q : ℚ} (h : PacksNearest u q) :
    Rounds ⟨Float.Model.pack u⟩ q :=
  ⟨zero_le_iff.2 h.1, h.2⟩

variable {x y : Float}

theorem add_rounds (hx : 0 ≤ x) (hy : 0 ≤ y) : Rounds (x + y) (value x + value y) :=
  (add_packsNearest (zero_le_iff.1 hx) (zero_le_iff.1 hy) (canonical x) (canonical y)).rounds

theorem sub_rounds (hy : 0 ≤ y) (hle : y ≤ x) (hfinite : x.isFinite = true) :
    Rounds (x - y) (value x - value y) := by
  have hx := nonneg_of_le hy hle
  exact (sub_packsNearest (zero_le_iff.1 hx) (zero_le_iff.1 hy) (canonical x) (canonical y)
    ((le_iff hy hx).1 hle) ((isFinite_iff hx).1 hfinite)).rounds

theorem sub_le_self_of_nonneg (hy : 0 ≤ y) (hle : y ≤ x) (hfinite : x.isFinite = true) : x - y ≤ x := by
  have hrounds := sub_rounds hy hle hfinite
  rw [le_iff hrounds.nonneg (nonneg_of_le hy hle)]
  exact hrounds.nearest.le_of_le (isDouble_value x) (sub_le_self _ (value_nonneg y))

theorem mul_rounds (hx : 0 ≤ x) (hy : Positive y) (hfinite : x.isFinite = true ∨ 1 ≤ value y) :
    Rounds (x * y) (value x * value y) :=
  (mul_packsNearest (zero_le_iff.1 hx) (zero_le_iff.1 hy.nonneg) (canonical x) (canonical y)
    (hfinite.imp_left (isFinite_iff hx).1) ((isFinite_iff hy.nonneg).1 hy.finite)).rounds

theorem div_rounds (hx : 0 ≤ x) (hfinite : x.isFinite = true) (hy : Positive y) :
    Rounds (x / y) (value x / value y) :=
  (div_packsNearest (zero_le_iff.1 hx) (zero_le_iff.1 hy.nonneg) (canonical x) (canonical y)
    ((isFinite_iff hx).1 hfinite) ((isFinite_iff hy.nonneg).1 hy.finite) hy.pos).rounds

theorem toFloat_rounds (n : UInt64) : Rounds n.toFloat n.toNat := by
  have hnearest := packsNearest_normalize n.toNat 0 .positive
  rw [weight_zero, mul_one] at hnearest
  exact hnearest.rounds

theorem value_toFloat {n : UInt64} (hn : n.toNat ≤ 2 ^ 53) : value n.toFloat = n.toNat :=
  (toFloat_rounds n).nearest.eq_of_isDouble (isDouble_natCast hn)

theorem isFinite_toFloat (n : UInt64) : n.toFloat.isFinite = true := by
  have hn := n.toNat_lt
  have hdouble : IsDouble (weight 64) :=
    ⟨1, 64, by decide, by decide, by decide, by rw [Nat.cast_one, one_mul]⟩
  have hle : (n.toNat : ℚ) ≤ weight (64 : ℕ) := by
    rw [weight_natCast]
    exact_mod_cast hn.le
  rw [isFinite_iff (toFloat_rounds n).nonneg]
  exact ((toFloat_rounds n).nearest.le_of_le hdouble hle).trans_lt (weight_lt_iff.2 (by decide))

/-! ### Order -/

/-- An operation that keeps the order of exact results keeps that of doubles. -/
theorem apply_le_apply {f : Float → Float} {g : ℚ → ℚ} (hg : StrictMono g) (hzero : IsDouble (g 0))
    (hx : 0 ≤ x) (hle : x ≤ y) (hfx : Rounds (f x) (g (value x))) (hfy : Rounds (f y) (g (value y))) :
    f x ≤ f y := by
  have hy := nonneg_of_le hx hle
  rw [le_iff hfx.nonneg hfy.nonneg]
  rcases ((le_iff hx hy).1 hle).lt_or_eq with hlt | heq
  · exact hfx.nearest.mono hfy.nearest (hg hlt)
  · rcases (value_nonneg x).lt_or_eq with hpos | hzero'
    · rw [eq_of_value_eq hx hy hpos heq]
    · -- Two zeros may differ in their signs, but the exact result is the same, and a double.
      rw [← hzero'] at heq hfx
      rw [← heq] at hfy
      rw [hfx.nearest.eq_of_isDouble hzero, hfy.nearest.eq_of_isDouble hzero]

theorem toFloat_le_toFloat {n m : UInt64} (h : n.toNat ≤ m.toNat) : n.toFloat ≤ m.toFloat := by
  rw [le_iff (toFloat_rounds n).nonneg (toFloat_rounds m).nonneg]
  rcases h.lt_or_eq with hlt | heq
  · exact (toFloat_rounds n).nearest.mono (toFloat_rounds m).nearest (Nat.cast_lt.2 hlt)
  · rw [UInt64.toNat_inj.1 heq]

variable {z : Float}

theorem add_le_add_left_of_nonneg (hz : 0 ≤ z) (hx : 0 ≤ x) (h : x ≤ y) : z + x ≤ z + y := by
  refine apply_le_apply (f := (z + ·)) (fun _ _ h => add_lt_add_right h (value z)) ?_ hx h
    (add_rounds hz hx) (add_rounds hz (nonneg_of_le hx h))
  rw [add_zero]
  exact isDouble_value z

theorem mul_le_mul_right_of_positive (hz : Positive z) (hx : 0 ≤ x) (h : x ≤ y)
    (hfinite : y.isFinite = true ∨ 1 ≤ value z) : x * z ≤ y * z := by
  refine apply_le_apply (f := (· * z)) (fun _ _ h => mul_lt_mul_of_pos_right h hz.pos) ?_ hx h
    (mul_rounds hx hz (hfinite.imp_left (isFinite_of_le hx h)))
    (mul_rounds (nonneg_of_le hx h) hz hfinite)
  rw [zero_mul]
  exact isDouble_zero

theorem div_le_div_right_of_positive (hz : Positive z) (hx : 0 ≤ x) (h : x ≤ y)
    (hfinite : y.isFinite = true) : x / z ≤ y / z := by
  refine apply_le_apply (f := (· / z)) (fun _ _ h => div_lt_div_of_pos_right h hz.pos) ?_ hx h
    (div_rounds hx (isFinite_of_le hx h hfinite) hz) (div_rounds (nonneg_of_le hx h) hfinite hz)
  rw [zero_div]
  exact isDouble_zero

end Latchkey.Binary64
