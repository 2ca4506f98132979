import Latchkey.Proofs.Decimal.Value
/-!
# Rounding gives a closest double

An exact result comes to rounding as a whole number with two more bits, which say how what was cut off
compares with a half. Shifting out digits keeps these bits right, so that the number which is rounded to
the nearest is the exact result in units of the last place. One more digit may be carried then, and the
power of two may be too large for the format.
-/

namespace Latchkey.Binary64

open Float.Model (UnpackedFloat Format totalExponent)
open Float.Model.UnpackedFloat

/-! ### Whole numbers with two more bits -/

/-- The whole number is `x` cut to an integer. The two bits say whether nothing was cut off, less than a
half, a half, or more. -/
def Represents (n : ExtendedMantissa) (x : ℚ) : Prop :=
  match n.roundBit, n.stickyBit with
  | false, false => x = n.mantissa
  | false, true => n.mantissa < x ∧ x < n.mantissa + 1 / 2
  | true, false => x = n.mantissa + 1 / 2
  | true, true => n.mantissa + 1 / 2 < x ∧ x < n.mantissa + 1

variable {n : ExtendedMantissa} {x : ℚ}

theorem Represents.bounds (h : Represents n x) : n.mantissa ≤ x ∧ x < n.mantissa + 1 := by
  rcases n with ⟨m, _ | _, _ | _⟩ <;> unfold Represents at h <;> dsimp only at h ⊢ <;>
    constructor <;> linarith

theorem Represents.abs_roundedMantissa_sub (h : Represents n x) :
    |n.roundedMantissa - x| ≤ 1 / 2 := by
  rcases n with ⟨m, _ | _, _ | _⟩ <;> unfold Represents at h <;> dsimp only at h <;> rw [abs_le]
  · change -(1 / 2) ≤ (m : ℚ) - x ∧ (m : ℚ) - x ≤ 1 / 2
    constructor <;> linarith
  · change -(1 / 2) ≤ (m : ℚ) - x ∧ (m : ℚ) - x ≤ 1 / 2
    constructor <;> linarith
  · -- a tie goes to the even neighbour, which is half a unit away on either side
    change -(1 / 2) ≤ ((m + m % 2 : ℕ) : ℚ) - x ∧ ((m + m % 2 : ℕ) : ℚ) - x ≤ 1 / 2
    rcases Nat.mod_two_eq_zero_or_one m with hm | hm <;> rw [hm] <;> push_cast <;>
      constructor <;> linarith
  · change -(1 / 2) ≤ ((m + 1 : ℕ) : ℚ) - x ∧ ((m + 1 : ℕ) : ℚ) - x ≤ 1 / 2
    push_cast
    constructor <;> linarith

theorem Represents.shiftRightOne (h : Represents n x) : Represents n.shiftRightOne (x / 2) := by
  rcases n with ⟨m, r, s⟩
  obtain ⟨k, rfl | rfl⟩ := Nat.even_or_odd' m
  · have hshift : ExtendedMantissa.shiftRightOne ⟨2 * k, r, s⟩ = ⟨k, false, r || s⟩ := by
      simp [ExtendedMantissa.shiftRightOne]
    rw [hshift]
    cases r <;> cases s <;> simp only [Represents, Bool.or_true, Bool.or_false] at h ⊢ <;>
      push_cast at h
    · linarith
    all_goals constructor <;> linarith
  · have hshift : ExtendedMantissa.shiftRightOne ⟨2 * k + 1, r, s⟩ = ⟨k, true, r || s⟩ := by
      simp [ExtendedMantissa.shiftRightOne, Nat.mul_add_div]
    rw [hshift]
    cases r <;> cases s <;> simp only [Represents, Bool.or_true, Bool.or_false] at h ⊢ <;>
      push_cast at h
    · linarith
    all_goals constructor <;> linarith

theorem Represents.shiftRight (h : Represents n x) (k : ℕ) :
    Represents (n >>> k) (x / weight k) := by
  induction k with
  | zero =>
      rw [weight_natCast, pow_zero, Nat.cast_one, div_one]
      exact h
  | succ k ih =>
      have hstep : x / weight (k + 1 : ℕ) = x / weight k / 2 := by
        rw [weight_natCast, weight_natCast, pow_succ, div_div]
        push_cast
        rfl
      rw [hstep]
      exact ih.shiftRightOne

theorem represents_exact (m : ℕ) : Represents (ExtendedMantissa.ofMantissaAndAccuracy m .exact) m := rfl

/-- What is left of a division says how the quotient is to be rounded. -/
theorem represents_div (m : ℕ) {d : ℕ} (hd : 0 < d) :
    Represents (.ofMantissaAndAccuracy (m / d) (accuracyOfFraction (m % d) d)) (m / d : ℚ) := by
  have hd' : (0 : ℚ) < d := Nat.cast_pos.2 hd
  have hdiv : (m / d : ℚ) = (m / d : ℕ) + (m % d : ℕ) / d := by
    rw [div_eq_iff hd'.ne', add_mul, div_mul_cancel₀ _ hd'.ne']
    exact_mod_cast (Nat.div_add_mod' m d).symm
  rw [hdiv]
  unfold accuracyOfFraction
  by_cases hrest : m % d = 0
  · rw [if_pos hrest, hrest]
    simp [Represents, ExtendedMantissa.ofMantissaAndAccuracy]
  · have hpos : (0 : ℚ) < (m % d : ℕ) / d := div_pos (Nat.cast_pos.2 (Nat.pos_of_ne_zero hrest)) hd'
    rw [if_neg hrest]
    rcases lt_trichotomy (2 * (m % d)) d with hlt | heq | hgt
    · have hhalf : ((m % d : ℕ) : ℚ) / d < 1 / 2 := by
        rw [div_lt_div_iff₀ hd' two_pos]
        exact_mod_cast (by omega : m % d * 2 < 1 * d)
      rw [compare_lt_iff_lt.2 hlt]
      exact ⟨lt_add_of_pos_right _ hpos, add_lt_add_right hhalf _⟩
    · have hhalf : ((m % d : ℕ) : ℚ) / d = 1 / 2 := by
        rw [div_eq_div_iff hd'.ne' two_ne_zero]
        exact_mod_cast (by omega : m % d * 2 = 1 * d)
      rw [compare_eq_iff_eq.2 heq, hhalf]
      rfl
    · have hhalf : 1 / 2 < ((m % d : ℕ) : ℚ) / d := by
        rw [div_lt_div_iff₀ two_pos hd']
        exact_mod_cast (by omega : 1 * d < m % d * 2)
      have hone : ((m % d : ℕ) : ℚ) / d < 1 := by
        rw [div_lt_one hd']
        exact_mod_cast Nat.mod_lt m hd
      rw [compare_gt_iff_gt.2 hgt]
      exact ⟨add_lt_add_right hhalf _, add_lt_add_right hone _⟩

/-! ### The place of the last digit -/

/-- Where the last digit is kept. -/
def lastPlace (m : ℕ) (e : ℤ) : ℤ := Format.binary64.targetExponent (totalExponent m e)

theorem lastPlace_eq (m : ℕ) (e : ℤ) : lastPlace m e = max (m.log2 + 1 + e - 53) (-1074) := rfl

theorem shiftToTargetExponent_eq (m : ℕ) (e : ℤ) (a : Accuracy) :
    shiftToTargetExponent .binary64 m e a =
      (ExtendedMantissa.ofMantissaAndAccuracy m a >>> (lastPlace m e - e).toNat,
        e + ((lastPlace m e - e).toNat : ℤ)) := rfl

/-- After the last place has been found, the exact result has no more than 53 digits before it, and
exactly so many unless it is the last place of all. -/
theorem lastPlace_bounds {m : ℕ} {e : ℤ} {q : ℚ} (he : e ≤ lastPlace m e)
    (hlow : m ≤ q / weight e) (hhigh : q / weight e < m + 1) :
    -1074 ≤ lastPlace m e ∧ q < weight (53 + lastPlace m e) ∧
      (lastPlace m e = -1074 ∨ weight (52 + lastPlace m e) ≤ q) := by
  have hpos := weight_pos e
  rw [lastPlace_eq] at he ⊢
  refine ⟨le_max_right _ _, ?_, ?_⟩
  · have hdigits : ((m + 1 : ℕ) : ℚ) ≤ weight (m.log2 + 1 : ℕ) := by
      rw [weight_natCast]
      exact_mod_cast Nat.lt_log2_self
    calc q < (m + 1 : ℕ) * weight e := by
          rw [← div_lt_iff₀ hpos]
          push_cast
          exact hhigh
      _ ≤ weight (m.log2 + 1 : ℕ) * weight e := mul_le_mul_of_nonneg_right hdigits hpos.le
      _ = weight ((m.log2 + 1 : ℕ) + e) := (weight_add _ _).symm
      _ ≤ _ := weight_le_iff.2 (by push_cast; omega)
  · by_cases hleast : m.log2 + 1 + e - 53 ≤ -1074
    · exact .inl (max_eq_right hleast)
    · right
      rw [max_eq_left (by omega)] at he ⊢
      have hm : m ≠ 0 := by
        rintro rfl
        rw [Nat.log2_zero] at he
        omega
      have hdigits : weight m.log2 ≤ (m : ℚ) := by
        rw [weight_natCast]
        exact_mod_cast Nat.log2_self_le hm
      calc weight (52 + (m.log2 + 1 + e - 53)) = weight m.log2 * weight e := weight_eq_mul (by omega)
        _ ≤ m * weight e := mul_le_mul_of_nonneg_right hdigits hpos.le
        _ ≤ q := (le_div_iff₀ hpos).1 hlow

/-! ### Rounding -/

/-- A number that has been rounded has the digits of a double, after one more has been carried if need
be. -/
theorem carry {n : ℕ} {e : ℤ} (hn : n ≤ 2 ^ 53) (hlow : -1074 ≤ e) (hfull : e = -1074 ∨ 2 ^ 52 ≤ n) :
    ∃ m e', shiftToTargetExponent .binary64 n e .exact = (⟨m, false, false⟩, e') ∧
      HasDigits m e' ∧ m * weight e' = n * weight e ∧ e ≤ e' ∧ e' ≤ e + 1 := by
  rcases eq_or_lt_of_le hn with rfl | hlt
  · -- only a power of two can be carried to, so that the digit shifted out is zero
    refine ⟨2 ^ 52, e + 1, ?_, ⟨by decide, by omega, .inl le_rfl⟩, ?_, by omega, le_rfl⟩
    · have hplace : lastPlace (2 ^ 53) e = e + 1 := by
        rw [lastPlace_eq, Nat.log2_two_pow]
        omega
      have hone : (e + 1 - e).toNat = 1 := by omega
      rw [shiftToTargetExponent_eq, hplace, hone]
      rfl
    · rw [← weight_natCast, ← weight_natCast, ← weight_add, ← weight_add]
      congr 1
      push_cast
      ring
  · refine ⟨n, e, ?_, ⟨hlt, hlow, hfull.symm⟩, rfl, le_rfl, by omega⟩
    have hlog : n.log2 < 53 := by
      rcases Nat.eq_zero_or_pos n with rfl | hpos
      · decide
      · exact (Nat.log2_lt hpos.ne').2 hlt
    have hplace : lastPlace n e ≤ e := by
      rw [lastPlace_eq]
      omega
    have hamount : (lastPlace n e - e).toNat = 0 := by omega
    rw [shiftToTargetExponent_eq, hamount, Nat.cast_zero, add_zero]
    rfl

/-- The double packed from an unpacked one is not negative, and none is closer to `q`. -/
def PacksNearest (u : UnpackedFloat) (q : ℚ) : Prop :=
  IsNonneg (Float.Model.pack u).unpack ∧ Nearest (magnitude (Float.Model.pack u).unpack) q

theorem packsNearest_of_canonical {u : UnpackedFloat} {q : ℚ} (hu : Canonical u) (hu' : IsNonneg u)
    (h : Nearest (magnitude u) q) : PacksNearest u q := by
  unfold PacksNearest
  rw [unpack_pack hu]
  exact ⟨hu', h⟩

theorem packsNearest_finite {m : ℕ} {e : ℤ} {q : ℚ} (hm : 0 < m) (hdigits : HasDigits m e)
    (h : e ≤ 971 → Nearest (m * weight e) q) (hoverflow : 971 < e → Nearest (weight 1024) q) :
    PacksNearest (.finite .positive m e hm) q := by
  rcases le_or_gt e 971 with hle | hgt
  · exact packsNearest_of_canonical ⟨hdigits, hle⟩ rfl (h hle)
  · unfold PacksNearest
    rw [unpack_pack_overflow hm hgt]
    exact ⟨rfl, hoverflow hgt⟩

theorem mantissa_ofMantissaAndAccuracy (m : ℕ) (a : Accuracy) :
    (ExtendedMantissa.ofMantissaAndAccuracy m a).mantissa = m := by
  rcases a with _ | _ | _ | _ <;> rfl

/-- What is rounded at the last place: a number close to the exact result, with no more digits than a
double has. -/
theorem rounded_bounds {m : ℕ} {e : ℤ} {a : Accuracy} {q : ℚ}
    (hrep : Represents (.ofMantissaAndAccuracy m a) (q / weight e)) (he : e ≤ lastPlace m e) :
    let n := (ExtendedMantissa.ofMantissaAndAccuracy m a >>> (lastPlace m e - e).toNat).roundedMantissa
    |n - q / weight (lastPlace m e)| ≤ 1 / 2 ∧ n ≤ 2 ^ 53 ∧ (lastPlace m e = -1074 ∨ 2 ^ 52 ≤ n) := by
  intro n
  have hbounds := hrep.bounds
  rw [mantissa_ofMantissaAndAccuracy] at hbounds
  obtain ⟨-, hhigh, hlow⟩ := lastPlace_bounds he hbounds.1 hbounds.2
  have hplace : lastPlace m e = e + (lastPlace m e - e).toNat := by omega
  have hscaled : q / weight e / weight (lastPlace m e - e).toNat = q / weight (lastPlace m e) := by
    rw [div_div, ← weight_add, ← hplace]
  have hclose : |n - q / weight (lastPlace m e)| ≤ 1 / 2 := by
    rw [← hscaled]
    exact (hrep.shiftRight _).abs_roundedMantissa_sub
  -- what is left is about a number close to `q`: how it was found does not matter any more
  clear_value n
  generalize lastPlace m e = place at *
  have hpos := weight_pos place
  obtain ⟨hbelow, habove⟩ := abs_le.1 hclose
  refine ⟨hclose, ?_, hlow.imp_right fun hlow => ?_⟩
  · have hdigits : q / weight place < (2 ^ 53 : ℕ) := by
      rw [div_lt_iff₀ hpos, ← weight_natCast, ← weight_add]
      exact hhigh
    have hlt : (n : ℚ) < (2 ^ 53 + 1 : ℕ) := by
      rw [Nat.cast_add, Nat.cast_one]
      generalize 2 ^ 53 = c at *
      linarith
    exact Nat.lt_succ_iff.1 (by exact_mod_cast hlt)
  · have hdigits : (2 ^ 52 : ℕ) ≤ q / weight place := by
      rw [le_div_iff₀ hpos, ← weight_natCast, ← weight_add]
      exact hlow
    have hlt : ((2 ^ 52 : ℕ) : ℚ) < (n + 1 : ℕ) := by
      rw [Nat.cast_add, Nat.cast_one]
      generalize 2 ^ 52 = c at *
      linarith
    exact Nat.lt_succ_iff.1 (by exact_mod_cast hlt)

/-- Rounding what represents an exact result gives a closest double to it. -/
theorem packsNearest_roundWithAccuracy {m : ℕ} {e : ℤ} {a : Accuracy} {q : ℚ}
    (hrep : Represents (.ofMantissaAndAccuracy m a) (q / weight e)) (he : e ≤ lastPlace m e) :
    PacksNearest (roundWithAccuracy .binary64 .positive m e a) q := by
  obtain ⟨hclose, hn, hfull⟩ := rounded_bounds hrep he
  have hbounds := hrep.bounds
  rw [mantissa_ofMantissaAndAccuracy] at hbounds
  obtain ⟨hlow, -, hq⟩ := lastPlace_bounds he hbounds.1 hbounds.2
  have hplace : e + ((lastPlace m e - e).toNat : ℤ) = lastPlace m e := by omega
  unfold roundWithAccuracy
  rw [shiftToTargetExponent_eq, hplace]
  dsimp only
  generalize (ExtendedMantissa.ofMantissaAndAccuracy m a >>>
    (lastPlace m e - e).toNat).roundedMantissa = n at *
  generalize lastPlace m e = place at *
  obtain ⟨m', e', hcarry, hdigits, hvalue, hle, hle'⟩ := carry hn hlow hfull
  have hscaled : place ≤ 971 → Nearest (m' * weight e') q := fun hhigh => by
    rw [hvalue]
    exact nearest_of_scaled hlow hhigh hn hq hclose
  rw [hcarry]
  dsimp only
  by_cases hzero : m' = 0
  · rw [dif_pos hzero]
    have hn0 : n = 0 := by
      rw [hzero, Nat.cast_zero, zero_mul, eq_comm, mul_eq_zero] at hvalue
      exact_mod_cast hvalue.resolve_right (weight_pos place).ne'
    have hleast : place = -1074 := hfull.resolve_right (by omega)
    have hnearest := hscaled (by omega)
    rw [hzero, Nat.cast_zero, zero_mul] at hnearest
    exact packsNearest_of_canonical trivial trivial hnearest
  · rw [dif_neg hzero]
    refine packsNearest_finite _ hdigits (fun hhigh => hscaled (by omega)) fun hoverflow => ?_
    rcases le_or_gt place 971 with hhigh | hhigh
    · -- The digit that was carried has made the number as large as no double is.
      have hone : m' * weight e' = weight 1024 := by
        obtain rfl : place = 971 := by omega
        obtain rfl : e' = 972 := by omega
        refine le_antisymm (hvalue.le.trans (natCast_mul_weight_le hn (by decide))) ?_
        have hfull' : ((2 ^ 52 : ℕ) : ℚ) ≤ m' := by
          exact_mod_cast hdigits.full.resolve_right (by decide)
        rw [weight_eq_mul (show (1024 : ℤ) = (52 : ℕ) + 972 from rfl), weight_natCast]
        exact mul_le_mul_of_nonneg_right hfull' (weight_pos _).le
      rw [← hone]
      exact hscaled hhigh
    · exact nearest_of_overflow ((weight_le_iff.2 (by omega)).trans (hq.resolve_left (by omega)))

end Latchkey.Binary64
