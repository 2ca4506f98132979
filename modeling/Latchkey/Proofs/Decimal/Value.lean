import Latchkey.Limit.Amount
import Latchkey.Proofs.Decimal.Nearest
/-!
# What doubles stand for

A double is unpacked to a sign, a whole number and a power of two. The whole number has all of its 53
digits unless the power is the least one, so that no two of these stand for the same number and they are
in the order of the numbers. Packing gives back what was packed, or an infinity where the power is too
large for the format.
-/

namespace Latchkey.Binary64

open Float.Model (UnpackedFloat Format)
open Float.Model.UnpackedFloat

/-! ### Unpacked doubles -/

/-- A number with all of its 53 digits, or with fewer at the least power of two. -/
structure HasDigits (m : ℕ) (e : ℤ) : Prop where
  lt : m < 2 ^ 53
  least_le : -1074 ≤ e
  full : 2 ^ 52 ≤ m ∨ e = -1074

/-- What unpacking the bits of a double gives. -/
def Canonical : UnpackedFloat → Prop
  | .finite _ m e _ => HasDigits m e ∧ e ≤ 971
  | _ => True

/-- Neither negative nor not a number; zeros of both signs are not negative. -/
def IsNonneg : UnpackedFloat → Prop
  | .notANumber => False
  | .infinity s => s = .positive
  | .zero _ => True
  | .finite s _ _ _ => s = .positive

/-- What is not negative is a positive infinity, a zero, or finite and positive. -/
@[elab_as_elim]
theorem IsNonneg.cases {motive : (u : UnpackedFloat) → IsNonneg u → Prop}
    (infinity : motive (.infinity .positive) rfl) (zero : ∀ s, motive (.zero s) trivial)
    (finite : ∀ m e hm, motive (.finite .positive m e hm) rfl) {u : UnpackedFloat} (hu : IsNonneg u) :
    motive u hu := by
  cases u with
  | notANumber => exact hu.elim
  | infinity s =>
      obtain rfl : s = .positive := hu
      exact infinity
  | zero s => exact zero s
  | finite s m e hm =>
      obtain rfl : s = .positive := hu
      exact finite m e hm

/-- The number that an unpacked double stands for, its sign left aside. -/
def magnitude : UnpackedFloat → ℚ
  | .finite _ m e _ => m * weight e
  | .infinity _ => weight 1024
  | _ => 0

@[simp] theorem magnitude_zero (s : Sign) : magnitude (.zero s) = 0 := rfl

@[simp] theorem magnitude_infinity (s : Sign) : magnitude (.infinity s) = weight 1024 := rfl

@[simp] theorem magnitude_finite (s : Sign) (m : ℕ) (e : ℤ) (hm : 0 < m) :
    magnitude (.finite s m e hm) = m * weight e := rfl

theorem isDouble_magnitude {u : UnpackedFloat} (h : Canonical u) : IsDouble (magnitude u) := by
  cases u with
  | notANumber => exact isDouble_zero
  | infinity s => exact isDouble_weight_1024
  | zero s => exact isDouble_zero
  | finite s m e hm => exact ⟨m, e, h.1.lt.le, h.1.least_le, h.2, rfl⟩

/-! ### Bits -/

theorem toNat_unpackExponent (b : BitVec 64) :
    (@unpackExponent .binary64 b).toNat = b.toNat / 0x10000000000000 % 0x800 := by
  unfold unpackExponent
  rw [BitVec.toNat_cast, BitVec.extractLsb_toNat, Nat.shiftRight_eq_div_pow]
  rfl

theorem toNat_unpackMantissa (b : BitVec 64) :
    (@unpackMantissa .binary64 b).toNat = b.toNat % 0x10000000000000 := by
  unfold unpackMantissa
  rw [BitVec.toNat_cast, BitVec.extractLsb_toNat, Nat.shiftRight_zero]
  rfl

theorem toNat_unpackSign (b : BitVec 64) :
    (@unpackSign .binary64 b).toNat = b.toNat / 0x8000000000000000 % 2 := by
  unfold unpackSign
  rw [BitVec.toNat_cast, BitVec.extractLsb_toNat, Nat.shiftRight_eq_div_pow]
  rfl

theorem toNat_one_append (v : BitVec 52) : (1#1 ++ v).toNat = 0x10000000000000 + v.toNat := by
  rw [BitVec.toNat_append, ← Nat.shiftLeft_add_eq_or_of_lt v.isLt]
  rfl

theorem finite_congr {s : Sign} {m m' : ℕ} {e e' : ℤ} {h : 0 < m} {h' : 0 < m'} (hm : m = m')
    (he : e = e') : UnpackedFloat.finite s m e h = .finite s m' e' h' := by
  cases hm
  cases he
  rfl

/-- The unpacked double with these fields. -/
def ofFields (s : Sign) (exponent fraction : ℕ) : UnpackedFloat :=
  if exponent = 2047 then if fraction = 0 then .infinity s else .notANumber
  else if exponent = 0 then
    if h : fraction = 0 then .zero s else .finite s fraction (-1074) (Nat.pos_of_ne_zero h)
  else .finite s (0x10000000000000 + fraction) (exponent - 1075) (by omega)

theorem unpack_eq (b : BitVec 64) :
    UnpackedFloat.unpack .binary64 b =
      ofFields (Sign.ofBitVec (@unpackSign .binary64 b)) (b.toNat / 0x10000000000000 % 0x800)
        (b.toNat % 0x10000000000000) := by
  have hones : @unpackExponent .binary64 b = -1#11 ↔ b.toNat / 0x10000000000000 % 0x800 = 2047 := by
    rw [← BitVec.toNat_inj, toNat_unpackExponent]
    exact Iff.rfl
  have hleast : @unpackExponent .binary64 b = 0#11 ↔ b.toNat / 0x10000000000000 % 0x800 = 0 := by
    rw [← BitVec.toNat_inj, toNat_unpackExponent]
    exact Iff.rfl
  have hzero : @unpackMantissa .binary64 b = 0#52 ↔ b.toNat % 0x10000000000000 = 0 := by
    rw [← BitVec.toNat_inj, toNat_unpackMantissa]
    exact Iff.rfl
  have hbias : Format.binary64.exponentBias = 1023 := rfl
  unfold UnpackedFloat.unpack ofFields
  dsimp only
  by_cases h₁ : b.toNat / 0x10000000000000 % 0x800 = 2047
  · rw [if_pos (hones.2 h₁), if_pos h₁]
    exact if_congr hzero rfl rfl
  · rw [if_neg (mt hones.1 h₁), if_neg h₁]
    by_cases h₂ : b.toNat / 0x10000000000000 % 0x800 = 0
    · rw [if_pos (hleast.2 h₂), if_pos h₂]
      by_cases h₃ : b.toNat % 0x10000000000000 = 0
      · rw [dif_pos (hzero.2 h₃), dif_pos h₃]
      · rw [dif_neg (mt hzero.1 h₃), dif_neg h₃]
        refine finite_congr (toNat_unpackMantissa b) ?_
        rw [toNat_unpackExponent, h₂, hbias]
        rfl
    · rw [if_neg (mt hleast.1 h₂), if_neg h₂]
      refine finite_congr ?_ ?_
      · rw [← toNat_unpackMantissa]
        exact toNat_one_append _
      · rw [toNat_unpackExponent, hbias]
        rfl

theorem canonical_ofFields (s : Sign) {exponent fraction : ℕ} (hexponent : exponent < 0x800)
    (hfraction : fraction < 0x10000000000000) : Canonical (ofFields s exponent fraction) := by
  fun_cases ofFields s exponent fraction with
  | case1 => trivial
  | case2 => trivial
  | case3 => trivial
  | case4 => exact ⟨⟨hfraction.trans (by decide), le_rfl, .inr rfl⟩, by decide⟩
  | case5 => exact ⟨⟨by omega, by omega, .inl (Nat.le_add_right _ _)⟩, by omega⟩

theorem canonical_unpack (b : BitVec 64) : Canonical (UnpackedFloat.unpack .binary64 b) := by
  rw [unpack_eq]
  exact canonical_ofFields _ (Nat.mod_lt _ (by decide)) (Nat.mod_lt _ (by decide))

def isNegative : Sign → Bool
  | .negative => true
  | .positive => false

/-- What the bits of an unpacked double stand for. -/
def ofUnpacked : UnpackedFloat → Binary64
  | .notANumber => .nan
  | .infinity s => .infinite (isNegative s)
  | .zero s => .finite (isNegative s) 0 (-1074)
  | .finite s m e _ => .finite (isNegative s) m e

theorem isNegative_unpackSign (b : BitVec 64) :
    isNegative (Sign.ofBitVec (@unpackSign .binary64 b)) =
      decide (0x8000000000000000 ≤ b.toNat) := by
  have hb := b.isLt
  have hpositive : @unpackSign .binary64 b = 0#1 ↔ b.toNat / 0x8000000000000000 % 2 = 0 := by
    rw [← BitVec.toNat_inj, toNat_unpackSign]
    exact Iff.rfl
  unfold Sign.ofBitVec
  by_cases h : 0x8000000000000000 ≤ b.toNat
  · rw [decide_eq_true h, if_neg (mt hpositive.1 (by omega))]
    rfl
  · rw [decide_eq_false h, if_pos (hpositive.2 (by omega))]
    rfl

theorem ofUnpacked_ofFields (s : Sign) (exponent fraction : ℕ) :
    ofUnpacked (ofFields s exponent fraction) =
      if exponent = 2047 then if fraction = 0 then .infinite (isNegative s) else .nan
      else if exponent = 0 then .finite (isNegative s) fraction (-1074)
      else .finite (isNegative s) (0x10000000000000 + fraction) ((exponent : ℤ) - 1075) := by
  fun_cases ofFields s exponent fraction with
  | case1 he hf =>
      rw [if_pos he, if_pos hf]
      rfl
  | case2 he hf =>
      rw [if_pos he, if_neg hf]
      rfl
  | case3 he hzero hf =>
      rw [if_neg he, if_pos hzero, hf]
      rfl
  | case4 he hzero hf =>
      rw [if_neg he, if_pos hzero]
      rfl
  | case5 he hzero =>
      rw [if_neg he, if_neg hzero]
      rfl

theorem of_eq_ofUnpacked (x : Float) : of x = ofUnpacked x.toModel.unpack := by
  unfold Float.Model.unpack
  rw [unpack_eq, ofUnpacked_ofFields, isNegative_unpackSign]
  rfl

/-- The fields that make up an unpacked double, if it is a number. -/
def fields : UnpackedFloat → Sign × ℕ × ℕ
  | .notANumber => (.positive, 2047, 1)
  | .infinity s => (s, 2047, 0)
  | .zero s => (s, 0, 0)
  | .finite s m e _ =>
    if m < 0x10000000000000 then (s, 0, m) else (s, (e + 1075).toNat, m - 0x10000000000000)

theorem fields_finite (s : Sign) (m : ℕ) (e : ℤ) (hm : 0 < m) :
    fields (.finite s m e hm) =
      if m < 0x10000000000000 then (s, 0, m) else (s, (e + 1075).toNat, m - 0x10000000000000) := rfl

theorem fields_ofFields {s : Sign} {exponent fraction : ℕ} (hfraction : fraction < 0x10000000000000)
    (hnumber : ofFields s exponent fraction ≠ .notANumber) :
    fields (ofFields s exponent fraction) = (s, exponent, fraction) := by
  fun_cases ofFields s exponent fraction with
  | case1 he hf =>
      rw [he, hf]
      rfl
  | case2 he hf => exact absurd ((if_pos he).trans (if_neg hf)) hnumber
  | case3 he hzero hf =>
      rw [hzero, hf]
      rfl
  | case4 he hzero hf => rw [fields_finite, if_pos hfraction, hzero]
  | case5 he hzero =>
      have hexponent : ((exponent : ℤ) - 1075 + 1075).toNat = exponent := by omega
      rw [fields_finite, if_neg (by omega), hexponent, Nat.add_sub_cancel_left]

/-- Bits that unpack to the same are the same, unless they are not a number. -/
theorem unpack_inj {b b' : BitVec 64}
    (h : UnpackedFloat.unpack .binary64 b = UnpackedFloat.unpack .binary64 b')
    (hnumber : UnpackedFloat.unpack .binary64 b ≠ .notANumber) : b = b' := by
  have hnumber' := h ▸ hnumber
  have hfields := congrArg fields h
  rw [unpack_eq] at hnumber hnumber'
  rw [unpack_eq, unpack_eq, fields_ofFields (Nat.mod_lt _ (by decide)) hnumber,
    fields_ofFields (Nat.mod_lt _ (by decide)) hnumber'] at hfields
  obtain ⟨hsign, hfields⟩ := Prod.mk.inj hfields
  obtain ⟨hexponent, hfraction⟩ := Prod.mk.inj hfields
  have hnegative := congrArg isNegative hsign
  rw [isNegative_unpackSign, isNegative_unpackSign, decide_eq_decide] at hnegative
  have hb := b.isLt
  have hb' := b'.isLt
  exact BitVec.eq_of_toNat_eq (by omega)

/-! ### Packing -/

theorem ofBitVec_unpackSign_packComponents (s : Sign) (exponent : BitVec 11) (fraction : BitVec 52) :
    Sign.ofBitVec (@unpackSign .binary64 (packComponents .binary64 s exponent fraction)) = s := by
  have hsign : @unpackSign .binary64 (packComponents .binary64 s exponent fraction) = s.toBitVec := by
    unfold unpackSign packComponents BitVec.extractLsb
    rw [BitVec.extractLsb'_append_eq_of_le (by decide),
      BitVec.extractLsb'_append_eq_of_le (by decide)]
    exact BitVec.extractLsb'_eq_self
  rw [hsign]
  cases s <;> rfl

theorem unpack_packComponents (s : Sign) (exponent : BitVec 11) (fraction : BitVec 52) :
    UnpackedFloat.unpack .binary64 (packComponents .binary64 s exponent fraction) =
      ofFields s exponent.toNat fraction.toNat := by
  rw [unpack_eq, ofBitVec_unpackSign_packComponents, ← toNat_unpackExponent, ← toNat_unpackMantissa,
    unpackExponent_packComponents, unpackMantissa_packComponents]

theorem HasDigits.log2_add_one {m : ℕ} {e : ℤ} (h : HasDigits m e) (hm : 0 < m) :
    m.log2 + 1 = 53 ↔ 2 ^ 52 ≤ m := by
  have hlt := (Nat.log2_lt hm.ne').2 h.lt
  rw [← Nat.le_log2 hm.ne']
  omega

/-- A power of two that is too large is packed as an infinity. -/
theorem unpack_pack_overflow {s : Sign} {m : ℕ} {e : ℤ} (hm : 0 < m) (he : 971 < e) :
    (Float.Model.pack (.finite s m e hm)).unpack = .infinity s := by
  have hlarge : 2 ^ 11 ≤ (e + (1023 : ℕ) + (52 : ℕ)).toNat + 1 := by omega
  change UnpackedFloat.unpack .binary64
    (if 2 ^ 11 ≤ (e + (1023 : ℕ) + (52 : ℕ)).toNat + 1 then packedInfinity .binary64 s else _) = _
  rw [if_pos hlarge]
  exact unpack_packComponents s _ _

theorem unpack_pack {u : UnpackedFloat} (h : Canonical u) : (Float.Model.pack u).unpack = u := by
  cases u with
  | notANumber => rfl
  | infinity s => exact unpack_packComponents s _ _
  | zero s => exact unpack_packComponents s _ _
  | finite s m e hm =>
      obtain ⟨hdigits, hhigh⟩ := h
      have hlow := hdigits.least_le
      have hlt := hdigits.lt
      have hsmall : ¬2 ^ 11 ≤ (e + (1023 : ℕ) + (52 : ℕ)).toNat + 1 := by omega
      change UnpackedFloat.unpack .binary64
        (if 2 ^ 11 ≤ (e + (1023 : ℕ) + (52 : ℕ)).toNat + 1 then packedInfinity .binary64 s
        else if m.log2 + 1 = 53 then
          packComponents .binary64 s (BitVec.ofNat 11 (e + (1023 : ℕ) + (52 : ℕ)).toNat) (BitVec.ofNat 52 m)
        else packComponents .binary64 s 0#11 (BitVec.ofNat 52 m)) = _
      rw [if_neg hsmall]
      by_cases hfull : 2 ^ 52 ≤ m
      · rw [if_pos ((hdigits.log2_add_one hm).2 hfull), unpack_packComponents, BitVec.toNat_ofNat,
          BitVec.toNat_ofNat]
        unfold ofFields
        rw [if_neg (by omega), if_neg (by omega)]
        exact finite_congr (by omega) (by omega)
      · have hfraction : (BitVec.ofNat 52 m).toNat = m := by
          rw [BitVec.toNat_ofNat]
          omega
        rw [if_neg (mt (hdigits.log2_add_one hm).1 hfull), unpack_packComponents, hfraction]
        unfold ofFields
        rw [if_neg (by decide), if_pos (by decide), dif_neg (by omega)]
        exact finite_congr rfl (hdigits.full.resolve_left hfull).symm

/-! ### Order -/

theorem HasDigits.lt_of_lt {m m' : ℕ} {e e' : ℤ} (h : HasDigits m e) (h' : HasDigits m' e')
    (hlt : e < e') : m * weight e < m' * weight e' := by
  have hlow := h.least_le
  have hfull : ((2 ^ 52 : ℕ) : ℚ) ≤ m' := by
    have hfull := h'.full.resolve_right (by omega)
    exact_mod_cast hfull
  calc m * weight e < weight (52 + e') := natCast_mul_weight_lt h.lt (by omega)
    _ = (2 ^ 52 : ℕ) * weight e' := by rw [weight_add, ← weight_natCast]; rfl
    _ ≤ m' * weight e' := mul_le_mul_of_nonneg_right hfull (weight_pos e').le

theorem HasDigits.compare_eq {m m' : ℕ} {e e' : ℤ} (h : HasDigits m e) (h' : HasDigits m' e') :
    (compare e e').then (compare m m') = compare (m * weight e) (m' * weight e') := by
  rcases lt_trichotomy e e' with hlt | rfl | hgt
  · rw [compare_lt_iff_lt.2 hlt, compare_lt_iff_lt.2 (h.lt_of_lt h' hlt)]
    rfl
  · have hpos := weight_pos e
    rw [compare_eq_iff_eq.2 rfl, Ordering.eq_then]
    rcases lt_trichotomy m m' with hlt | rfl | hgt
    · have hlt' : (m : ℚ) < m' := mod_cast hlt
      rw [compare_lt_iff_lt.2 hlt, compare_lt_iff_lt.2 (mul_lt_mul_of_pos_right hlt' hpos)]
    · rw [compare_eq_iff_eq.2 rfl, compare_eq_iff_eq.2 rfl]
    · have hgt' : (m' : ℚ) < m := mod_cast hgt
      rw [compare_gt_iff_gt.2 hgt, compare_gt_iff_gt.2 (mul_lt_mul_of_pos_right hgt' hpos)]
  · rw [compare_gt_iff_gt.2 hgt, compare_gt_iff_gt.2 (h'.lt_of_lt h hgt)]
    rfl

theorem magnitude_pos {s : Sign} {m : ℕ} {e : ℤ} (hm : 0 < m) :
    0 < magnitude (.finite s m e hm) :=
  mul_pos (Nat.cast_pos.2 hm) (weight_pos e)

theorem magnitude_lt {s : Sign} {m : ℕ} {e : ℤ} {hm : 0 < m} (h : Canonical (.finite s m e hm)) :
    magnitude (.finite s m e hm) < weight 1024 :=
  natCast_mul_weight_lt h.1.lt (by have := h.2; omega)

/-- Unpacked doubles that are not negative are in the order of what they stand for. -/
theorem compare_eq {u v : UnpackedFloat} (hu : IsNonneg u) (hv : IsNonneg v) (hu' : Canonical u)
    (hv' : Canonical v) : u.compare v = some (compare (magnitude u) (magnitude v)) := by
  cases hu using IsNonneg.cases with
  | infinity =>
      cases hv using IsNonneg.cases with
      | infinity => exact congrArg some (compare_eq_iff_eq.2 rfl).symm
      | zero s => exact congrArg some (compare_gt_iff_gt.2 (weight_pos _)).symm
      | finite m e hm => exact congrArg some (compare_gt_iff_gt.2 (magnitude_lt hv')).symm
  | zero s =>
      cases hv using IsNonneg.cases with
      | infinity => exact congrArg some (compare_lt_iff_lt.2 (weight_pos _)).symm
      | zero s' => exact congrArg some (compare_eq_iff_eq.2 rfl).symm
      | finite m e hm => exact congrArg some (compare_lt_iff_lt.2 (magnitude_pos hm)).symm
  | finite m e hm =>
      cases hv using IsNonneg.cases with
      | infinity => exact congrArg some (compare_lt_iff_lt.2 (magnitude_lt hu')).symm
      | zero s => exact congrArg some (compare_gt_iff_gt.2 (magnitude_pos hm)).symm
      | finite m' e' hm' => exact congrArg some (hu'.1.compare_eq hv'.1)

theorem eq_of_magnitude_eq {u v : UnpackedFloat} (hu : IsNonneg u) (hv : IsNonneg v)
    (hu' : Canonical u) (hv' : Canonical v) (hpos : 0 < magnitude u) (h : magnitude u = magnitude v) :
    u = v := by
  cases hu using IsNonneg.cases with
  | infinity =>
      cases hv using IsNonneg.cases with
      | infinity => rfl
      | zero s => exact absurd h hpos.ne'
      | finite m e hm => exact absurd h (magnitude_lt hv').ne'
  | zero s => exact absurd hpos (lt_irrefl _)
  | finite m e hm =>
      cases hv using IsNonneg.cases with
      | infinity => exact absurd h (magnitude_lt hu').ne
      | zero s => exact absurd h hpos.ne'
      | finite m' e' hm' =>
          have hcompare := hu'.1.compare_eq hv'.1
          obtain ⟨he, hm⟩ := Ordering.then_eq_eq.1 (hcompare.trans (compare_eq_iff_eq.2 h))
          exact finite_congr (compare_eq_iff_eq.1 hm) (compare_eq_iff_eq.1 he)

/-- The number that a double stands for if it is not negative. -/
def value (x : Float) : ℚ := magnitude x.toModel.unpack

variable {x y : Float}

@[simp] theorem value_zero : value 0 = 0 := rfl

@[simp] theorem value_one : value 1 = 1 := by
  have hunpack : (1 : Float).toModel.unpack = .finite .positive (2 ^ 52) (-52) (by decide) := rfl
  have hunit : weight (52 : ℕ) * weight (-52) = 1 := by
    rw [← weight_add]
    exact weight_zero
  unfold value
  rw [hunpack, magnitude_finite, ← weight_natCast]
  exact hunit

theorem canonical (x : Float) : Canonical x.toModel.unpack := canonical_unpack _

theorem isDouble_value (x : Float) : IsDouble (value x) := isDouble_magnitude (canonical x)

theorem value_nonneg (x : Float) : 0 ≤ value x := (isDouble_value x).nonneg

theorem le_iff_unpack : x ≤ y ↔ x.toModel.unpack.le y.toModel.unpack = true := by
  change decide (x.toModel.unpack.le y.toModel.unpack = true) = true ↔ _
  rw [decide_eq_true_iff]

theorem lt_iff_unpack : x < y ↔ x.toModel.unpack.lt y.toModel.unpack = true := by
  change decide (x.toModel.unpack.lt y.toModel.unpack = true) = true ↔ _
  rw [decide_eq_true_iff]

theorem unpack_zero : (0 : Float).toModel.unpack = .zero .positive := rfl

theorem zero_le_iff : 0 ≤ x ↔ IsNonneg x.toModel.unpack := by
  rw [le_iff_unpack, unpack_zero]
  cases x.toModel.unpack with
  | notANumber => exact iff_of_false nofun id
  | infinity s =>
      cases s with
      | negative => exact iff_of_false nofun nofun
      | positive => exact iff_of_true rfl rfl
  | zero s => exact iff_of_true rfl trivial
  | finite s m e hm =>
      cases s with
      | negative => exact iff_of_false nofun nofun
      | positive => exact iff_of_true rfl rfl

theorem le_iff (hx : 0 ≤ x) (hy : 0 ≤ y) : x ≤ y ↔ value x ≤ value y := by
  rw [le_iff_unpack, UnpackedFloat.le,
    compare_eq (zero_le_iff.1 hx) (zero_le_iff.1 hy) (canonical x) (canonical y), Option.any_some,
    ← Ordering.ne_gt_iff_isLE]
  exact compare_le_iff_le

theorem lt_iff (hx : 0 ≤ x) (hy : 0 ≤ y) : x < y ↔ value x < value y := by
  rw [lt_iff_unpack, UnpackedFloat.lt,
    compare_eq (zero_le_iff.1 hx) (zero_le_iff.1 hy) (canonical x) (canonical y), beq_iff_eq,
    Option.some.injEq]
  exact compare_lt_iff_lt

theorem le_of_lt (h : x < y) : x ≤ y := by
  rw [lt_iff_unpack, UnpackedFloat.lt, beq_iff_eq] at h
  rw [le_iff_unpack, UnpackedFloat.le, h]
  rfl

theorem isNonneg_of_le {u v : UnpackedFloat} (hu : IsNonneg u) (h : u.le v = true) : IsNonneg v := by
  cases v with
  | notANumber => cases u <;> cases h
  | zero s => trivial
  | infinity s =>
      cases s with
      | positive => rfl
      | negative => cases hu using IsNonneg.cases <;> cases h
  | finite s m e hm =>
      cases s with
      | positive => rfl
      | negative => cases hu using IsNonneg.cases <;> cases h

theorem nonneg_of_le (hx : 0 ≤ x) (h : x ≤ y) : 0 ≤ y :=
  zero_le_iff.2 (isNonneg_of_le (zero_le_iff.1 hx) (le_iff_unpack.1 h))

theorem le_refl_of_nonneg (hx : 0 ≤ x) : x ≤ x := (le_iff hx hx).2 le_rfl

theorem le_trans_of_nonneg {z : Float} (hx : 0 ≤ x) (h : x ≤ y) (h' : y ≤ z) : x ≤ z := by
  have hy := nonneg_of_le hx h
  have hz := nonneg_of_le hy h'
  rw [le_iff hx hz]
  exact ((le_iff hx hy).1 h).trans ((le_iff hy hz).1 h')

theorem zero_le_zero : (0 : Float) ≤ 0 := zero_le_iff.2 trivial

theorem zero_lt_iff (hx : 0 ≤ x) : 0 < x ↔ 0 < value x := lt_iff zero_le_zero hx

theorem not_le_iff (hx : 0 ≤ x) (hy : 0 ≤ y) : ¬x ≤ y ↔ y < x := by
  rw [le_iff hx hy, lt_iff hy hx, not_le]

theorem not_lt_iff (hx : 0 ≤ x) (hy : 0 ≤ y) : ¬x < y ↔ y ≤ x := by
  rw [lt_iff hx hy, le_iff hy hx, not_lt]

/-- A double that is a number and not below zero is not negative. -/
theorem nonneg_of_not_lt (hnan : x.isNaN = false) (h : ¬x < 0) : 0 ≤ x := by
  rw [zero_le_iff]
  rw [lt_iff_unpack, unpack_zero] at h
  change x.toModel.unpack.isNaN = false at hnan
  generalize x.toModel.unpack = u at *
  cases u with
  | notANumber => cases hnan
  | infinity s =>
      cases s with
      | positive => rfl
      | negative => exact absurd rfl h
  | zero s => trivial
  | finite s m e hm =>
      cases s with
      | positive => rfl
      | negative => exact absurd rfl h

theorem isNaN_of_nonneg (hx : 0 ≤ x) : x.isNaN = false := by
  rw [zero_le_iff] at hx
  change x.toModel.unpack.isNaN = false
  generalize x.toModel.unpack = u at *
  cases hx using IsNonneg.cases <;> rfl

theorem isFinite_iff (hx : 0 ≤ x) : x.isFinite = true ↔ value x < weight 1024 := by
  rw [zero_le_iff] at hx
  have hcanonical := canonical x
  change x.toModel.unpack.isFinite = true ↔ magnitude x.toModel.unpack < weight 1024
  generalize x.toModel.unpack = u at *
  cases hx using IsNonneg.cases with
  | infinity => exact iff_of_false nofun (lt_irrefl _)
  | zero s => exact iff_of_true rfl (weight_pos _)
  | finite m e hm => exact iff_of_true rfl (magnitude_lt hcanonical)

theorem isFinite_of_le (hx : 0 ≤ x) (h : x ≤ y) (hfinite : y.isFinite = true) : x.isFinite = true := by
  have hy := nonneg_of_le hx h
  rw [isFinite_iff hx]
  exact ((le_iff hx hy).1 h).trans_lt ((isFinite_iff hy).1 hfinite)

/-- Doubles above zero that stand for the same number are the same. -/
theorem eq_of_value_eq (hx : 0 ≤ x) (hy : 0 ≤ y) (hpos : 0 < value x) (h : value x = value y) :
    x = y := by
  have hsame := eq_of_magnitude_eq (zero_le_iff.1 hx) (zero_le_iff.1 hy) (canonical x) (canonical y)
    hpos h
  have hnumber : x.toModel.unpack ≠ .notANumber := fun hnan => by
    have hnonneg := zero_le_iff.1 hx
    rw [hnan] at hnonneg
    exact hnonneg
  have hbits := unpack_inj hsame hnumber
  obtain ⟨⟨bits, hvalid⟩⟩ := x
  obtain ⟨⟨bits', hvalid'⟩⟩ := y
  obtain rfl : bits = bits' := UInt64.toBitVec_inj.1 hbits
  rfl

/-- Finite and above zero. -/
structure Positive (x : Float) : Prop where
  nonneg : 0 ≤ x
  finite : x.isFinite = true
  pos : 0 < value x

/-! ### Rounding to integers -/

theorem floorOf_eq (m : ℤ) (q : ℤ) : floorOf m q = ⌊m * weight q⌋ := by
  unfold floorOf
  split
  · rename_i hq
    obtain ⟨n, rfl⟩ := Int.eq_ofNat_of_zero_le hq
    have hint : (m : ℚ) * (2 ^ n : ℕ) = (m * (2 ^ n : ℕ) : ℤ) := by push_cast; rfl
    rw [weight_natCast, hint, Int.floor_intCast]
    rfl
  · rename_i hq
    obtain ⟨n, hn⟩ := Int.eq_ofNat_of_zero_le (show 0 ≤ -q by omega)
    have hweight : weight q = ((2 ^ n : ℕ) : ℚ)⁻¹ := by
      rw [← weight_natCast, ← hn]
      unfold weight
      rw [zpow_neg, inv_inv]
    rw [hweight, ← div_eq_mul_inv, Rat.floor_intCast_div_natCast, hn,
      Int.fdiv_eq_ediv_of_nonneg _ (Int.natCast_nonneg _)]
    rfl

/-- The greatest integer not above what the double stands for. -/
theorem floorWithin_eq (hx : 0 ≤ x) (hfinite : x.isFinite = true) (low high : ℤ) :
    floorWithin low high x = clampInt low high ⌊value x⌋ := by
  rw [zero_le_iff] at hx
  change x.toModel.unpack.isFinite = true at hfinite
  unfold floorWithin value
  rw [of_eq_ofUnpacked]
  generalize x.toModel.unpack = u at *
  cases hx using IsNonneg.cases with
  | infinity => cases hfinite
  | zero s =>
      have hzero : floorOf (signed (isNegative s) 0) (-1074) = ⌊(0 : ℚ)⌋ := by
        cases s <;> exact (floorOf_eq 0 (-1074)).trans (by simp)
      exact congrArg (clampInt low high) hzero
  | finite m e hm => exact congrArg (clampInt low high) (floorOf_eq m e)

/-- The least integer not below what the double stands for. -/
theorem ceilWithin_eq (hx : 0 ≤ x) (hfinite : x.isFinite = true) (low high : ℤ) :
    ceilWithin low high x = clampInt low high ⌈value x⌉ := by
  have hceil : ∀ (m : ℕ) (e : ℤ), -floorOf (-m) e = ⌈m * weight e⌉ := fun m e => by
    rw [floorOf_eq, Int.cast_neg, Int.cast_natCast, neg_mul, Int.floor_neg, neg_neg]
  rw [zero_le_iff] at hx
  change x.toModel.unpack.isFinite = true at hfinite
  unfold ceilWithin value
  rw [of_eq_ofUnpacked]
  generalize x.toModel.unpack = u at *
  cases hx using IsNonneg.cases with
  | infinity => cases hfinite
  | zero s =>
      have hzero : -floorOf (-signed (isNegative s) 0) (-1074) = ⌈(0 : ℚ)⌉ := by
        cases s <;> exact (hceil 0 (-1074)).trans (by simp)
      exact congrArg (clampInt low high) hzero
  | finite m e hm => exact congrArg (clampInt low high) (hceil m e)

theorem ceilWithin_of_not_finite (hx : 0 ≤ x) (hinfinite : x.isFinite = false) (low high : ℤ) :
    ceilWithin low high x = high := by
  rw [zero_le_iff] at hx
  change x.toModel.unpack.isFinite = false at hinfinite
  unfold ceilWithin
  rw [of_eq_ofUnpacked]
  generalize x.toModel.unpack = u at *
  cases hx using IsNonneg.cases with
  | infinity => rfl
  | zero s => cases hinfinite
  | finite m e hm => cases hinfinite

end Latchkey.Binary64
