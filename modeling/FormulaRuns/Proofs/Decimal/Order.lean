import FormulaRuns.Value.Basic
import Mathlib

namespace FormulaRuns

open Float.Model (Format UnpackedFloat)
open Float.Model.UnpackedFloat (Sign packedNaN unpackExponent unpackMantissa
  unpackExponent_packComponents unpackMantissa_packComponents isNaN_unpack_iff_of_valid valid_pack)

/-- Sign, exponent and significand, compared in this order; the last two count downwards below
zero. -/
def rankOf : UnpackedFloat → ℤ ×ₗ ℤ ×ₗ ℤ
  | .infinity .negative => toLex (-2, toLex (0, 0))
  | .finite .negative significand exponent _ => toLex (-1, toLex (-exponent, -significand))
  | .zero _ | .notANumber => toLex (0, toLex (0, 0))
  | .finite .positive significand exponent _ => toLex (1, toLex (exponent, significand))
  | .infinity .positive => toLex (2, toLex (0, 0))

theorem unpacked_lt_iff {f g : UnpackedFloat} (number : f.isNaN = false)
    (number' : g.isNaN = false) : f.lt g ↔ rankOf f < rankOf g := by
  fun_cases UnpackedFloat.compare f g with
  | case1 => cases number
  | case2 => cases number'
  | case3 sign sign' => cases sign <;> cases sign' <;> decide
  | case4 | case5 =>
    cases g with
    | notANumber => cases number'
    | infinity _ => simp_all
    | zero _ => simp [UnpackedFloat.lt, UnpackedFloat.compare, rankOf, Prod.Lex.toLex_lt_toLex]
    | finite sign _ _ _ =>
      cases sign <;>
        simp [UnpackedFloat.lt, UnpackedFloat.compare, rankOf, Prod.Lex.toLex_lt_toLex]
  | case6 | case7 =>
    cases f with
    | notANumber => cases number
    | infinity _ => simp_all
    | zero _ => simp [UnpackedFloat.lt, UnpackedFloat.compare, rankOf, Prod.Lex.toLex_lt_toLex]
    | finite sign _ _ _ =>
      cases sign <;>
        simp [UnpackedFloat.lt, UnpackedFloat.compare, rankOf, Prod.Lex.toLex_lt_toLex]
  | case8 | case9 | case10 | case11 | case12 | case14 | case15 =>
    simp [UnpackedFloat.lt, UnpackedFloat.compare, rankOf, Prod.Lex.toLex_lt_toLex]
  | case13 =>
    simp [UnpackedFloat.lt, UnpackedFloat.compare, rankOf, Prod.Lex.toLex_lt_toLex,
      Ordering.then_eq_lt, Ordering.swap_then, Ordering.swap_eq_lt, compare_gt_iff_gt]
  | case16 =>
    simp [UnpackedFloat.lt, UnpackedFloat.compare, rankOf, Prod.Lex.toLex_lt_toLex,
      Ordering.then_eq_lt, compare_lt_iff_lt]

def floatRank (x : Float) : ℤ ×ₗ ℤ ×ₗ ℤ := rankOf x.toModel.unpack

theorem lt_iff_rank_lt {x y : Float} (number : x.isNaN = false) (number' : y.isNaN = false) :
    x < y ↔ floatRank x < floatRank y := by
  have unpacked : x < y ↔ x.toModel.unpack.lt y.toModel.unpack := decide_eq_true_iff
  rw [unpacked, unpacked_lt_iff number number', floatRank, floatRank]

/-- Of what is packed with the highest exponent only infinities are numbers, and these have no
significand. -/
theorem mantissa_pack {f : UnpackedFloat} (number : f.isNaN = false)
    (highest : unpackExponent (UnpackedFloat.pack .binary64 f) = -1#11) :
    unpackMantissa (UnpackedFloat.pack .binary64 f) = 0#52 := by
  revert highest
  fun_cases UnpackedFloat.pack Format.binary64 f with
  | case1 => cases number
  | case2 | case3 | case4 => exact fun _ => unpackMantissa_packComponents
  | case5 _ _ _ _ _ biased below _ =>
    intro highest
    rw [unpackExponent_packComponents] at highest
    have field : biased % 2048 = 2047 := by simpa using congrArg BitVec.toNat highest
    have bound : ¬2 ^ 11 ≤ biased + 1 := below
    omega
  | case6 =>
    intro highest
    rw [unpackExponent_packComponents] at highest
    cases highest

theorem isNaN_pack {f : UnpackedFloat} (number : f.isNaN = false) :
    (Float.Model.pack f).isNaN = false := by
  change (UnpackedFloat.unpack .binary64 (UnpackedFloat.pack .binary64 f)).isNaN = false
  fun_cases UnpackedFloat.unpack Format.binary64 (UnpackedFloat.pack .binary64 f) with
  | case2 _ _ highest significand => exact absurd (mantissa_pack number highest) significand
  | case1 | case3 | case4 | case5 => rfl

theorem isNaN_roundWithAccuracy (sign : Sign) (significand : Nat) (exponent : ℤ)
    (accuracy : UnpackedFloat.Accuracy) :
    (UnpackedFloat.roundWithAccuracy .binary64 sign significand exponent accuracy).isNaN =
      false := by
  unfold UnpackedFloat.roundWithAccuracy
  simp only
  split <;> rfl

theorem isNaN_mul_finite {f : UnpackedFloat} (number : f.isNaN = false) {sign : Sign}
    {significand : Nat} {exponent : ℤ} {positive : 0 < significand} :
    (UnpackedFloat.mul .binary64 f (.finite sign significand exponent positive)).isNaN = false := by
  cases f with
  | notANumber => cases number
  | infinity _ | zero _ => rfl
  | finite _ _ _ _ => exact isNaN_roundWithAccuracy _ _ _ _

theorem isNaN_ofScientific (n : Nat) :
    (UnpackedFloat.ofScientific .binary64 n 0).isNaN = false := by
  unfold UnpackedFloat.ofScientific
  split
  · rfl
  · split
    · rfl
    · split
      · rfl
      · rw [if_pos (Int.le_refl 0)]
        exact isNaN_mul_finite rfl

theorem isNaN_unpackedOfInt (n : ℤ) : (UnpackedFloat.ofInt .binary64 n).isNaN = false := by
  unfold UnpackedFloat.ofInt UnpackedFloat.normalize
  split
  · exact isNaN_roundWithAccuracy _ _ _ _
  · rfl
  · exact isNaN_roundWithAccuracy _ _ _ _

theorem isNaN_ofNat (n : Nat) : (Float.ofNat n).isNaN = false := by
  change (Float.ofScientific n false 0).isNaN = false
  unfold Float.ofScientific
  split
  · -- A small number is taken over and multiplied by one.
    have one : (Float.exactlyRepresentablePowersOfTen[0]).toModel.unpack =
        .finite .positive 4503599627370496 (-52) (by decide) := rfl
    have taken : (Float.Model.ofUInt64 n.toUInt64).unpack.isNaN = false :=
      isNaN_pack (isNaN_unpackedOfInt _)
    refine isNaN_pack ?_
    rw [one]
    exact isNaN_mul_finite taken
  · exact isNaN_pack (isNaN_ofScientific n)

theorem isNaN_neg {x : Float} (number : x.isNaN = false) : (-x).isNaN = false := by
  apply isNaN_pack
  have unpacked : x.toModel.unpack.isNaN = false := number
  cases parts : x.toModel.unpack with
  | notANumber => simp [parts, UnpackedFloat.isNaN] at unpacked
  | infinity _ | zero _ | finite _ _ _ _ => rfl

theorem isNaN_ofInt (n : ℤ) : (Float.ofInt n).isNaN = false := by
  cases n with
  | ofNat n => exact isNaN_ofNat n
  | negSucc n => exact isNaN_neg (isNaN_ofNat (n + 1))

theorem isNaN_truthNumber (b : Bool) : (Value.truthNumber b).isNaN = false := by
  cases b <;> decide

end FormulaRuns
