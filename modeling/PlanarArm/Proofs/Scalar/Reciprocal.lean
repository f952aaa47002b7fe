import PlanarArm.Decimal.Rounding
import PlanarArm.Proofs.Scalar.Layout

/-!
# The reciprocal of a double

One is divided by a positive double `m * 2 ^ e` by dividing a power of two by `m`, rounding the
quotient to whole units of its last place (`reciprocalDigits`, `reciprocalPlace`), and moving on by
one place if the rounding carried (`carry`). The result is a double, unless it is too large and so
infinite (`unpack_reciprocal`).
-/

namespace PlanarArm

namespace Binary64

open Float.Model Float.Model.UnpackedFloat

/-! ## Rounding to the digits of a double -/

/-- Digits with their last place at `place`, as the digits of a double: if there is one too many, it
is a zero at the end, which is left out. -/
def carry (digits : Nat) (place : Int) : Nat × Int :=
  if digits = 2 ^ 53 then (2 ^ 52, place + 1) else (digits, place)

section

variable {q r : Nat} {place : Int}

theorem carry_pos (pos : 0 < r) : 0 < (carry r place).1 := by
  unfold carry
  split
  · exact Nat.two_pow_pos 52
  · exact pos

theorem targetExponent_eq (total : Int) :
    Format.binary64.targetExponent total = max (total - 53) (-1074) := rfl

/-- Digits that a double has room for are not moved. -/
theorem targetExponent_of_fit (lt : q < 2 ^ 53) (low : -1074 ≤ place)
    (full : 2 ^ 52 ≤ q ∨ place = -1074) :
    Format.binary64.targetExponent (totalExponent q place) = place := by
  rw [targetExponent_eq, totalExponent]
  rcases Nat.eq_zero_or_pos q with rfl | pos
  · rw [Nat.log2_zero]
    omega
  · have most := (Nat.log2_lt pos.ne').2 lt
    rcases full with full | rfl
    · rw [log2_of_full full lt]
      omega
    · omega

theorem shiftToTargetExponent_of_fit (accuracy : Accuracy) (lt : q < 2 ^ 53)
    (low : -1074 ≤ place) (full : 2 ^ 52 ≤ q ∨ place = -1074) :
    shiftToTargetExponent .binary64 q place accuracy =
      (.ofMantissaAndAccuracy q accuracy, place) := by
  rw [shiftToTargetExponent, targetExponent_of_fit lt low full, shiftToExponent]
  simp only [Int.sub_self, Int.toNat_zero, Int.ofNat_zero, Int.add_zero]
  rfl

theorem shiftToTargetExponent_of_carry (low : -1074 ≤ place) :
    shiftToTargetExponent .binary64 (2 ^ 53) place .exact =
      (.ofMantissaAndAccuracy (2 ^ 52) .exact, place + 1) := by
  have digits : Nat.log2 (2 ^ 53) = 53 := Nat.log2_two_pow
  have target : Format.binary64.targetExponent (totalExponent (2 ^ 53) place) = place + 1 := by
    rw [targetExponent_eq, totalExponent, digits]
    omega
  have one : (place + 1 - place).toNat = 1 := by omega
  rw [shiftToTargetExponent, target, shiftToExponent]
  simp only [one]
  rfl

theorem shiftToTargetExponent_exact (le : r ≤ 2 ^ 53) (low : -1074 ≤ place)
    (full : 2 ^ 52 ≤ r ∨ place = -1074) :
    shiftToTargetExponent .binary64 r place .exact =
      (.ofMantissaAndAccuracy (carry r place).1 .exact, (carry r place).2) := by
  unfold carry
  split
  · next large =>
    subst large
    exact shiftToTargetExponent_of_carry low
  · next fits => exact shiftToTargetExponent_of_fit .exact (by omega) low full

theorem roundedMantissa_ofMantissaAndAccuracy (q : Nat) (accuracy : Accuracy) :
    (ExtendedMantissa.ofMantissaAndAccuracy q accuracy).roundedMantissa =
      accuracy.roundToNearestEven q := by
  rcases accuracy with _ | ⟨_ | _ | _⟩ <;> rfl

theorem le_roundToNearestEven (q : Nat) (accuracy : Accuracy) :
    q ≤ accuracy.roundToNearestEven q ∧ accuracy.roundToNearestEven q ≤ q + 1 := by
  rcases accuracy with _ | ⟨_ | _ | _⟩ <;> simp only [Accuracy.roundToNearestEven] <;> omega

/-- Digits are shifted to their place, rounded, and shifted once more since rounding may carry. -/
theorem roundWithAccuracy_of_shifts {s : Sign} {n : Nat} {first second : Int}
    {accuracy : Accuracy} {a b : ExtendedMantissa}
    (before : shiftToTargetExponent .binary64 q place accuracy = (a, first))
    (rounded : a.roundedMantissa = r)
    (after : shiftToTargetExponent .binary64 r first .exact = (b, second))
    (mantissa : b.mantissa = n) (pos : 0 < n) :
    roundWithAccuracy .binary64 s q place accuracy = .finite s n second pos := by
  subst mantissa
  rw [roundWithAccuracy, before]
  dsimp only
  rw [rounded, after]
  dsimp only
  rw [dif_neg pos.ne']

theorem roundWithAccuracy_of_rounded {s : Sign} {accuracy : Accuracy} (low : -1074 ≤ place)
    (full : 2 ^ 52 ≤ q ∨ place = -1074) (fit : q < 2 ^ 53 ∨ q = 2 ^ 53 ∧ accuracy = .exact)
    (rounded : accuracy.roundToNearestEven q = r) (pos : 0 < r) :
    roundWithAccuracy .binary64 s q place accuracy =
      .finite s (carry r place).1 (carry r place).2 (carry_pos pos) := by
  have near := le_roundToNearestEven q accuracy
  rw [rounded] at near
  rcases fit with lt | ⟨rfl, rfl⟩
  · have before := shiftToTargetExponent_of_fit accuracy lt low full
    have digits := roundedMantissa_ofMantissaAndAccuracy q accuracy
    rw [rounded] at digits
    have after := shiftToTargetExponent_exact (r := r) (by omega) low (by omega)
    exact roundWithAccuracy_of_shifts before digits after rfl _
  · obtain rfl : 2 ^ 53 = r := rounded
    have before := shiftToTargetExponent_of_carry low
    have after := @shiftToTargetExponent_of_fit (2 ^ 52) (place + 1) .exact (by omega) (by omega)
      (by omega)
    exact roundWithAccuracy_of_shifts before rfl after rfl _

end

/-- What is left of a quotient rounds it as `roundDiv` does. -/
theorem roundToNearestEven_accuracyOfFraction {num den : Nat} :
    (accuracyOfFraction (num % den) den).roundToNearestEven (num / den) = roundDiv num den := by
  unfold roundDiv accuracyOfFraction
  dsimp only
  split
  · next whole =>
    rw [whole]
    split
    · rfl
    · next pos =>
      obtain rfl : den = 0 := by omega
      simp [Accuracy.roundToNearestEven]
  · next rest =>
    rcases Nat.lt_trichotomy (2 * (num % den)) den with less | half | more
    · rw [if_pos less, Nat.compare_eq_lt.2 less]
      rfl
    · rw [if_neg (by omega), if_neg (by omega), Nat.compare_eq_eq.2 half]
      simp only [Accuracy.roundToNearestEven]
      split <;> omega
    · rw [if_neg (by omega), if_pos more, Nat.compare_eq_gt.2 more]
      rfl

/-! ## One divided by a double -/

/-- The exponent of the last place of the reciprocal of `m * 2 ^ e`. -/
def reciprocalPlace (m : Nat) (e : Int) : Int :=
  max (-53 - (m.log2 + e)) (-1074)

/-- The exponent of the power of two whose quotient by `m` is the reciprocal in units of its last
place. -/
def reciprocalScale (m : Nat) (e : Int) : Nat :=
  52 + (-52 - e - reciprocalPlace m e).toNat

/-- The reciprocal of `m * 2 ^ e` in whole units of its last place. -/
def reciprocalDigits (m : Nat) (e : Int) : Nat :=
  roundDiv (2 ^ reciprocalScale m e) m

/-- The significand and the exponent of the reciprocal of `m * 2 ^ e`. -/
def reciprocal (m : Nat) (e : Int) : Nat × Int :=
  carry (reciprocalDigits m e) (reciprocalPlace m e)

namespace Canonical

variable {m : Nat} {e : Int}

theorem log2_le (form : Canonical m e) : m.log2 ≤ 52 := by
  have most := (Nat.log2_lt form.pos.ne').2 form.lt
  omega

/-- The reciprocal has all the digits of a double, or its last place is the least one. -/
theorem reciprocalScale_cases (form : Canonical m e) :
    reciprocalPlace m e = -53 - (m.log2 + e) ∧ reciprocalScale m e = 53 + m.log2 ∨
      reciprocalPlace m e = -1074 ∧ 53 ≤ reciprocalScale m e ∧
        reciprocalScale m e ≤ 53 + m.log2 := by
  have log := form.log2_le
  have high := form.high
  unfold reciprocalScale reciprocalPlace
  omega

theorem scale_le_mul (form : Canonical m e) : 2 ^ reciprocalScale m e ≤ 2 ^ 53 * m := by
  have most : reciprocalScale m e ≤ 53 + m.log2 := by
    have scale := form.reciprocalScale_cases
    omega
  calc 2 ^ reciprocalScale m e ≤ 2 ^ (53 + m.log2) := Nat.pow_le_pow_right (by omega) most
    _ = 2 ^ 53 * 2 ^ m.log2 := Nat.pow_add 2 53 m.log2
    _ ≤ 2 ^ 53 * m := Nat.mul_le_mul_left _ (Nat.log2_self_le form.pos.ne')

theorem mul_le_scale (form : Canonical m e) :
    2 ^ 52 * m ≤ 2 ^ reciprocalScale m e ∨ reciprocalPlace m e = -1074 := by
  rcases form.reciprocalScale_cases with ⟨-, scale⟩ | ⟨least, -⟩
  · left
    calc 2 ^ 52 * m ≤ 2 ^ 52 * 2 ^ (m.log2 + 1) := Nat.mul_le_mul_left _ Nat.lt_log2_self.le
      _ = 2 ^ reciprocalScale m e := by
        rw [← Nat.pow_add, scale]
        congr 1
        omega
  · exact .inr least

theorem quotient_fits (form : Canonical m e) :
    2 ^ reciprocalScale m e / m < 2 ^ 53 ∨
      2 ^ reciprocalScale m e / m = 2 ^ 53 ∧ 2 ^ reciprocalScale m e % m = 0 := by
  rcases Nat.lt_or_eq_of_le form.scale_le_mul with less | equal
  · left
    rwa [Nat.div_lt_iff_lt_mul form.pos]
  · right
    rw [equal, Nat.mul_div_cancel _ form.pos, Nat.mul_mod_left]
    exact ⟨rfl, rfl⟩

theorem reciprocalDigits_le (form : Canonical m e) : reciprocalDigits m e ≤ 2 ^ 53 := by
  have most := form.scale_le_mul
  have pos := form.pos
  apply roundDiv_le
  omega

theorem le_reciprocalDigits (form : Canonical m e) :
    2 ^ 52 ≤ reciprocalDigits m e ∨ reciprocalPlace m e = -1074 := by
  have pos := form.pos
  refine form.mul_le_scale.imp_left fun least => ?_
  have digits : 2 ^ 52 - 1 < reciprocalDigits m e := lt_roundDiv pos (by omega)
  omega

theorem reciprocalDigits_pos (form : Canonical m e) : 0 < reciprocalDigits m e := by
  have scale := form.reciprocalScale_cases
  have least : 2 ^ 53 ≤ 2 ^ reciprocalScale m e := Nat.pow_le_pow_right (by omega) (by omega)
  have lt := form.lt
  apply lt_roundDiv form.pos
  omega

theorem divCore_one (form : Canonical m e) :
    divCore .binary64 (2 ^ 52) (-52) m e =
      (2 ^ reciprocalScale m e / m, reciprocalPlace m e,
        accuracyOfFraction (2 ^ reciprocalScale m e % m) m) := by
  have high := form.high
  have digits : Nat.log2 (2 ^ 52) = 52 := Nat.log2_two_pow
  have target : min (-52 - e) (Format.binary64.targetExponent
      (totalExponent (2 ^ 52) (-52) - totalExponent m e)) = reciprocalPlace m e := by
    rw [targetExponent_eq, totalExponent, totalExponent, digits, reciprocalPlace]
    omega
  rw [divCore]
  simp only [target, Nat.shiftLeft_eq, ← Nat.pow_add, reciprocalScale]

theorem reciprocal_pos (form : Canonical m e) : 0 < (reciprocal m e).1 :=
  carry_pos form.reciprocalDigits_pos

theorem div_one (form : Canonical m e) :
    UnpackedFloat.div .binary64 (.finite .positive (2 ^ 52) (-52) (Nat.two_pow_pos 52))
        (.finite .positive m e form.pos) =
      .finite .positive (reciprocal m e).1 (reciprocal m e).2 form.reciprocal_pos := by
  have low : -1074 ≤ reciprocalPlace m e := Int.le_max_right _ _
  have full : 2 ^ 52 ≤ 2 ^ reciprocalScale m e / m ∨ reciprocalPlace m e = -1074 :=
    form.mul_le_scale.imp_left (Nat.le_div_iff_mul_le form.pos).2
  have fit : 2 ^ reciprocalScale m e / m < 2 ^ 53 ∨ 2 ^ reciprocalScale m e / m = 2 ^ 53 ∧
      accuracyOfFraction (2 ^ reciprocalScale m e % m) m = .exact :=
    form.quotient_fits.imp_right fun whole => ⟨whole.1, if_pos whole.2⟩
  rw [UnpackedFloat.div, form.divCore_one]
  exact roundWithAccuracy_of_rounded low full fit roundToNearestEven_accuracyOfFraction
    form.reciprocalDigits_pos

/-- A reciprocal that is not too large is a double. -/
theorem reciprocal_canonical (form : Canonical m e) (high : (reciprocal m e).2 ≤ 971) :
    Canonical (reciprocal m e).1 (reciprocal m e).2 := by
  have low : -1074 ≤ reciprocalPlace m e := Int.le_max_right _ _
  have digits := form.le_reciprocalDigits
  have most := form.reciprocalDigits_le
  have pos := form.reciprocal_pos
  unfold reciprocal carry at *
  split at pos
  · next large =>
    rw [if_pos large] at *
    exact ⟨pos, by omega, by omega, high, by omega⟩
  · next fits =>
    rw [if_neg fits] at *
    exact ⟨pos, by omega, low, high, digits⟩

end Canonical

theorem unpack_one :
    (1.0 : Float).toModel.unpack = .finite .positive (2 ^ 52) (-52) (Nat.two_pow_pos 52) := rfl

/-- One divided by a positive double is the reciprocal of its significand and exponent, or infinite
if that is too large. -/
theorem unpack_reciprocal {x : Float} {m : Nat} {e : Int} (form : Canonical m e)
    (positive : x.toModel.unpack = .finite .positive m e form.pos) :
    (1.0 / x).toModel.unpack =
      if 971 < (reciprocal m e).2 then .infinity .positive
      else .finite .positive (reciprocal m e).1 (reciprocal m e).2 form.reciprocal_pos := by
  have quotient : (1.0 / x).toModel =
      pack (UnpackedFloat.div .binary64 (1.0 : Float).toModel.unpack x.toModel.unpack) := rfl
  rw [quotient, unpack_one, positive, form.div_one]
  split
  · next large => exact unpack_pack_of_overflow large
  · next fits => exact unpack_pack_of_canonical (form.reciprocal_canonical (by omega))

end Binary64

end PlanarArm
