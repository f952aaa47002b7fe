import PlanarArm.Proofs.Scalar.Reciprocal
import PlanarArm.Scalar.Binary64

/-!
# Whole numbers as doubles

A number that a double has room for is not changed by rounding, however many zeros stand behind its
digits (`roundWithAccuracy_of_zeros`). So a natural number below `2 ^ 53` becomes the double that
is equal to it (`unpack_ofNat`) and is read back from it (`toUInt64_ofNat`), and a positive double
divided by itself is one (`div_self`).
-/

namespace PlanarArm

namespace Binary64

open Float.Model Float.Model.UnpackedFloat

/-! ## Digits with zeros behind them -/

theorem shiftRight_zeros (m k : Nat) :
    ExtendedMantissa.ofMantissaAndAccuracy (m * 2 ^ k) .exact >>> k =
      .ofMantissaAndAccuracy m .exact := by
  induction k generalizing m with
  | zero =>
    rw [Nat.pow_zero, Nat.mul_one]
    rfl
  | succ k ih =>
    have digits : m * 2 ^ (k + 1) = m * 2 * 2 ^ k := by ring
    have step : ExtendedMantissa.ofMantissaAndAccuracy (m * 2 ^ (k + 1)) .exact >>> (k + 1) =
        (ExtendedMantissa.ofMantissaAndAccuracy (m * 2 ^ (k + 1)) .exact >>> k).shiftRightOne := rfl
    rw [step, digits, ih]
    simp [ExtendedMantissa.shiftRightOne, ExtendedMantissa.ofMantissaAndAccuracy]

/-- Zeros behind the point are cut off. -/
theorem roundToInt_of_zeros (s : Sign) (m k : Nat) :
    roundToInt s (m * 2 ^ k) (-(k : Int)) = s.apply m := by
  have same : decreaseExponent (m * 2 ^ k) (-(k : Int)) 0 = (m * 2 ^ k, -(k : Int)) := by
    simp [decreaseExponent]
  have zeros : (0 - (-k : Int)).toNat = k := by omega
  rw [roundToInt, same]
  simp only [shiftToExponent, zeros, shiftRight_zeros]
  rfl

theorem log2_mul_two_pow {m : Nat} (pos : 0 < m) (k : Nat) : (m * 2 ^ k).log2 = m.log2 + k := by
  have present : m * 2 ^ k ≠ 0 := (Nat.mul_pos pos (Nat.two_pow_pos k)).ne'
  refine (Nat.log2_eq_iff present).2 ⟨?_, ?_⟩
  · rw [Nat.pow_add]
    exact Nat.mul_le_mul_right _ (Nat.log2_self_le pos.ne')
  · rw [Nat.add_right_comm, Nat.pow_add]
    exact Nat.mul_lt_mul_of_pos_right Nat.lt_log2_self (Nat.two_pow_pos k)

theorem totalExponent_zeros {m : Nat} (pos : 0 < m) (e : Int) (k : Nat) :
    totalExponent (m * 2 ^ k) (e - k) = totalExponent m e := by
  rw [totalExponent, totalExponent, log2_mul_two_pow pos]
  omega

namespace Canonical

variable {m : Nat} {e : Int}

theorem targetExponent (form : Canonical m e) :
    Format.binary64.targetExponent (totalExponent m e) = e :=
  targetExponent_of_fit form.lt form.low form.full

/-- Rounding only takes the zeros behind a double away. -/
theorem roundWithAccuracy_of_zeros (form : Canonical m e) (s : Sign) (k : Nat) :
    roundWithAccuracy .binary64 s (m * 2 ^ k) (e - k) .exact = .finite s m e form.pos := by
  have zeros : (e - (e - k)).toNat = k := by omega
  have before : shiftToTargetExponent .binary64 (m * 2 ^ k) (e - k) .exact =
      (.ofMantissaAndAccuracy m .exact, e) := by
    rw [shiftToTargetExponent, totalExponent_zeros form.pos, form.targetExponent, shiftToExponent]
    simp only [zeros, shiftRight_zeros, Int.sub_add_cancel]
  exact roundWithAccuracy_of_shifts before rfl
    (shiftToTargetExponent_of_fit .exact form.lt form.low form.full) rfl form.pos

theorem mul_one (form : Canonical m e) :
    UnpackedFloat.mul .binary64 (.finite .positive m e form.pos)
        (.finite .positive (2 ^ 52) (-52) (Nat.two_pow_pos 52)) =
      .finite .positive m e form.pos :=
  form.roundWithAccuracy_of_zeros .positive 52

theorem div_self (form : Canonical m e) :
    UnpackedFloat.div .binary64 (.finite .positive m e form.pos) (.finite .positive m e form.pos) =
      .finite .positive (2 ^ 52) (-52) (Nat.two_pow_pos 52) := by
  have one : Canonical (2 ^ 52) (-52) := ⟨by decide, by decide, by decide, by decide, by decide⟩
  have target : min (e - e) (Format.binary64.targetExponent
      (totalExponent m e - totalExponent m e)) = -53 := by
    rw [Int.sub_self, Int.sub_self, targetExponent_eq]
    decide
  have core : divCore .binary64 m e m e = (2 ^ 53, -53, .exact) := by
    rw [divCore]
    rw [target, Int.sub_self]
    simp only [Nat.shiftLeft_eq]
    have quotient : m * 2 ^ 53 / m = 2 ^ 53 := Nat.mul_div_cancel_left _ form.pos
    have rest : m * 2 ^ 53 % m = 0 := Nat.mul_mod_right m (2 ^ 53)
    exact congr (congrArg Prod.mk quotient) (congrArg (Prod.mk _) (if_pos rest))
  rw [UnpackedFloat.div, core]
  exact one.roundWithAccuracy_of_zeros .positive 1

end Canonical

/-! ## Doubles -/

/-- A positive double divided by itself is one, exactly. -/
theorem div_self {x : Float} {m : Nat} {e : Int} {pos : 0 < m}
    (positive : x.toModel.unpack = .finite .positive m e pos) : x / x = 1.0 := by
  obtain ⟨form, -⟩ := magnitude_of_unpack positive
  have quotient : (x / x).toModel =
      pack (UnpackedFloat.div .binary64 x.toModel.unpack x.toModel.unpack) := rfl
  rw [positive, form.div_self] at quotient
  exact congrArg Float.ofModel quotient

section

variable {n : Nat}

/-- The digits of a natural number, followed by as many zeros as there is room for. -/
theorem canonical_ofNat (pos : 0 < n) (lt : n < 2 ^ 53) :
    Canonical (n * 2 ^ (52 - n.log2)) (n.log2 - 52) := by
  have log : n.log2 < 53 := (Nat.log2_lt pos.ne').2 lt
  have digits : (n * 2 ^ (52 - n.log2)).log2 = 52 := by
    rw [log2_mul_two_pow pos]
    omega
  have present : n * 2 ^ (52 - n.log2) ≠ 0 := (Nat.mul_pos pos (Nat.two_pow_pos _)).ne'
  obtain ⟨least, most⟩ := (Nat.log2_eq_iff present).1 digits
  exact ⟨Nat.pos_of_ne_zero present, most, by omega, by omega, .inl least⟩

theorem round_ofNat (pos : 0 < n) (lt : n < 2 ^ 53) :
    UnpackedFloat.round .binary64 .positive n 0 =
      .finite .positive (n * 2 ^ (52 - n.log2)) (n.log2 - 52) (canonical_ofNat pos lt).pos := by
  have log : n.log2 < 53 := (Nat.log2_lt pos.ne').2 lt
  have target : Format.binary64.targetExponent (totalExponent n 0) = n.log2 - 52 := by
    rw [targetExponent_eq, totalExponent]
    omega
  have room : (0 - (n.log2 - 52 : Int)).toNat = 52 - n.log2 := by omega
  have place : (0 : Int) - ((52 - n.log2 : Nat) : Int) = n.log2 - 52 := by omega
  rw [UnpackedFloat.round]
  simp only [target, decreaseExponent, room, place, Nat.shiftLeft_eq]
  simpa using (canonical_ofNat pos lt).roundWithAccuracy_of_zeros .positive 0

theorem unpack_toFloat (pos : 0 < n) (lt : n < 2 ^ 53) :
    n.toUInt64.toFloat.toModel.unpack =
      .finite .positive (n * 2 ^ (52 - n.log2)) (n.log2 - 52) (canonical_ofNat pos lt).pos := by
  have word : n.toUInt64.toNat = n := by
    simp
    omega
  have positive : compare (n : Int) 0 = .gt := Int.compare_eq_gt.2 (by omega)
  have unpacked : n.toUInt64.toFloat.toModel.unpack =
      (pack (UnpackedFloat.ofNat .binary64 n.toUInt64.toNat)).unpack := rfl
  rw [unpacked, word, UnpackedFloat.ofNat, UnpackedFloat.ofInt, UnpackedFloat.normalize, positive]
  dsimp only
  rw [Int.toNat_natCast, round_ofNat pos lt]
  exact unpack_pack_of_canonical (canonical_ofNat pos lt)

/-- A natural number that a double has room for becomes the double that is equal to it. -/
theorem unpack_ofNat (pos : 0 < n) (lt : n < 2 ^ 53) :
    (Float.ofNat n).toModel.unpack =
      .finite .positive (n * 2 ^ (52 - n.log2)) (n.log2 - 52) (canonical_ofNat pos lt).pos := by
  have product : Float.ofNat n = n.toUInt64.toFloat * 1.0 := by
    have read : Float.ofNat n = Float.ofScientific n false 0 := rfl
    rw [read, Float.ofScientific, dif_pos ⟨lt, Nat.zero_le 22⟩]
    rfl
  have model : (n.toUInt64.toFloat * 1.0).toModel =
      pack (UnpackedFloat.mul .binary64 n.toUInt64.toFloat.toModel.unpack
        (1.0 : Float).toModel.unpack) := rfl
  have form := canonical_ofNat pos lt
  rw [product, model, unpack_toFloat pos lt, unpack_one, form.mul_one]
  exact unpack_pack_of_canonical form

/-- A natural number that a double has room for is read back from its double. -/
theorem toUInt64_ofNat (lt : n < 2 ^ 53) : (Float.ofNat n).toUInt64.toNat = n := by
  rcases Nat.eq_zero_or_pos n with rfl | pos
  · decide
  · have log : n.log2 < 53 := (Nat.log2_lt pos.ne').2 lt
    have place : (n.log2 - 52 : Int) = -((52 - n.log2 : Nat) : Int) := by omega
    have whole : (Float.ofNat n).toModel.unpack.toInt 0 (UInt64.size - 1) = n := by
      rw [unpack_ofNat pos lt]
      exact (congrArg _ place).trans (roundToInt_of_zeros .positive n (52 - n.log2))
    have read : (Float.ofNat n).toUInt64 =
        UInt64.ofNatClamp ((Float.ofNat n).toModel.unpack.toInt 0 (UInt64.size - 1)).toNat := rfl
    rw [read, whole, Int.toNat_natCast]
    exact UInt64.toNat_ofNatClamp_of_lt (lt.trans (by decide))

theorem ofNat_div_ofNat (pos : 0 < n) (lt : n < 2 ^ 53) : Float.ofNat n / Float.ofNat n = 1.0 :=
  div_self (unpack_ofNat pos lt)

end

end Binary64

end PlanarArm
