import Mathlib
import PlanarArm.Decimal.Binary64

/-!
# The layout of a double

A finite double is a significand `m` and an exponent `e` within bounds (`Canonical`). What is read
off its 64 bits (`Magnitude.ofFloat`) is this pair, the pair is kept when it is packed into bits and
unpacked again (`unpack_pack_of_canonical`), and positive doubles are ordered by exponent first and
then by significand (`lt_iff_of_unpack`).
-/

namespace PlanarArm

namespace Binary64

open Float.Model Float.Model.UnpackedFloat

/-- The number `m * 2 ^ e` is a double: its significand has 53 digits, or fewer if its last place is
the least one. -/
structure Canonical (m : Nat) (e : Int) : Prop where
  pos : 0 < m
  lt : m < 2 ^ 53
  low : -1074 ≤ e
  high : e ≤ 971
  full : 2 ^ 52 ≤ m ∨ e = -1074

theorem exponentBias_eq : (Format.binary64.exponentBias : Int) = 1023 := rfl

theorem fractionBits_eq : (Format.binary64.mantissaBitsWithoutImplicit : Int) = 52 := rfl

theorem log2_of_full {m : Nat} (full : 2 ^ 52 ≤ m) (lt : m < 2 ^ 53) : m.log2 = 52 :=
  (Nat.log2_eq_iff (by omega)).2 ⟨full, lt⟩

/-! ## Reading the bits -/

theorem toNat_unpackExponent (bits : UInt64) :
    (@unpackExponent .binary64 bits.toBitVec).toNat = ((bits >>> 52) &&& 0x7FF).toNat := by
  have mask : (0x7FF : UInt64).toNat = 2 ^ 11 - 1 := rfl
  rw [UInt64.toNat_and, mask, Nat.and_two_pow_sub_one_eq_mod, UInt64.toNat_shiftRight]
  simp [unpackExponent, Nat.shiftRight_eq_div_pow]

theorem toNat_unpackMantissa (bits : UInt64) :
    (@unpackMantissa .binary64 bits.toBitVec).toNat = (bits &&& 0xFFFFFFFFFFFFF).toNat := by
  have mask : (0xFFFFFFFFFFFFF : UInt64).toNat = 2 ^ 52 - 1 := rfl
  rw [UInt64.toNat_and, mask, Nat.and_two_pow_sub_one_eq_mod]
  simp [unpackMantissa]

theorem toNat_one_append (v : BitVec 52) : (1#1 ++ v).toNat = 2 ^ 52 + v.toNat := by
  rw [BitVec.toNat_append, ← Nat.shiftLeft_add_eq_or_of_lt v.isLt]
  simp

theorem magnitude_of_unpack_bits {bits : UInt64} {s : Sign} {m : Nat} {e : Int} {pos : 0 < m}
    (finite : UnpackedFloat.unpack .binary64 bits.toBitVec = .finite s m e pos) :
    Canonical m e ∧ (Magnitude.ofBits bits).significand = m ∧
      (Magnitude.ofBits bits).exponent = e := by
  rw [Magnitude.ofBits, ← toNat_unpackExponent, ← toNat_unpackMantissa]
  have fraction : (@unpackMantissa .binary64 bits.toBitVec).toNat < 2 ^ 52 := BitVec.isLt _
  have field : (@unpackExponent .binary64 bits.toBitVec).toNat < 2 ^ 11 := BitVec.isLt _
  rw [UnpackedFloat.unpack] at finite
  split at finite
  · split at finite <;> cases finite
  · next ordinary =>
    have top : (@unpackExponent .binary64 bits.toBitVec).toNat ≠ 2047 :=
      fun same => ordinary (BitVec.eq_of_toNat_eq same)
    split at finite
    · next zero =>
      have bottom : (@unpackExponent .binary64 bits.toBitVec).toNat = 0 :=
        congrArg BitVec.toNat zero
      split at finite
      · cases finite
      · simp only [UnpackedFloat.finite.injEq, exponentBias_eq] at finite
        obtain ⟨-, rfl, rfl⟩ := finite
        rw [if_pos bottom, bottom]
        exact ⟨⟨pos, by omega, by omega, by omega, by omega⟩, rfl, by simp⟩
    · next present =>
      have bottom : (@unpackExponent .binary64 bits.toBitVec).toNat ≠ 0 :=
        fun same => present (BitVec.eq_of_toNat_eq same)
      have full := toNat_one_append (@unpackMantissa .binary64 bits.toBitVec)
      simp only [UnpackedFloat.finite.injEq, exponentBias_eq] at finite
      obtain ⟨-, rfl, rfl⟩ := finite
      rw [if_neg bottom]
      exact ⟨⟨pos, by omega, by omega, by omega, by omega⟩, full.symm, by simp⟩

/-- The significand and the exponent of a finite double are those that are read off its bits. -/
theorem magnitude_of_unpack {x : Float} {s : Sign} {m : Nat} {e : Int} {pos : 0 < m}
    (finite : x.toModel.unpack = .finite s m e pos) :
    Canonical m e ∧ (Magnitude.ofFloat x).significand = m ∧
      (Magnitude.ofFloat x).exponent = e :=
  magnitude_of_unpack_bits finite

/-! ## Packing -/

/-- With an ordinary exponent field the significand has a leading one. -/
theorem unpack_packComponents_normal {s : Sign} {k : BitVec 11} {v : BitVec 52} {m : Nat}
    {e : Int} {pos : 0 < m} (bottom : 0 < k.toNat) (top : k.toNat < 2047)
    (significand : m = 2 ^ 52 + v.toNat) (exponent : e = k.toNat - 1075) :
    UnpackedFloat.unpack .binary64 (packComponents .binary64 s k v) = .finite s m e pos := by
  have notTop : k ≠ -1#11 := by
    rintro rfl
    exact absurd top (by decide)
  have notBottom : k ≠ 0#11 := by
    rintro rfl
    exact absurd bottom (by decide)
  rw [UnpackedFloat.unpack]
  simp only [unpackMantissa_packComponents, unpackExponent_packComponents,
    unpackSign_packComponents, Sign.ofBitVec_toBitVec]
  rw [if_neg notTop, if_neg notBottom]
  simp only [UnpackedFloat.finite.injEq, true_and, exponentBias_eq]
  refine ⟨by rw [significand, toNat_one_append], ?_⟩
  simp
  omega

/-- With the exponent field zero it has none. -/
theorem unpack_packComponents_subnormal {s : Sign} {v : BitVec 52} {m : Nat} {e : Int}
    {pos : 0 < m} (significand : m = v.toNat) (exponent : e = -1074) :
    UnpackedFloat.unpack .binary64 (packComponents .binary64 s 0#11 v) = .finite s m e pos := by
  have present : v ≠ 0#52 := by
    rintro rfl
    simp at significand
    omega
  rw [UnpackedFloat.unpack]
  simp only [unpackMantissa_packComponents, unpackExponent_packComponents,
    unpackSign_packComponents, Sign.ofBitVec_toBitVec]
  rw [if_neg (by decide), if_pos trivial, dif_neg present]
  simp only [UnpackedFloat.finite.injEq, true_and, exponentBias_eq]
  refine ⟨significand.symm, ?_⟩
  simp
  omega

section

variable {s : Sign} {m : Nat} {e : Int} {pos : 0 < m}

/-- A double is packed and unpacked without a change. -/
theorem unpack_pack_of_canonical (form : Canonical m e) :
    (pack (.finite s m e pos)).unpack = .finite s m e pos := by
  obtain ⟨-, lt, low, high, full⟩ := form
  have bits : Format.binary64.mantissaBits = 53 := rfl
  have field : (e + Format.binary64.exponentBias +
      Format.binary64.mantissaBitsWithoutImplicit).toNat = (e + 1075).toNat := by
    rw [exponentBias_eq, fractionBits_eq]
    omega
  have packed : (pack (.finite s m e pos)).unpack =
      UnpackedFloat.unpack .binary64 (UnpackedFloat.pack .binary64 (.finite s m e pos)) := rfl
  rw [packed, UnpackedFloat.pack]
  dsimp only
  rw [field, if_neg (by omega), bits]
  split
  · next normal =>
    have digits : m.log2 = 52 := by omega
    have least := Nat.log2_self_le pos.ne'
    rw [digits] at least
    apply unpack_packComponents_normal <;> simp <;> omega
  · next subnormal =>
    have small : m < 2 ^ 52 := Nat.lt_of_not_le fun large =>
      subnormal (congrArg Nat.succ (log2_of_full large lt))
    apply unpack_packComponents_subnormal
    · simp
      omega
    · omega

/-- A number that is too large for a double becomes an infinite one. -/
theorem unpack_pack_of_overflow (large : 971 < e) :
    (pack (.finite s m e pos)).unpack = .infinity s := by
  have packed : (pack (.finite s m e pos)).unpack =
      UnpackedFloat.unpack .binary64 (UnpackedFloat.pack .binary64 (.finite s m e pos)) := rfl
  rw [packed, UnpackedFloat.pack]
  dsimp only
  rw [if_pos (by rw [exponentBias_eq, fractionBits_eq]; omega)]
  cases s <;> rfl

end

/-! ## The order of positive doubles -/

section

variable {x y : Float} {m n : Nat} {e f : Int} {pos : 0 < m} {otherPos : 0 < n}

/-- Of two positive doubles the exponents are compared first. -/
theorem lt_iff_of_unpack (first : x.toModel.unpack = .finite .positive m e pos)
    (second : y.toModel.unpack = .finite .positive n f otherPos) :
    x < y ↔ e < f ∨ e = f ∧ m < n := by
  have compared : x < y ↔ x.toModel.unpack.lt y.toModel.unpack = true :=
    decide_eq_true_iff.trans Iff.rfl
  rw [compared, first, second, UnpackedFloat.lt, UnpackedFloat.compare, beq_iff_eq,
    Option.some.injEq, Ordering.then_eq_lt, Int.compare_eq_lt, Int.compare_eq_eq,
    Nat.compare_eq_lt]

theorem le_iff_of_unpack (first : x.toModel.unpack = .finite .positive m e pos)
    (second : y.toModel.unpack = .finite .positive n f otherPos) :
    x ≤ y ↔ e < f ∨ e = f ∧ m ≤ n := by
  have compared : x ≤ y ↔ x.toModel.unpack.le y.toModel.unpack = true :=
    decide_eq_true_iff.trans Iff.rfl
  rw [compared, first, second, UnpackedFloat.le, UnpackedFloat.compare, Option.any_some]
  rw [Ordering.isLE_then_iff_or, Int.compare_eq_lt, Int.compare_eq_eq, Nat.isLE_compare]

end

end Binary64

end PlanarArm
