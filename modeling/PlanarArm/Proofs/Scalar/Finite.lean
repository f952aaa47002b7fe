import PlanarArm.Proofs.Scalar.Real
import PlanarArm.Scalar.Binary64

/-!
# Finite numbers can be compared

A range with finite ends in order is one in which every angle has a nearest one. That needs a law of
the number system: of two finite numbers of which the second is not below the first, the first is at
most the second (`Scalar.FiniteTotal`). Exact real numbers have it, and so have the doubles that the
program runs with: only a number that is none compares with nothing, and such a one is not finite.
-/

namespace PlanarArm

/-- Finite numbers are totally ordered. -/
class Scalar.FiniteTotal (α : Type) [Scalar α] : Prop where
  le_of_not_lt : ∀ {a b : α}, isFinite a = true → isFinite b = true → ¬b < a → a ≤ b

instance : Scalar.FiniteTotal ℝ where
  le_of_not_lt _ _ other := not_lt.1 other

/-! ## Doubles -/

namespace Binary64

open Float.Model

theorem compare_sign_swap (s t : UnpackedFloat.Sign) : compare s t = (compare t s).swap := by
  cases s <;> cases t <;> rfl

/-- Of two magnitudes, the exponents are compared first. -/
theorem compare_magnitude_swap (e f : Int) (m n : Nat) :
    (compare e f).then (compare m n) = ((compare f e).then (compare n m)).swap := by
  have exponents : compare f e = (compare e f).swap := Std.OrientedCmp.eq_swap
  have significands : compare n m = (compare m n).swap := Std.OrientedCmp.eq_swap
  rw [Ordering.swap_then, exponents, significands, Ordering.swap_swap, Ordering.swap_swap]

theorem compare_swap (a b : UnpackedFloat) : a.compare b = (b.compare a).map Ordering.swap := by
  cases a with
  | notANumber => cases b <;> rfl
  | infinity s =>
    cases b with
    | infinity t => exact congrArg some (compare_sign_swap s t)
    | _ => cases s <;> rfl
  | zero s =>
    cases b with
    | infinity t => cases t <;> rfl
    | finite t => cases t <;> rfl
    | _ => rfl
  | finite s m e =>
    cases b with
    | notANumber => cases s <;> rfl
    | infinity t => cases s <;> cases t <;> rfl
    | zero t => cases s <;> rfl
    | finite t n f =>
      have order := compare_magnitude_swap e f m n
      cases s <;> cases t
      · exact congrArg some (congrArg Ordering.swap order)
      · rfl
      · rfl
      · exact congrArg some order

theorem compare_of_numbers {a b : UnpackedFloat} (first : a ≠ .notANumber)
    (second : b ≠ .notANumber) : ∃ order, a.compare b = some order := by
  cases a with
  | notANumber => exact absurd rfl first
  | infinity s =>
    cases b with
    | notANumber => exact absurd rfl second
    | infinity t => exact ⟨_, rfl⟩
    | _ => cases s <;> exact ⟨_, rfl⟩
  | zero s =>
    cases b with
    | notANumber => exact absurd rfl second
    | infinity t => cases t <;> exact ⟨_, rfl⟩
    | zero t => exact ⟨_, rfl⟩
    | finite t => cases t <;> exact ⟨_, rfl⟩
  | finite s =>
    cases b with
    | notANumber => exact absurd rfl second
    | infinity t => cases s <;> cases t <;> exact ⟨_, rfl⟩
    | zero t => cases s <;> exact ⟨_, rfl⟩
    | finite t => cases s <;> cases t <;> exact ⟨_, rfl⟩

theorem le_of_not_lt {a b : UnpackedFloat} (first : a ≠ .notANumber) (second : b ≠ .notANumber)
    (other : b.lt a ≠ true) : a.le b = true := by
  obtain ⟨order, compared⟩ := compare_of_numbers second first
  have swapped := compare_swap a b
  unfold UnpackedFloat.lt at other
  unfold UnpackedFloat.le
  rw [swapped, compared]
  rw [compared] at other
  cases order with
  | lt => exact absurd rfl other
  | eq => rfl
  | gt => rfl

/-- The difference of what is no number with itself is no number, so that it compares with
nothing. -/
theorem number_of_isFinite {x : Float} (finite : Scalar.isFinite x = true) :
    x.toModel.unpack ≠ .notANumber := by
  intro none
  have difference : (x - x).toModel =
      pack (UnpackedFloat.sub .binary64 x.toModel.unpack x.toModel.unpack) := rfl
  have compared : (x - x).toModel.unpack.le (x - x).toModel.unpack = true :=
    of_decide_eq_true (of_decide_eq_true finite)
  have kept : (pack (UnpackedFloat.sub .binary64 .notANumber .notANumber)).unpack =
    .notANumber := rfl
  rw [difference, none, kept] at compared
  cases compared

end Binary64

instance : Scalar.FiniteTotal Float where
  le_of_not_lt first second other :=
    decide_eq_true (Binary64.le_of_not_lt (Binary64.number_of_isFinite first)
      (Binary64.number_of_isFinite second) fun less => other (decide_eq_true less))

end PlanarArm
