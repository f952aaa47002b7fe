import Mathlib.Tactic.FieldSimp
import Mathlib.Tactic.Linarith
import PlanarArm.Proofs.Scalar.Real
import PlanarArm.Session.FrameClock

/-!
# The time that frames let pass

In exact numbers a frame lets pass what has gone by since the frame before it, or the limit of the
clock if that is less. So several frames let no more pass than what goes by from the first of them,
or from the frame before it, to the last one.

## Main results

* `FrameClock.step_real`: the time of one frame.
* `FrameClock.passed_le`: the time of frames that come one after the other.
-/

namespace PlanarArm

theorem secondsOfNanos_real (nanos : Nat) : (secondsOfNanos nanos : ℝ) = nanos / 10 ^ 9 := by
  have parts : (nanos : ℝ) = 10 ^ 9 * (nanos / 10 ^ 9 : Nat) + (nanos % 10 ^ 9 : Nat) := by
    exact_mod_cast (Nat.div_add_mod nanos (10 ^ 9)).symm
  have unfolded : (secondsOfNanos nanos : ℝ) =
      ((nanos / 10 ^ 9 : Nat) : ℝ) + ((nanos % 10 ^ 9 : Nat) : ℝ) / ((10 ^ 9 : Nat) : ℝ) := rfl
  rw [unfolded, parts, Nat.cast_pow, Nat.cast_ofNat]
  field_simp

namespace FrameClock

theorem last_create {α : Type} [Scalar α] (maxStep : α) : (create maxStep).last = none := by
  unfold create
  split <;> rfl

theorem create_of_pos {maxStep : ℝ} (positive : 0 < maxStep) :
    create maxStep = ⟨none, maxStep⟩ := by
  rw [create, Scalar.isFinite_real, Scalar.zero_real, decide_eq_true positive]
  rfl

/-- A limit that is not positive is not used. -/
theorem create_pos (maxStep : ℝ) : 0 < (create maxStep).maxStep := by
  by_cases positive : 0 < maxStep
  · rw [create_of_pos positive]
    exact positive
  · rw [create, Scalar.zero_real, decide_eq_false positive, Bool.and_false]
    show (0 : ℝ) < 0.1
    norm_num

variable {clock : FrameClock ℝ} {now : Nat}

/-- A frame lets pass what has gone by since the frame before it, if that is within the limit. -/
theorem step_real (clock : FrameClock ℝ) (now : Nat) :
    (clock.step now).1 =
      min (clock.last.elim 0 fun before => ((now - before : Nat) : ℝ) / 10 ^ 9) clock.maxStep := by
  unfold step
  dsimp only
  rw [Scalar.minNum_real]
  cases clock.last with
  | none => rw [Option.elim_none, Scalar.zero_real]
  | some before => rw [Option.elim_some, ← secondsOfNanos_real]

theorem step_snd (clock : FrameClock ℝ) (now : Nat) :
    (clock.step now).2 = ⟨some now, clock.maxStep⟩ :=
  rfl

theorem step_nonneg (positive : 0 < clock.maxStep) (now : Nat) : 0 ≤ (clock.step now).1 := by
  rw [step_real]
  refine le_min ?_ positive.le
  cases clock.last with
  | none => exact le_rfl
  | some before => exact div_nonneg (Nat.cast_nonneg _) (by positivity)

theorem step_le_maxStep (clock : FrameClock ℝ) (now : Nat) :
    (clock.step now).1 ≤ clock.maxStep := by
  rw [step_real]
  exact min_le_right _ _

theorem step_of_first (positive : 0 < clock.maxStep) (first : clock.last = none) (now : Nat) :
    (clock.step now).1 = 0 := by
  rw [step_real, first, Option.elim_none, min_eq_left positive.le]

theorem step_of_later {before : Nat} (last : clock.last = some before) (later : before ≤ now) :
    (clock.step now).1 = min (((now : ℝ) - before) / 10 ^ 9) clock.maxStep := by
  rw [step_real, last, Option.elim_some, Nat.cast_sub later]

/-! ## One frame after the other -/

/-- The clock after frames at these moments. -/
def through {α : Type} [Scalar α] (clock : FrameClock α) (moments : List Nat) : FrameClock α :=
  moments.foldl (fun clock now => (clock.step now).2) clock

/-- The time that frames at these moments let pass. -/
noncomputable def passed (clock : FrameClock ℝ) : List Nat → ℝ
  | [] => 0
  | now :: rest => (clock.step now).1 + passed (clock.step now).2 rest

theorem through_append {α : Type} [Scalar α] (clock : FrameClock α) (moments later : List Nat) :
    clock.through (moments ++ later) = (clock.through moments).through later :=
  List.foldl_append

theorem passed_append (clock : FrameClock ℝ) (moments later : List Nat) :
    clock.passed (moments ++ later) =
      clock.passed moments + (clock.through moments).passed later := by
  induction moments generalizing clock with
  | nil => exact (zero_add _).symm
  | cons now rest ih =>
    rw [List.cons_append, passed, ih, passed, add_assoc]
    rfl

theorem passed_snoc (clock : FrameClock ℝ) (moments : List Nat) (now : Nat) :
    clock.passed (moments ++ [now]) =
      clock.passed moments + ((clock.through moments).step now).1 := by
  rw [passed_append, passed, passed, add_zero]

/-- Frames let no more time pass than goes by from the last moment that the clock knows, or from one
that is not after any of the frames. -/
theorem passed_le {base latest : Nat} {moments : List Nat} (positive : 0 < clock.maxStep)
    (last : ∀ before, clock.last = some before → before = base)
    (forward : (base :: moments).Pairwise (· ≤ ·)) (ended : ∀ now ∈ base :: moments, now ≤ latest) :
    clock.passed moments ≤ ((latest : ℝ) - base) / 10 ^ 9 := by
  induction moments generalizing clock base with
  | nil =>
    have order : (base : ℝ) ≤ latest := by exact_mod_cast ended base List.mem_cons_self
    exact div_nonneg (by linarith) (by positivity)
  | cons now rest ih =>
    obtain ⟨order, forward⟩ := List.pairwise_cons.1 forward
    have later : (base : ℝ) ≤ now := by exact_mod_cast order now List.mem_cons_self
    have own : (clock.step now).1 ≤ ((now : ℝ) - base) / 10 ^ 9 := by
      cases known : clock.last with
      | none =>
        rw [step_of_first positive known]
        exact div_nonneg (by linarith) (by positivity)
      | some before =>
        obtain rfl := last before known
        rw [step_of_later known (order now List.mem_cons_self)]
        exact min_le_left _ _
    have others : (clock.step now).2.passed rest ≤ ((latest : ℝ) - now) / 10 ^ 9 :=
      ih positive (fun before same => (Option.some.inj same).symm) forward
        (List.forall_mem_cons.1 ended).2
    calc clock.passed (now :: rest)
        = (clock.step now).1 + (clock.step now).2.passed rest := rfl
      _ ≤ ((now : ℝ) - base) / 10 ^ 9 + ((latest : ℝ) - now) / 10 ^ 9 := add_le_add own others
      _ = ((latest : ℝ) - base) / 10 ^ 9 := by ring

/-- At none of the frames at these moments has the time that they let pass reached the limit. -/
def StaysBelow (clock : FrameClock ℝ) (moments : List Nat) (limit : ℝ) : Prop :=
  ∀ early, early ≠ [] → early <+: moments → clock.passed early < limit

theorem staysBelow_snoc {moments : List Nat} {now : Nat} {limit : ℝ} :
    clock.StaysBelow (moments ++ [now]) limit ↔
      clock.StaysBelow moments limit ∧ clock.passed (moments ++ [now]) < limit := by
  constructor
  · intro below
    have nonempty : moments ++ [now] ≠ [] := List.append_ne_nil_of_right_ne_nil _ (by simp)
    exact ⟨fun early some start => below early some (start.trans (List.prefix_append _ _)),
      below _ nonempty (List.prefix_refl _)⟩
  · rintro ⟨below, last⟩ early some start
    rcases List.prefix_concat_iff.1 start with rfl | start
    · exact last
    · exact below early some start

end FrameClock

end PlanarArm
