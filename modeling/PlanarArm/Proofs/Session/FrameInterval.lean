import PlanarArm.Console.Launch
import PlanarArm.Proofs.Scalar.Reciprocal
import PlanarArm.Proofs.Session.Course

/-!
# The frame rates that a session can be run at

A frame rate that is not positive and finite is replaced by the standard one. Any other rate is
taken as it is, and the reciprocals of some are no times that frames can come at: a rate of at most
`slowestRate` gives `2 ^ 64` seconds or more, and one above `fastestRate` no more than half a
nanosecond. At every other rate the frames come (`session_starts_between`).
-/

namespace PlanarArm

open Binary64

/-- A rate that is taken as it is. -/
def IsUsable (rate : Float) : Prop :=
  rate.isFinite = true ∧ 0.0 < rate

/-- The greatest rate with too much time between frames, `2 ^ -64`. -/
def slowestRate : Float :=
  5.421010862427522e-20

/-- The greatest rate with time between frames, one of a frame in half a nanosecond. -/
def fastestRate : Float :=
  2000000000.0

/-! ## Durations -/

/-- The whole number of `2 ^ -83` seconds in half a nanosecond. -/
def halfNanoDigits : Nat :=
  4835703278458516

section

variable {y : Float} {s : Float.Model.UnpackedFloat.Sign} {m : Nat} {e : Int} {pos : 0 < m}

theorem nanosOfSeconds?_of_unpack (finite : y.toModel.unpack = .finite s m e pos) :
    nanosOfSeconds? y =
      if 2 ^ (-e).toNat * 2 ^ 64 ≤ m * 2 ^ e.toNat then none
      else some (roundDiv (m * 2 ^ e.toNat * nanosPerSecond) (2 ^ (-e).toNat)) := by
  obtain ⟨-, significand, exponent⟩ := magnitude_of_unpack finite
  have isFinite : y.isFinite = true := congrArg Float.Model.UnpackedFloat.isFinite finite
  have numerator : (Magnitude.ofFloat y).numerator = m * 2 ^ e.toNat := by
    rw [Magnitude.numerator, significand, exponent, Nat.pow_eq]
  have denominator : (Magnitude.ofFloat y).denominator = 2 ^ (-e).toNat := by
    rw [Magnitude.denominator, exponent, Nat.pow_eq]
  rw [nanosOfSeconds?, isFinite, Bool.not_true, if_neg Bool.false_ne_true]
  dsimp only
  rw [numerator, denominator, intervalBound, Nat.pow_eq]

theorem nanosOfSeconds?_of_infinity (infinite : y.toModel.unpack = .infinity s) :
    nanosOfSeconds? y = none := by
  have isFinite : y.isFinite = false := congrArg Float.Model.UnpackedFloat.isFinite infinite
  unfold nanosOfSeconds?
  rw [isFinite]
  rfl

/-- From `2 ^ 64` seconds on, a duration is too long. -/
theorem nanosOfSeconds?_eq_none_iff (finite : y.toModel.unpack = .finite s m e pos) :
    nanosOfSeconds? y = none ↔ 12 ≤ e := by
  obtain ⟨form, -, -⟩ := magnitude_of_unpack finite
  rw [nanosOfSeconds?_of_unpack finite, ite_eq_left_iff]
  simp only [reduceCtorEq, imp_false, not_not]
  constructor
  · intro long
    by_contra below
    have top : 2 ^ e.toNat ≤ 2 ^ 11 := Nat.pow_le_pow_right (by omega) (by omega)
    have unit : 0 < 2 ^ (-e).toNat := Nat.two_pow_pos _
    have less : m * 2 ^ e.toNat ≤ (2 ^ 53 - 1) * 2 ^ 11 :=
      Nat.mul_le_mul (Nat.le_sub_one_of_lt form.lt) top
    omega
  · intro above
    have digits : 2 ^ 52 ≤ m := by
      have full := form.full
      omega
    have places : 2 ^ 12 ≤ 2 ^ e.toNat := Nat.pow_le_pow_right (by omega) (by omega)
    have whole : (-e).toNat = 0 := by omega
    have most : 2 ^ 52 * 2 ^ 12 ≤ m * 2 ^ e.toNat := Nat.mul_le_mul digits places
    rw [whole]
    omega

/-- Up to half a nanosecond, a duration is none. -/
theorem nanosOfSeconds?_eq_zero_iff (finite : y.toModel.unpack = .finite s m e pos) :
    nanosOfSeconds? y = some 0 ↔ e < -83 ∨ e = -83 ∧ m ≤ halfNanoDigits := by
  obtain ⟨form, -, -⟩ := magnitude_of_unpack finite
  have lt := form.lt
  have unit : 0 < 2 ^ (-e).toNat := Nat.two_pow_pos _
  have short : nanosOfSeconds? y = some 0 ↔
      e < 12 ∧ 2 * (m * 2 ^ e.toNat * nanosPerSecond) ≤ 2 ^ (-e).toNat := by
    have long := nanosOfSeconds?_eq_none_iff finite
    rw [nanosOfSeconds?_of_unpack finite, ite_eq_left_iff] at long
    rw [nanosOfSeconds?_of_unpack finite, ← roundDiv_eq_zero_iff unit]
    split <;> simp at long ⊢ <;> omega
  rw [short, nanosPerSecond, halfNanoDigits]
  rcases lt_trichotomy e (-83) with below | rfl | above
  · have places : 2 ^ 84 ≤ 2 ^ (-e).toNat := Nat.pow_le_pow_right (by omega) (by omega)
    have whole : e.toNat = 0 := by omega
    rw [whole]
    omega
  · have units : (- -83 : Int).toNat = 83 := rfl
    have whole : (-83 : Int).toNat = 0 := rfl
    rw [units, whole]
    omega
  · have digits : 2 ^ 52 ≤ m := by
      have full := form.full
      omega
    have places : 2 ^ (-e).toNat ≤ 2 ^ 82 := Nat.pow_le_pow_right (by omega) (by omega)
    have whole : 0 < 2 ^ e.toNat := Nat.two_pow_pos _
    have least : 2 ^ 52 * 1 ≤ m * 2 ^ e.toNat := Nat.mul_le_mul digits whole
    omega

end

/-! ## Reciprocals that are too long or too short -/

section

variable {m : Nat} {e : Int}

/-- The reciprocal of a double with all its digits is a quotient by these. Any other double is so
small that its reciprocal is very large. -/
theorem reciprocal_cases (form : Canonical m e) :
    2 ^ 52 ≤ m ∧ reciprocalPlace m e = max (-105 - e) (-1074) ∧
        (e ≤ 969 → reciprocalDigits m e = roundDiv (2 ^ 105) m) ∨
      e = -1074 ∧ 969 ≤ reciprocalPlace m e := by
  have log := form.log2_le
  rcases form.full with full | rfl
  · have place : reciprocalPlace m e = max (-105 - e) (-1074) := by
      rw [reciprocalPlace, log2_of_full full form.lt]
      omega
    refine .inl ⟨full, place, fun high => ?_⟩
    have scale : reciprocalScale m e = 105 := by
      rw [reciprocalScale, place]
      omega
    rw [reciprocalDigits, scale]
  · refine .inr ⟨rfl, ?_⟩
    rw [reciprocalPlace]
    omega

/-- Only the powers of two have reciprocals whose digits carry. -/
theorem roundDiv_carries_iff (full : 2 ^ 52 ≤ m) :
    roundDiv (2 ^ 105) m = 2 ^ 53 ↔ m ≤ 2 ^ 52 := by
  constructor
  · intro carries
    by_contra more
    have below : roundDiv (2 ^ 105) m ≤ 2 ^ 53 - 1 := roundDiv_le (by omega)
    omega
  · intro power
    obtain rfl : m = 2 ^ 52 := by omega
    rfl

/-- Here `8388608000000000 * 2 ^ -22` is the rate of a frame in half a nanosecond. -/
theorem roundDiv_short_iff (full : 2 ^ 52 ≤ m) :
    roundDiv (2 ^ 105) m ≤ halfNanoDigits ↔ 8388608000000000 < m := by
  constructor
  · intro short
    by_contra less
    have long : halfNanoDigits < roundDiv (2 ^ 105) m :=
      lt_roundDiv (by omega) (by rw [halfNanoDigits]; omega)
    omega
  · intro more
    exact roundDiv_le (by rw [halfNanoDigits]; omega)

theorem long_reciprocal_iff (form : Canonical m e) :
    12 ≤ (reciprocal m e).2 ↔ e < -116 ∨ e = -116 ∧ m ≤ 2 ^ 52 := by
  unfold reciprocal carry
  rcases reciprocal_cases form with ⟨full, place, digits⟩ | ⟨rfl, place⟩
  · have carries := roundDiv_carries_iff full
    split <;> dsimp only <;> omega
  · split <;> dsimp only <;> omega

theorem short_reciprocal_iff (form : Canonical m e) :
    (reciprocal m e).2 < -83 ∨ (reciprocal m e).2 = -83 ∧ (reciprocal m e).1 ≤ halfNanoDigits ↔
      -22 < e ∨ e = -22 ∧ 8388608000000000 < m := by
  have half : halfNanoDigits = 4835703278458516 := rfl
  unfold reciprocal carry
  rcases reciprocal_cases form with ⟨full, place, digits⟩ | ⟨rfl, place⟩
  · have short := roundDiv_short_iff full
    split <;> dsimp only <;> omega
  · split <;> dsimp only <;> omega

end

/-! ## Rates -/

theorem unpack_zero : (0.0 : Float).toModel.unpack = .zero .positive := rfl

theorem unpack_slowestRate :
    slowestRate.toModel.unpack = .finite .positive (2 ^ 52) (-116) (Nat.two_pow_pos 52) := rfl

theorem unpack_fastestRate :
    fastestRate.toModel.unpack = .finite .positive 8388608000000000 (-22) (by decide) := rfl

/-- The rates that are taken as they are are the positive doubles. -/
theorem unpack_of_isUsable {rate : Float} (usable : IsUsable rate) :
    ∃ m e, ∃ form : Canonical m e, rate.toModel.unpack = .finite .positive m e form.pos := by
  obtain ⟨finite, positive⟩ := usable
  have number : rate.toModel.unpack.isFinite = true := finite
  have above : (Float.Model.UnpackedFloat.zero .positive).lt rate.toModel.unpack = true :=
    unpack_zero ▸ of_decide_eq_true positive
  cases unpacked : rate.toModel.unpack with
  | notANumber => rw [unpacked] at number; cases number
  | infinity s => rw [unpacked] at number; cases number
  | zero s => rw [unpacked] at above; cases s <;> cases above
  | finite s m e pos =>
    rw [unpacked] at above
    cases s with
    | negative => cases above
    | positive => exact ⟨m, e, (magnitude_of_unpack unpacked).1, rfl⟩

theorem frameInterval?_of_isUsable {rate : Float} (usable : IsUsable rate) :
    frameInterval? rate = nanosOfSeconds? (1.0 / rate) := by
  rw [frameInterval?, usable.1, decide_eq_true usable.2]
  rfl

/-- A rate that is not usable is replaced by 60 frames per second. -/
theorem frameInterval?_of_not_isUsable {rate : Float} (bad : ¬IsUsable rate) :
    frameInterval? rate = some 16666667 := by
  have replaced : (rate.isFinite && decide (0.0 < rate)) = false := by
    simpa [IsUsable] using bad
  have standard : nanosOfSeconds? (1.0 / standardFrameRate) = some 16666667 := by decide +kernel
  rw [frameInterval?, replaced, if_neg Bool.false_ne_true]
  exact standard

/-- What there is between frames at a rate that is taken as it is. -/
theorem frameInterval?_cases {rate : Float} (usable : IsUsable rate) :
    (frameInterval? rate = none ↔ rate ≤ slowestRate) ∧
      (frameInterval? rate = some 0 ↔ fastestRate < rate) := by
  obtain ⟨m, e, form, positive⟩ := unpack_of_isUsable usable
  have reciprocal := unpack_reciprocal form positive
  rw [frameInterval?_of_isUsable usable, le_iff_of_unpack positive unpack_slowestRate,
    lt_iff_of_unpack unpack_fastestRate positive, ← long_reciprocal_iff form,
    eq_comm (a := (-22 : Int)) (b := e), ← short_reciprocal_iff form]
  split at reciprocal
  · next large =>
    rw [nanosOfSeconds?_of_infinity reciprocal]
    simp only [reduceCtorEq, true_iff, false_iff]
    omega
  · exact ⟨nanosOfSeconds?_eq_none_iff reciprocal, nanosOfSeconds?_eq_zero_iff reciprocal⟩

/-- No time is between frames that can be measured. -/
theorem frameInterval?_eq_none_iff (rate : Float) :
    frameInterval? rate = none ↔ IsUsable rate ∧ rate ≤ slowestRate := by
  by_cases usable : IsUsable rate
  · simp only [usable, true_and, (frameInterval?_cases usable).1]
  · simp [usable, frameInterval?_of_not_isUsable usable]

/-- No time is between frames at all. -/
theorem frameInterval?_eq_zero_iff (rate : Float) :
    frameInterval? rate = some 0 ↔ IsUsable rate ∧ fastestRate < rate := by
  by_cases usable : IsUsable rate
  · simp only [usable, true_and, (frameInterval?_cases usable).2]
  · simp [usable, frameInterval?_of_not_isUsable usable]

/-! ## Sessions -/

theorem Bench.isRunning_create (simulator : Simulator Float) (maxStep : Float)
    (reportCapacity inboxCapacity period budget : Nat) (supply : Nat → CommandId) :
    (Bench.create simulator maxStep reportCapacity inboxCapacity period budget
      supply).world.isRunning = true := by
  let start := World.create simulator maxStep reportCapacity
  obtain ⟨-, liveness, -⟩ := World.act_eq start.serve (.frame (0 * period))
  rw [World.serve_of_empty (w := start) rfl] at liveness
  exact decide_eq_true liveness

section

variable {s : Settings}

theorem Launch.bench_of_long (m : ArmModel Float) (long : frameInterval? s.frameRate = none) :
    bench s m = none := by
  rw [bench, timedInterval, long]

theorem Launch.bench_of_short (m : ArmModel Float) (short : frameInterval? s.frameRate = some 0) :
    ∃ b, bench s m = some b ∧ b.world.isRunning = false := by
  rw [bench, timedInterval, short]
  exact ⟨_, rfl, rfl⟩

theorem Launch.bench_of_interval (m : ArmModel Float) {period : Nat}
    (interval : frameInterval? s.frameRate = some (period + 1)) :
    ∃ b, bench s m = some b ∧ b.world.isRunning = true ∧ b.period = period + 1 := by
  rw [bench, timedInterval, interval]
  exact ⟨_, rfl, Bench.isRunning_create .., rfl⟩

end

/-- A session is there and runs at every rate that is not extreme, with time between its frames. A
rate that is too low has no session, and one that is too high has a session that was killed before
it did anything. -/
theorem session_starts_between (s : Settings) (m : ArmModel Float) :
    (Launch.bench s m = none ↔ IsUsable s.frameRate ∧ s.frameRate ≤ slowestRate) ∧
      ∀ b, Launch.bench s m = some b →
        (b.world.isRunning = false ↔ IsUsable s.frameRate ∧ fastestRate < s.frameRate) ∧
        (b.world.isRunning = true →
          frameInterval? s.frameRate = some b.period ∧ 0 < b.period) := by
  rw [← frameInterval?_eq_none_iff, ← frameInterval?_eq_zero_iff]
  rcases interval : frameInterval? s.frameRate with _ | _ | period
  · simp [Launch.bench_of_long m interval]
  · obtain ⟨b, starts, gone⟩ := Launch.bench_of_short m interval
    simp [starts, gone]
  · obtain ⟨b, starts, going, spaced⟩ := Launch.bench_of_interval m interval
    simp [starts, going, spaced]

/-- The standard settings, at another frame rate. -/
def Settings.atRate (rate : Float) : Settings :=
  { Settings.standard with frameRate := rate }

theorem Settings.arm_atRate (rate : Float) : ∃ m, (Settings.atRate rate).arm = .ok m :=
  have standard : ∃ m, Settings.standard.arm = .ok m := ⟨_, rfl⟩
  standard

/-- Two rates that are positive and finite, with settings that describe an arm: there is no session
at the first, and the session at the second was killed before it did anything. -/
theorem extreme_rates_have_no_frames :
    (∃ m, (Settings.atRate 1e-30).arm = .ok m ∧ Launch.bench (.atRate 1e-30) m = none) ∧
      ∃ m b, (Settings.atRate 3000000000.0).arm = .ok m ∧
        Launch.bench (.atRate 3000000000.0) m = some b ∧ b.world.isRunning = false := by
  have long : frameInterval? (Settings.atRate 1e-30).frameRate = none := by decide +kernel
  have short : frameInterval? (Settings.atRate 3000000000.0).frameRate = some 0 := by
    decide +kernel
  obtain ⟨m, arm⟩ := Settings.arm_atRate 1e-30
  obtain ⟨n, other⟩ := Settings.arm_atRate 3000000000.0
  obtain ⟨b, starts, gone⟩ := Launch.bench_of_short n short
  exact ⟨⟨m, arm, Launch.bench_of_long m long⟩, n, b, other, starts, gone⟩

end PlanarArm
