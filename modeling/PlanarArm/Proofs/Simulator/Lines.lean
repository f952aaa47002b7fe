import Mathlib.Analysis.Convex.Between
import PlanarArm.Proofs.Arm.Direction
import PlanarArm.Proofs.Command.SubId
import PlanarArm.Proofs.Scalar.Whole
import PlanarArm.Proofs.Simulator.Steps

/-!
# Straight lines

A line of the hand is replaced by commands to points on it (`linePoints`). The last one is the
target itself, in doubles no less than in exact numbers; in exact numbers all of them are where they
ought to be, after equal parts of the way.

* `getLast?_linePoints`: the last point is the target.
* `linePoints_mem_segment`, `isChain_linePoints`, `pairwise_linePoints`: the points lie on the
  segment, equally far apart, and each is further from the source than those before it.
* `Simulator.startNext_of_line`: the commands that replace a line come before all that wait.
* `line_expansion`: all of it together.
-/

namespace PlanarArm

/-! ## The commands of a line -/

section

variable {α : Type} [Scalar α]

/-- The points that a line goes through, the target included. -/
def linePoints (source target : Point α) (count : Nat) : List (Point α) :=
  (List.range count).map fun i =>
    source.lerp target (Scalar.ofNat (i + 1) / Scalar.ofNat count)

theorem length_linePoints (source target : Point α) (count : Nat) :
    (linePoints source target count).length = count := by
  rw [linePoints, List.length_map, List.length_range]

theorem kind_lineCommands (parent : CommandId) (source target : Point α) (steps : Nat) :
    (lineCommands parent source target steps).map Command.kind =
      (linePoints source target (lineCount steps)).map .moveTo := by
  rw [lineCommands, linePoints, List.map_map, List.map_map]
  rfl

theorem id_lineCommands (parent : CommandId) (source target : Point α) (steps : Nat) :
    (lineCommands parent source target steps).map Command.id =
      (List.range (lineCount steps)).map fun i => parent.sub (i + 1) := by
  rw [lineCommands, List.map_map]
  rfl

theorem exists_sub_of_mem_lineCommands {parent : CommandId} {source target : Point α} {steps : Nat}
    {part : Command α} (mem : part ∈ lineCommands parent source target steps) :
    ∃ i, part.id = parent.sub i := by
  obtain ⟨i, -, rfl⟩ := List.mem_map.1 mem
  exact ⟨i + 1, rfl⟩

theorem nodup_id_lineCommands (parent : CommandId) (source target : Point α) (steps : Nat) :
    ((lineCommands parent source target steps).map Command.id).Nodup := by
  rw [id_lineCommands]
  refine List.nodup_range.map fun i j same => ?_
  exact Nat.succ_injective (parent.sub_injective same)

/-- Where a number divided by itself is at least one, the last point is the target itself. -/
theorem getLast?_linePoints (source target : Point α) {count : Nat} (pos : 0 < count)
    (whole : (1.0 : α) ≤ Scalar.ofNat count / Scalar.ofNat count) :
    (linePoints source target count).getLast? = some target := by
  obtain ⟨n, rfl⟩ := Nat.exists_eq_add_one.2 pos
  have last : source.lerp target (Scalar.ofNat (n + 1) / Scalar.ofNat (n + 1)) = target :=
    if_pos whole
  rw [linePoints, List.range_succ, List.map_append, List.map_singleton, List.getLast?_concat, last]

end

theorem getLast?_linePoints_float (source target : Point Float) {count : Nat} (pos : 0 < count)
    (lt : count < 2 ^ 53) : (linePoints source target count).getLast? = some target := by
  have whole : Scalar.ofNat count / Scalar.ofNat count = (1.0 : Float) :=
    Binary64.ofNat_div_ofNat pos lt
  refine getLast?_linePoints source target pos ?_
  rw [whole]
  exact (Binary64.le_iff_of_unpack Binary64.unpack_one Binary64.unpack_one).2 (.inr ⟨rfl, le_rfl⟩)

/-! ## In exact numbers -/

section

variable {source target : Point ℝ} {count : Nat}

/-- Up to the target the way is straight. That it ends there makes no difference. -/
theorem Point.lerp_real {t : ℝ} (le : t ≤ 1) : source.lerp target t =
    ⟨source.x + (target.x - source.x) * t, source.y + (target.y - source.y) * t⟩ := by
  unfold lerp
  split
  · next full =>
    rw [Scalar.one_real] at full
    obtain rfl := le_antisymm le full
    cases target
    simp
  · rfl

theorem Point.toComplex_lerp {t : ℝ} (le : t ≤ 1) :
    (source.lerp target t).toComplex = AffineMap.lineMap source.toComplex target.toComplex t := by
  rw [lerp_real le, AffineMap.lineMap_apply]
  apply Complex.ext
  · simp [toComplex]
    ring
  · simp [toComplex]
    ring

theorem fraction_le_one {k : Nat} (le : k ≤ count) : (k : ℝ) / count ≤ 1 :=
  div_le_one_of_le₀ (Nat.cast_le.2 le) (Nat.cast_nonneg count)

theorem getElem_linePoints {k : Nat} (within : k < (linePoints source target count).length) :
    (linePoints source target count)[k] =
      source.lerp target ((k + 1 : Nat) / (count : ℝ)) := by
  simp only [linePoints, List.getElem_map, List.getElem_range]
  rfl

/-- The source and the points: where the line is after each part. -/
theorem getElem_cons_linePoints {k : Nat}
    (within : k < (source :: linePoints source target count).length) :
    (source :: linePoints source target count)[k].toComplex =
      AffineMap.lineMap source.toComplex target.toComplex ((k : ℝ) / count) := by
  cases k with
  | zero => simp
  | succ k =>
    rw [List.length_cons, length_linePoints] at within
    rw [List.getElem_cons_succ, getElem_linePoints, Point.toComplex_lerp (fraction_le_one (by omega))]

theorem linePoints_mem_segment {p : Point ℝ} (mem : p ∈ linePoints source target count) :
    p.toComplex ∈ segment ℝ source.toComplex target.toComplex := by
  obtain ⟨k, within, rfl⟩ := List.mem_iff_getElem.1 mem
  have le : k + 1 ≤ count := (length_linePoints source target count).symm ▸ within
  rw [getElem_linePoints, Point.toComplex_lerp (fraction_le_one le), segment_eq_image_lineMap]
  exact ⟨_, ⟨by positivity, fraction_le_one le⟩, rfl⟩

/-- From each point to the next it is the same part of the way. -/
theorem isChain_linePoints : (source :: linePoints source target count).IsChain fun p q =>
    q.toComplex - p.toComplex = (target.toComplex - source.toComplex) / count := by
  rw [List.isChain_iff_getElem]
  intro k within
  rw [getElem_cons_linePoints, getElem_cons_linePoints, AffineMap.lineMap_apply_module',
    AffineMap.lineMap_apply_module', add_sub_add_right_eq_sub, Complex.real_smul, Complex.real_smul]
  push_cast
  ring

/-- Each point is further from the source than those before it. -/
theorem pairwise_linePoints (different : source ≠ target) :
    (source :: linePoints source target count).Pairwise fun p q =>
      dist source.toComplex p.toComplex < dist source.toComplex q.toComplex := by
  have apart : 0 < dist source.toComplex target.toComplex := dist_pos.2 fun same => different <| by
    cases source
    cases target
    simp_all [Point.toComplex, Complex.ext_iff]
  rw [List.pairwise_iff_getElem]
  intro j k first second order
  rw [List.length_cons, length_linePoints] at second
  have pos : (0 : ℝ) < count := Nat.cast_pos.2 (by omega)
  have further : (j : ℝ) / count < k / count := div_lt_div_of_pos_right (Nat.cast_lt.2 order) pos
  rw [getElem_cons_linePoints, getElem_cons_linePoints, dist_left_lineMap, dist_left_lineMap,
    Real.norm_of_nonneg (by positivity), Real.norm_of_nonneg (by positivity)]
  exact mul_lt_mul_of_pos_right further apart

end

/-! ## The queue -/

/-- A line that is next is replaced where the hand is at that moment, and its commands come before
all that wait behind it. -/
theorem Simulator.startNext_of_line {α : Type} [Scalar α] {s : Simulator α} {c : Command α}
    {rest : CommandQueue α} {target : Point α} {steps : Nat} (idle : s.running = none)
    (next : s.queue.pop? = some (c, rest)) (line : c.kind = .lineTo target steps) :
    s.startNext = ({ s with
      queue := rest.pushFront (lineCommands c.id (forward s.model s.angles).hand target steps)
      outbox := s.outbox.push ⟨c.id, .ok .expanded⟩ } : Simulator α).startNext := by
  have plan : { s with queue := rest }.plan c =
      .expand (lineCommands c.id (forward s.model s.angles).hand target steps) := plan_line line
  rw [startNext_of_next idle next, start, plan]
  rfl

/-- A line is replaced by as many commands as it has steps, at least two, each to a point. They are
numbered from 1 on, so that no two of them share an identifier, and the last one goes to the target
itself, whatever the rounding. In exact numbers the points divide the segment into equal parts, in
order. When the line has its turn in the simulator, the segment begins where the hand is at that
moment, and the commands take their place before all that wait. -/
theorem line_expansion (parent : CommandId) {steps : Nat} (word : steps < 2 ^ 32) :
    let n := max steps 2
    (∀ source target : Point Float,
      let line := lineCommands parent source target steps
      line.map (fun c => c.id.text) =
          (List.range n).map (fun i => parent.text ++ ":" ++ (i + 1).repr) ∧
        (line.map Command.id).Nodup ∧
        ∃ points : List (Point Float), points.length = n ∧
          line.map Command.kind = points.map .moveTo ∧ points.getLast? = some target) ∧
    (∀ source target : Point ℝ,
      let line := lineCommands parent source target steps
      ∃ points : List (Point ℝ), points.length = n ∧
        line.map Command.kind = points.map .moveTo ∧
        (∀ k (within : k < points.length), points[k] =
          ⟨source.x + (target.x - source.x) * ((k + 1 : Nat) / (n : ℝ)),
            source.y + (target.y - source.y) * ((k + 1 : Nat) / (n : ℝ))⟩) ∧
        (∀ p ∈ points, p.toComplex ∈ segment ℝ source.toComplex target.toComplex) ∧
        ((source :: points).IsChain fun p q =>
          q.toComplex - p.toComplex = (target.toComplex - source.toComplex) / n) ∧
        (source ≠ target → (source :: points).Pairwise fun p q =>
          dist source.toComplex p.toComplex < dist source.toComplex q.toComplex)) ∧
    ∀ (α : Type) [Scalar α] (s : Simulator α) (c : Command α) (rest : CommandQueue α)
      (target : Point α), s.running = none → s.queue.pop? = some (c, rest) →
      c.kind = .lineTo target steps →
      ∃ t : Simulator α, s.startNext = t.startNext ∧
        t.queue.toList =
          lineCommands c.id (forward s.model s.angles).hand target steps ++ rest.toList ∧
        t = { s with queue := t.queue, outbox := s.outbox.push ⟨c.id, .ok .expanded⟩ } := by
  intro n
  have pos : 0 < n := by omega
  have lt : n < 2 ^ 53 := by omega
  refine ⟨fun source target => ⟨?_, ?_, ?_⟩, fun source target => ?_, ?_⟩
  · have texts := congrArg (List.map CommandId.text) (id_lineCommands parent source target steps)
    rw [List.map_map, List.map_map] at texts
    exact texts
  · exact nodup_id_lineCommands parent source target steps
  · exact ⟨_, length_linePoints source target n, kind_lineCommands parent source target steps,
      getLast?_linePoints_float source target pos lt⟩
  · refine ⟨_, length_linePoints source target n, kind_lineCommands parent source target steps,
      fun k within => ?_, fun p => linePoints_mem_segment, isChain_linePoints, pairwise_linePoints⟩
    have le : k + 1 ≤ n := (length_linePoints source target n).symm ▸ within
    exact (getElem_linePoints within).trans (Point.lerp_real (fraction_le_one le))
  · intro α _ s c rest target idle next line
    exact ⟨_, Simulator.startNext_of_line idle next line, rfl, rfl⟩

/-- Ten points between the resting hand of the standard arm and a point beside it, with a pause that
waits behind the line. -/
theorem line_expansion_ten :
    let parent : CommandId := ⟨"L"⟩
    let s : Simulator ℝ := { Simulator.create .standard with
      queue := (CommandQueue.empty.push ⟨parent, .lineTo ⟨0.75, 1⟩ 10⟩).push ⟨⟨"P"⟩, .sleep 1⟩ }
    let hand := (forward s.model s.angles).hand
    10 < 2 ^ 32 ∧
      (lineCommands parent (⟨1.75, 0⟩ : Point Float) ⟨0.75, 1⟩ 10).map (fun c => c.id.text) =
        (List.range 10).map (fun i => "L" ++ ":" ++ (i + 1).repr) ∧
      (∃ points : List (Point ℝ), points.length = 10 ∧
        (lineCommands parent hand ⟨0.75, 1⟩ 10).map Command.kind = points.map .moveTo) ∧
      ∃ t : Simulator ℝ, s.startNext = t.startNext ∧
        t.queue.toList = lineCommands parent hand ⟨0.75, 1⟩ 10 ++ [⟨⟨"P"⟩, .sleep 1⟩] := by
  intro parent s hand
  have word : 10 < 2 ^ 32 := by decide
  obtain ⟨doubles, reals, engine⟩ := line_expansion parent word
  obtain ⟨texts, -⟩ := doubles ⟨1.75, 0⟩ ⟨0.75, 1⟩
  obtain ⟨points, ten, kinds, -⟩ := reals hand ⟨0.75, 1⟩
  obtain ⟨t, starts, queue, -⟩ := engine ℝ s ⟨parent, .lineTo ⟨0.75, 1⟩ 10⟩
    (CommandQueue.empty.push ⟨⟨"P"⟩, .sleep 1⟩) ⟨0.75, 1⟩ rfl rfl rfl
  exact ⟨word, texts, ⟨points, ten, kinds⟩, t, starts, queue⟩

end PlanarArm
