import PlanarArm.Proofs.Simulator.Lines
import PlanarArm.Script.Statement
import PlanarArm.Settings.Basic

/-!
# How many steps a line may have

A number of steps that comes in with a command is brought between the least and the greatest one
(`lineSteps_mem`): in messages (`Command.moderate_of_ofWire`), and in scripts where the statement
gives it. A statement that gives none takes the configured number as it is
(`Statement.moderate_of_run`), so that whether all lines are moderate hangs on the settings alone
(`line_steps_bounded`), which admit any number of 32 bits (`configured_steps_unbounded`).
-/

namespace PlanarArm

/-- The number of steps is one that may be asked for. -/
def IsModerate (steps : Nat) : Prop :=
  minLineSteps ≤ steps ∧ steps ≤ maxLineSteps

instance (steps : Nat) : Decidable (IsModerate steps) :=
  inferInstanceAs (Decidable (_ ∧ _))

/-- If the kind is that of a line, its number of steps is one that may be asked for. -/
def CommandKind.IsModerate {α : Type} (kind : CommandKind α) : Prop :=
  ∀ target steps, kind = .lineTo target steps → PlanarArm.IsModerate steps

theorem lineSteps_mem (requested : Float) : IsModerate (lineSteps requested) :=
  ⟨Nat.le_max_left _ _, Nat.max_le.2 ⟨by decide, Nat.min_le_left _ _⟩⟩

section

variable {ε β γ : Type} {x : Except ε β}

theorem bind_eq_ok {f : β → Except ε γ} {c : γ} :
    x >>= f = .ok c ↔ ∃ b, x = .ok b ∧ f b = .ok c := by
  cases x with
  | error e =>
    constructor
    · nofun
    · rintro ⟨b, ⟨⟩, -⟩
  | ok b =>
    constructor
    · exact fun done => ⟨b, rfl, done⟩
    · rintro ⟨c, ⟨⟩, done⟩
      exact done

theorem map_eq_ok {f : β → γ} {c : γ} : x.map f = .ok c ↔ ∃ b, x = .ok b ∧ f b = c := by
  cases x with
  | error e =>
    constructor
    · nofun
    · rintro ⟨b, ⟨⟩, -⟩
  | ok b =>
    constructor
    · rintro ⟨⟩
      exact ⟨b, rfl, rfl⟩
    · rintro ⟨c, ⟨⟩, rfl⟩
      rfl

end

/-! ## Messages -/

namespace Command

theorem moderate_of_wireSteps {message : Json} {steps : Nat}
    (read : wireSteps message = .ok steps) : IsModerate steps := by
  unfold wireSteps at read
  split at read
  · cases read
    decide
  · cases read
    decide
  · obtain ⟨requested, -, rfl⟩ := map_eq_ok.1 read
    exact lineSteps_mem requested

theorem moderate_of_wireKind {message : Json} {name : String} {kind : CommandKind Float}
    (read : wireKind message name = .ok kind) : kind.IsModerate := by
  intro target steps line
  subst line
  unfold wireKind at read
  split at read
  case h_5 =>
    obtain ⟨count, counted, read⟩ := bind_eq_ok.1 read
    obtain ⟨point, -, read⟩ := bind_eq_ok.1 read
    cases read
    exact moderate_of_wireSteps counted
  case h_2 | h_3 | h_4 =>
    obtain ⟨_, -, same⟩ := map_eq_ok.1 read
    cases same
  all_goals cases read

/-- Whatever the message, a line in it is moderate. -/
theorem moderate_of_ofWire {message : Json} {c : Command Float} (read : ofWire message = .ok c) :
    c.kind.IsModerate := by
  unfold ofWire at read
  split at read
  · obtain ⟨id, -, read⟩ := bind_eq_ok.1 read
    split at read
    · cases read
    · obtain ⟨kind, known, read⟩ := bind_eq_ok.1 read
      cases read
      exact moderate_of_wireKind known
  · cases read

theorem moderate_of_ofWireText {text : String} {c : Command Float}
    (read : ofWireText text = .ok c) : c.kind.IsModerate := by
  unfold ofWireText at read
  split at read
  · exact moderate_of_ofWire read
  · cases read

end Command

/-! ## Statements -/

namespace Statement

variable {steps : Nat} {keyword line : String} {args : List String} {statement : Statement}

theorem two_le_of_twoArguments {what : String} {arguments : Float × Float}
    (read : twoArguments keyword args what = .ok arguments) : 2 ≤ args.length := by
  obtain ⟨a, -, read⟩ := bind_eq_ok.1 read
  obtain ⟨b, second, -⟩ := bind_eq_ok.1 read
  unfold argument at second
  split at second
  · cases second
  · next raw found => exact (List.getElem?_eq_some_iff.1 found).1

theorem moderate_of_stepsArgument {n : Nat} (read : stepsArgument keyword args steps = .ok n) :
    IsModerate n ∨ n = steps ∧ args.length ≤ 2 := by
  unfold stepsArgument at read
  split at read
  · obtain ⟨requested, -, rfl⟩ := map_eq_ok.1 read
    exact .inl (lineSteps_mem requested)
  · next few =>
    cases read
    exact .inr ⟨rfl, by omega⟩

/-- What words make of the number of steps: that of a line is one that may be asked for, or the
configured one if it is not among the words. Words make no message. -/
def StepsOf (steps : Nat) (args : List String) : Statement → Prop
  | .run (.lineTo _ n) => IsModerate n ∨ n = steps ∧ args.length = 2
  | .wire _ => False
  | _ => True

theorem stepsOf_ofWords (parsed : ofWords steps keyword args = .ok statement) :
    statement.StepsOf steps args := by
  unfold ofWords at parsed
  split at parsed
  case h_1 =>
    obtain ⟨-, -, same⟩ := bind_eq_ok.1 parsed
    cases same
    trivial
  case h_2 | h_3 | h_4 | h_6 =>
    obtain ⟨-, -, parsed⟩ := bind_eq_ok.1 parsed
    obtain ⟨_, -, same⟩ := bind_eq_ok.1 parsed
    cases same
    trivial
  case h_5 =>
    obtain ⟨-, -, parsed⟩ := bind_eq_ok.1 parsed
    obtain ⟨count, counted, parsed⟩ := bind_eq_ok.1 parsed
    obtain ⟨point, read, same⟩ := bind_eq_ok.1 parsed
    cases same
    have least := two_le_of_twoArguments read
    exact (moderate_of_stepsArgument counted).imp_right fun ⟨same, most⟩ => ⟨same, by omega⟩
  all_goals cases parsed <;> trivial

/-- A statement is a message, or it is made of the words of the line. -/
theorem parse_cases (parsed : parse steps line = .ok (some statement)) :
    (∃ text c, Command.ofWireText text = .ok c ∧ statement = .wire c) ∨
      ∃ keyword args, codeWords (Text.trim line.toList) = keyword :: args ∧
        statement.StepsOf steps args := by
  unfold parse at parsed
  split at parsed
  · cases parsed
  · cases parsed
  · obtain ⟨c, read, same⟩ := map_eq_ok.1 parsed
    cases same
    exact .inl ⟨_, c, read, rfl⟩
  · split at parsed
    · cases parsed
    · next keyword args words =>
      obtain ⟨other, read, same⟩ := map_eq_ok.1 parsed
      cases same
      exact .inr ⟨keyword, args, words, stepsOf_ofWords read⟩

/-- A line in a message is moderate. -/
theorem moderate_of_wire {c : Command Float} (parsed : parse steps line = .ok (some (.wire c))) :
    c.kind.IsModerate := by
  rcases parse_cases parsed with ⟨text, d, read, same⟩ | ⟨keyword, args, -, impossible⟩
  · cases same
    exact Command.moderate_of_ofWireText read
  · cases impossible

/-- A line in words is moderate, or has the configured number of steps and gives none. -/
theorem moderate_of_run {target : Point Float} {n : Nat}
    (parsed : parse steps line = .ok (some (.run (.lineTo target n)))) :
    IsModerate n ∨ n = steps ∧ (codeWords (Text.trim line.toList)).length = 3 := by
  rcases parse_cases parsed with ⟨text, d, -, same⟩ | ⟨keyword, args, words, made⟩
  · cases same
  · rw [words, List.length_cons]
    exact made.imp_right fun ⟨same, two⟩ => ⟨same, congrArg Nat.succ two⟩

/-- A line that gives no number of steps has the configured one, whatever it is. -/
theorem parse_plain_line (steps : Nat) :
    parse steps "line_to 1 1" = .ok (some (.run (.lineTo ⟨1.0, 1.0⟩ steps))) :=
  rfl

end Statement

/-- The numbers of steps of all lines, wherever they come from, where `steps` is the configured one.
In messages, those that scripts hold included, they are between 2 and 10000; so they are in
statements, unless the statement gives none, and then it is the configured one. So they always are if
and only if the configured one is. A line that is next in the simulator is replaced by as many
commands, or by two if it has fewer. -/
theorem line_steps_bounded (steps : Nat) :
    (∀ (message : Json) (c : Command Float) (target : Point Float) (n : Nat),
      Command.ofWire message = .ok c → c.kind = .lineTo target n → 2 ≤ n ∧ n ≤ 10000) ∧
    (∀ (line : String) (c : Command Float) (target : Point Float) (n : Nat),
      Statement.parse steps line = .ok (some (.wire c)) → c.kind = .lineTo target n →
      2 ≤ n ∧ n ≤ 10000) ∧
    (∀ (line : String) (target : Point Float) (n : Nat),
      Statement.parse steps line = .ok (some (.run (.lineTo target n))) →
      2 ≤ n ∧ n ≤ 10000 ∨
        n = steps ∧ (Statement.codeWords (Text.trim line.toList)).length = 3) ∧
    ((∀ (line : String) (target : Point Float) (n : Nat),
      Statement.parse steps line = .ok (some (.run (.lineTo target n))) → 2 ≤ n ∧ n ≤ 10000) ↔
        2 ≤ steps ∧ steps ≤ 10000) ∧
    ∀ (α : Type) [Scalar α] (s : Simulator α) (c : Command α) (rest : CommandQueue α)
      (target : Point α) (n : Nat), s.running = none → s.queue.pop? = some (c, rest) →
      c.kind = .lineTo target n →
      ∃ (t : Simulator α) (commands : List (Command α)), s.startNext = t.startNext ∧
        t.queue.toList = commands ++ rest.toList ∧ commands.length = max n 2 := by
  refine ⟨fun message c target n read => Command.moderate_of_ofWire read target n,
    fun line c target n parsed => Statement.moderate_of_wire parsed target n,
    fun line target n => Statement.moderate_of_run, ⟨fun bounded => ?_,
    fun configured line target n parsed => ?_⟩, ?_⟩
  · exact bounded _ _ _ (Statement.parse_plain_line steps)
  · rcases Statement.moderate_of_run parsed with moderate | ⟨rfl, -⟩
    · exact moderate
    · exact configured
  · intro α _ s c rest target n idle next line
    exact ⟨_, _, Simulator.startNext_of_line idle next line, rfl, length_lineCommands _ _ _ _⟩

/-- A line with a thousand million steps, in a script whose configured number is moderate, and in the
simulator. -/
theorem line_steps_bounded_billion :
    let c : Command Float := ⟨⟨"L"⟩, .lineTo ⟨1.0, 1.0⟩ 10000⟩
    let s : Simulator Float := { Simulator.create .standard with queue := CommandQueue.empty.push c }
    Statement.parse 50 "line_to 1 1 1e9" = .ok (some (.run c.kind)) ∧
      (∀ (line : String) (target : Point Float) (n : Nat),
        Statement.parse 50 line = .ok (some (.run (.lineTo target n))) → 2 ≤ n ∧ n ≤ 10000) ∧
      ∃ (t : Simulator Float) (commands : List (Command Float)), s.startNext = t.startNext ∧
        t.queue.toList = commands ++ [] ∧ commands.length = max 10000 2 := by
  intro c s
  obtain ⟨-, -, -, configured, engine⟩ := line_steps_bounded 50
  refine ⟨rfl, configured.2 ⟨by decide, by decide⟩, ?_⟩
  exact engine Float s c .empty ⟨1.0, 1.0⟩ 10000 rfl rfl rfl

/-- The settings admit a number of steps that no statement may ask for, and a line that gives none
has it: in the simulator it is replaced by more than four thousand million commands. -/
theorem configured_steps_unbounded :
    ∃ settings : Settings, Settings.parse? "line_steps = 4294967295" = some settings ∧
      Statement.parse settings.lineSteps "line_to 1 1" =
        .ok (some (.run (.lineTo ⟨1.0, 1.0⟩ 4294967295))) ∧
      ¬(2 ≤ 4294967295 ∧ 4294967295 ≤ 10000) ∧
      ∀ id (source target : Point Float),
        (lineCommands id source target 4294967295).length = 4294967295 := by
  have read : (Settings.parse? "line_steps = 4294967295").map Settings.lineSteps =
      some 4294967295 := by decide +kernel
  obtain ⟨settings, parsed, steps⟩ := Option.map_eq_some_iff.1 read
  refine ⟨settings, parsed, ?_, by decide, fun id source target => ?_⟩
  · rw [steps]
    exact Statement.parse_plain_line 4294967295
  · rw [length_lineCommands]
    rfl

end PlanarArm
