import Mathlib.Tactic.MkIffOfInductiveProp
import PlanarArm.Proofs.Script.StepCount

/-!
# The grammar of script lines

`Statement.Written` is the grammar: each keyword with exactly its arguments, and the statement that
they make. A line that is neither blank nor a comment nor a message is parted into words, which are
the longest pieces without white space before its first `#` (`Text.words_eq_splitOnP`), and is read
as the grammar says, or is refused as an invalid argument (`parse_accepts_grammar`). The keywords
`reset_path`, `stop`, `reset` and `status` make an exception: they do not look at what follows them,
so that they are accepted with words that the grammar does not have (`surplus_words_accepted`).
-/

namespace PlanarArm

/-! ## Words -/

namespace Text

theorem splitWords_eq (word cs : List Char) :
    splitWords word cs = (cs.splitOnPPrepend isBlank word).filter (!·.isEmpty) := by
  induction cs generalizing word with
  | nil => cases word <;> simp [splitWords, List.splitOnPPrepend]
  | cons c rest ih =>
    have next : splitWords [] rest = (rest.splitOnP isBlank).filter (!·.isEmpty) := ih []
    rw [splitWords, List.splitOnPPrepend_cons_eq_if]
    split
    · cases word <;> simp [next]
    · exact ih (c :: word)

/-- The words of a text are what is left between its white space, where something is left. -/
theorem words_eq_splitOnP (cs : List Char) :
    words cs = (cs.splitOnP isBlank).filter (!·.isEmpty) :=
  splitWords_eq [] cs

theorem splitWords_ne_nil {word : List Char} (begun : word ≠ []) (cs : List Char) :
    splitWords word cs ≠ [] := by
  induction cs generalizing word with
  | nil => simp [splitWords, begun]
  | cons c rest ih =>
    rw [splitWords]
    split
    · simp [begun]
    · exact ih (List.cons_ne_nil c word)

theorem words_ne_nil {c : Char} (visible : isBlank c = false) (rest : List Char) :
    words (c :: rest) ≠ [] := by
  rw [words, splitWords, visible, if_neg Bool.false_ne_true]
  exact splitWords_ne_nil (List.cons_ne_nil c []) rest

/-- A trimmed text does not start with white space. -/
theorem isBlank_of_trim {cs rest : List Char} {c : Char} (trimmed : trim cs = c :: rest) :
    isBlank c = false := by
  have front : trim cs <+: trimHead cs := by
    have kept : trimHead (trimHead cs).reverse <:+ (trimHead cs).reverse :=
      List.dropWhile_suffix isBlank
    rw [← List.reverse_prefix, List.reverse_reverse] at kept
    exact kept
  obtain ⟨later, whole⟩ := front
  have first : (cs.dropWhile isBlank).head? = some c := by
    rw [← trimHead, ← whole, trimmed]
    rfl
  have visible := List.head?_dropWhile_not isBlank cs
  rw [first] at visible
  exact visible

end Text

/-! ## The grammar -/

namespace Statement

open Decimal (read?)

/-- A keyword in lower case, exactly its arguments, and the statement that they make; `steps` is the
number of points of a line that does not give it. -/
@[mk_iff written_iff]
inductive Written (steps : Nat) : String → List String → Statement → Prop where
  | home : Written steps "home" [] (.run .home)
  | setJoints {a b : String} {x y : Float} : read? a = some x → read? b = some y →
    Written steps "set_joints" [a, b] (.run (.setJoints ⟨x, y⟩))
  | moveTo {a b : String} {x y : Float} : read? a = some x → read? b = some y →
    Written steps "move_to" [a, b] (.run (.moveTo ⟨x, y⟩))
  | sleep {a : String} {x : Float} : read? a = some x →
    Written steps "sleep" [a] (.run (.sleep x))
  | lineTo {a b : String} {x y : Float} : read? a = some x → read? b = some y →
    Written steps "line_to" [a, b] (.run (.lineTo ⟨x, y⟩ steps))
  | lineToIn {a b n : String} {x y count : Float} : read? a = some x → read? b = some y →
    read? n = some count →
    Written steps "line_to" [a, b, n] (.run (.lineTo ⟨x, y⟩ (lineSteps count)))
  | speed {a : String} {x : Float} : read? a = some x → Written steps "speed" [a] (.speed x)
  | resetPath : Written steps "reset_path" [] .resetPath
  | stop : Written steps "stop" [] .stop
  | reset : Written steps "reset" [] .reset
  | status : Written steps "status" [] .status

/-- The keywords that do not look at the words behind them. -/
def heedless : List String :=
  ["reset_path", "stop", "reset", "status"]

/-! ## Arguments -/

/-- What a reader accepts. All else it refuses as an invalid argument. -/
structure Reads {β : Type} (x : Except (ArmError Float) β) (accepted : β → Prop) : Prop where
  ok_iff : ∀ b, x = .ok b ↔ accepted b
  refused : ∀ e, x = .error e → ∃ reason, e = .invalidArgument reason

namespace Reads

variable {β γ : Type} {x : Except (ArmError Float) β} {P Q : β → Prop}

theorem of_iff (reads : Reads x P) (same : ∀ b, P b ↔ Q b) : Reads x Q :=
  ⟨fun b => (reads.ok_iff b).trans (same b), reads.refused⟩

theorem ok (b : β) : Reads (.ok b) (· = b) :=
  ⟨fun c => by simp [eq_comm], nofun⟩

theorem refuse (reason : String) : Reads (β := β) (Statement.refuse reason) fun _ => False := by
  refine ⟨fun b => iff_of_false nofun id, fun e complaint => ⟨reason, ?_⟩⟩
  cases complaint
  rfl

/-- Readers one after the other accept what each of them accepts, and the first complaint is that of
both. -/
theorem bind {f : β → Except (ArmError Float) γ} {R : β → γ → Prop} (reads : Reads x P)
    (next : ∀ b, Reads (f b) (R b)) : Reads (x >>= f) fun c => ∃ b, P b ∧ R b c := by
  refine ⟨fun c => ?_, fun e complaint => ?_⟩
  · simp only [bind_eq_ok, reads.ok_iff, (next _).ok_iff]
  · cases first : x with
    | error e' =>
      rw [first] at complaint
      cases complaint
      exact reads.refused e first
    | ok b =>
      rw [first] at complaint
      exact (next b).refused e complaint

theorem map (f : β → γ) (reads : Reads x P) : Reads (x.map f) fun c => ∃ b, P b ∧ f b = c := by
  refine ⟨fun c => ?_, fun e complaint => ?_⟩
  · simp only [map_eq_ok, reads.ok_iff]
  · cases first : x with
    | error e' =>
      rw [first] at complaint
      cases complaint
      exact reads.refused e first
    | ok b =>
      rw [first] at complaint
      cases complaint

end Reads

variable {steps most place : Nat} {keyword what : String} {args : List String}

theorem reads_atMost : Reads (atMost keyword args most) fun _ => args.length ≤ most := by
  unfold atMost
  split
  · next few => exact (Reads.ok ()).of_iff fun _ => iff_of_true rfl few
  · next many => exact (Reads.refuse _).of_iff fun _ => iff_of_false id many

theorem reads_argument :
    Reads (argument keyword args place what) fun x =>
      ∃ raw, args[place]? = some raw ∧ read? raw = some x := by
  unfold argument
  split
  · next absent => exact (Reads.refuse _).of_iff fun x => by simp [absent]
  · next raw found =>
    split
    · next x read => exact (Reads.ok x).of_iff fun y => by simp [found, read, eq_comm]
    · next unread => exact (Reads.refuse _).of_iff fun x => by simp [found, unread]

theorem reads_twoArguments :
    Reads (twoArguments keyword args what) fun p =>
      ∃ a b rest, args = a :: b :: rest ∧ read? a = some p.1 ∧ read? b = some p.2 := by
  refine (reads_argument.bind fun x => reads_argument.bind fun y => .ok (x, y)).of_iff ?_
  rintro ⟨x, y⟩
  constructor
  · rintro ⟨x', ⟨a, first, readFirst⟩, y', ⟨b, second, readSecond⟩, same⟩
    cases same
    rcases args with _ | ⟨a', _ | ⟨b', rest⟩⟩
    · cases first
    · cases second
    · cases first
      cases second
      exact ⟨a, b, rest, rfl, readFirst, readSecond⟩
  · rintro ⟨a, b, rest, rfl, readFirst, readSecond⟩
    exact ⟨x, ⟨a, rfl, readFirst⟩, y, ⟨b, rfl, readSecond⟩, rfl⟩

theorem reads_stepsArgument :
    Reads (stepsArgument keyword args steps) fun n =>
      args.length ≤ 2 ∧ n = steps ∨
        ∃ a b c rest count, args = a :: b :: c :: rest ∧ read? c = some count ∧
          n = lineSteps count := by
  unfold stepsArgument
  split
  · next many =>
    refine (reads_argument.map lineSteps).of_iff fun n => ?_
    rcases args with _ | ⟨a, _ | ⟨b, _ | ⟨c, rest⟩⟩⟩
    · simp at many
    · simp at many
    · simp at many
    · constructor
      · rintro ⟨count, ⟨raw, found, read⟩, same⟩
        cases found
        exact .inr ⟨a, b, c, rest, count, rfl, read, same.symm⟩
      · rintro (⟨few, -⟩ | ⟨_, _, _, _, count, same, read, rfl⟩)
        · exact absurd few (Nat.not_le.2 many)
        · cases same
          exact ⟨count, ⟨c, rfl, read⟩, rfl⟩
  · next few =>
    refine (Reads.ok steps).of_iff fun n => ⟨fun same => .inl ⟨Nat.not_lt.1 few, same⟩, ?_⟩
    rintro (⟨-, same⟩ | ⟨a, b, c, rest, -, rfl, -⟩)
    · exact same
    · exact absurd (by simp) few

/-- What takes one number is read if exactly that is there. -/
theorem reads_one {f : Float → Statement} :
    Reads (do
      atMost keyword args 1
      let x ← argument keyword args 0 what
      return f x)
      fun statement => ∃ a x, read? a = some x ∧ args = [a] ∧ statement = f x := by
  refine (reads_atMost.bind fun _ => reads_argument.bind fun x => .ok (f x)).of_iff
    fun statement => ?_
  constructor
  · rintro ⟨-, few, x, ⟨a, found, read⟩, made⟩
    rcases args with _ | ⟨a', _ | ⟨b, rest⟩⟩
    · cases found
    · cases found
      exact ⟨a, x, read, rfl, made⟩
    · simp at few
  · rintro ⟨a, x, read, rfl, made⟩
    exact ⟨(), Nat.le_refl 1, x, ⟨a, rfl, read⟩, made⟩

/-- What takes two numbers is read if exactly these are there. -/
theorem reads_two {f : Float × Float → Statement} :
    Reads (do
      atMost keyword args 2
      let p ← twoArguments keyword args what
      return f p)
      fun statement =>
        ∃ a b x y, read? a = some x ∧ read? b = some y ∧ args = [a, b] ∧ statement = f (x, y) := by
  refine (reads_atMost.bind fun _ => reads_twoArguments.bind fun p => .ok (f p)).of_iff
    fun statement => ?_
  constructor
  · rintro ⟨-, few, ⟨x, y⟩, ⟨a, b, rest, rfl, first, second⟩, made⟩
    rcases rest with _ | ⟨c, rest⟩
    · exact ⟨a, b, x, y, first, second, rfl, made⟩
    · simp at few
  · rintro ⟨a, b, x, y, first, second, rfl, made⟩
    exact ⟨(), Nat.le_refl 2, (x, y), ⟨a, b, [], rfl, first, second⟩, made⟩

/-- A line of the hand is read if there are two numbers, or three. -/
theorem reads_line :
    Reads (do
      atMost keyword args 3
      let steps ← stepsArgument keyword args steps
      let (x, y) ← twoArguments keyword args what
      return Statement.run (.lineTo ⟨x, y⟩ steps))
      fun statement =>
        (∃ a b x y, read? a = some x ∧ read? b = some y ∧ args = [a, b] ∧
          statement = .run (.lineTo ⟨x, y⟩ steps)) ∨
        ∃ a b c x y count, read? a = some x ∧ read? b = some y ∧ read? c = some count ∧
          args = [a, b, c] ∧ statement = .run (.lineTo ⟨x, y⟩ (lineSteps count)) := by
  refine (reads_atMost.bind fun _ => reads_stepsArgument.bind fun n =>
    reads_twoArguments.bind fun p => .ok (Statement.run (.lineTo ⟨p.1, p.2⟩ n))).of_iff
    fun statement => ?_
  constructor
  · rintro ⟨-, few, n, count, ⟨x, y⟩, ⟨a, b, rest, rfl, first, second⟩, made⟩
    rcases count with ⟨two, rfl⟩ | ⟨_, _, c, later, count, same, third, rfl⟩
    · rcases rest with _ | ⟨c, rest⟩
      · exact .inl ⟨a, b, x, y, first, second, rfl, made⟩
      · simp at two
    · cases same
      rcases later with _ | ⟨d, later⟩
      · exact .inr ⟨a, b, c, x, y, count, first, second, third, rfl, made⟩
      · rw [List.length_cons, List.length_cons, List.length_cons, List.length_cons] at few
        omega
  · rintro (⟨a, b, x, y, first, second, rfl, made⟩ |
      ⟨a, b, c, x, y, count, first, second, third, rfl, made⟩)
    · exact ⟨(), by simp, steps, .inl ⟨Nat.le_refl 2, rfl⟩, (x, y),
        ⟨a, b, [], rfl, first, second⟩, made⟩
    · exact ⟨(), Nat.le_refl 3, _, .inr ⟨a, b, c, [], count, rfl, third, rfl⟩, (x, y),
        ⟨a, b, [c], rfl, first, second⟩, made⟩

/-! ## Lines -/

/-- A keyword and its arguments are read as the grammar says, but for the keywords that do not look
at the words behind them. -/
theorem reads_ofWords (steps : Nat) (keyword : String) (args : List String) :
    Reads (ofWords steps keyword args) fun statement =>
      Written steps (String.ofList (Text.lower keyword.toList)) args statement ∨
        String.ofList (Text.lower keyword.toList) ∈ heedless ∧ args ≠ [] ∧
          Written steps (String.ofList (Text.lower keyword.toList)) [] statement := by
  unfold ofWords
  generalize String.ofList (Text.lower keyword.toList) = name
  split
  case h_1 =>
    refine (reads_atMost.bind fun _ => .ok (Statement.run .home)).of_iff fun statement => ?_
    simp [written_iff, heedless]
  case h_2 =>
    refine (reads_two (f := fun p => Statement.run (.setJoints ⟨p.1, p.2⟩))).of_iff
      fun statement => ?_
    simp [written_iff, heedless]
  case h_3 =>
    refine (reads_two (f := fun p => Statement.run (.moveTo ⟨p.1, p.2⟩))).of_iff
      fun statement => ?_
    simp [written_iff, heedless]
  case h_4 | h_6 =>
    refine reads_one.of_iff fun statement => ?_
    simp [written_iff, heedless]
  case h_5 =>
    refine reads_line.of_iff fun statement => ?_
    simp [written_iff, heedless]
  case h_11 =>
    refine (Reads.refuse _).of_iff fun statement => iff_of_false id ?_
    rintro (written | ⟨-, -, written⟩) <;> cases written <;> contradiction
  all_goals
    -- A keyword that does not look: either there are no words behind it, or there are some.
    refine (Reads.ok _).of_iff fun statement => ?_
    rcases args with _ | ⟨a, rest⟩ <;> simp [written_iff, heedless]

/-- A line that is neither blank nor a comment nor a message has a keyword, and its words are
read. -/
theorem parse_of_words (steps : Nat) {line : String} {c : Char} {rest : List Char}
    (text : Text.trim line.toList = c :: rest) (comment : c ≠ '#') (message : c ≠ '\x7b') :
    ∃ keyword args, codeWords (c :: rest) = keyword :: args ∧
      parse steps line = (ofWords steps keyword args).map some := by
  have code : (c :: rest).takeWhile (· ≠ '#') = c :: rest.takeWhile (· ≠ '#') :=
    List.takeWhile_cons_of_pos (by simpa using comment)
  have present : codeWords (c :: rest) ≠ [] := by
    rw [codeWords, code]
    simpa using Text.words_ne_nil (Text.isBlank_of_trim text) _
  obtain ⟨keyword, args, words⟩ := List.exists_cons_of_ne_nil present
  refine ⟨keyword, args, words, ?_⟩
  unfold parse
  rw [text]
  split
  · next none => cases none
  · next same => exact absurd (List.cons.inj same).1 comment
  · next same => exact absurd (List.cons.inj same).1 message
  · rw [words]

theorem parse_of_silent {line : String}
    (silent : Text.trim line.toList = [] ∨ (Text.trim line.toList).head? = some '#') :
    parse steps line = .ok none := by
  unfold parse
  split
  · rfl
  · rfl
  · next text => simp [text] at silent
  · next blank comment _ =>
    rcases silent with none | hash
    · exact absurd none blank
    · obtain ⟨rest, text⟩ := List.head?_eq_some_iff.1 hash
      exact absurd text (comment rest)

end Statement

/-- What a line of a script is read as, where `steps` is the number of points of a line of the hand
that does not give it. Blanks and comments are no statements. Any other line that is no message is
parted into words: what stands between white space before its first `#`. It is a statement exactly
if these are a keyword, in whichever case, and its arguments, and then it is the one that they make;
all else is refused as an invalid argument. The exception are the four keywords that do not look at
the words behind them: with any such words they are the statement that they are without. -/
theorem parse_accepts_grammar (steps : Nat) (line : String) :
    let text := Text.trim line.toList
    (text = [] ∨ text.head? = some '#' → Statement.parse steps line = .ok none) ∧
    (text ≠ [] → text.head? ≠ some '#' → text.head? ≠ some '\x7b' →
      ∃ keyword args,
        (((text.takeWhile (· ≠ '#')).splitOnP Text.isBlank).filter (!·.isEmpty)).map String.ofList =
          keyword :: args ∧
        (∀ statement, Statement.parse steps line = .ok (some statement) ↔
          let name := String.ofList (Text.lower keyword.toList)
          Statement.Written steps name args statement ∨
            name ∈ ["reset_path", "stop", "reset", "status"] ∧ args ≠ [] ∧
              Statement.Written steps name [] statement) ∧
        ((∀ statement, Statement.parse steps line ≠ .ok (some statement)) →
          ∃ reason, Statement.parse steps line = .error (.invalidArgument reason))) := by
  refine ⟨Statement.parse_of_silent, fun present comment message => ?_⟩
  obtain ⟨c, rest, text⟩ := List.exists_cons_of_ne_nil present
  rw [text, List.head?_cons] at comment message
  obtain ⟨keyword, args, words, parsed⟩ := Statement.parse_of_words steps text
    (fun same => comment (congrArg _ same)) (fun same => message (congrArg _ same))
  have reads := Statement.reads_ofWords steps keyword args
  refine ⟨keyword, args, ?_, fun statement => ?_, fun refused => ?_⟩
  · rw [text, ← Text.words_eq_splitOnP]
    exact words
  · rw [parsed, map_eq_ok]
    simp only [Option.some.injEq, exists_eq_right, reads.ok_iff]
    rfl
  · rw [parsed] at refused ⊢
    cases result : Statement.ofWords steps keyword args with
    | error e =>
      obtain ⟨reason, rfl⟩ := reads.refused e result
      exact ⟨reason, rfl⟩
    | ok statement =>
      rw [result] at refused
      exact absurd rfl (refused statement)

/-- A line with blanks around it, a keyword in upper case, a word too many and a comment. -/
theorem parse_accepts_grammar_stop :
    let line := " STOP now # at once "
    let text := Text.trim line.toList
    text ≠ [] ∧ text.head? ≠ some '#' ∧ text.head? ≠ some '\x7b' ∧
      Statement.parse 50 line = .ok (some .stop) ∧ Statement.parse 50 " # at once" = .ok none := by
  intro line text
  have present : text ≠ [] := by decide
  have comment : text.head? ≠ some '#' := by decide
  have message : text.head? ≠ some '\x7b' := by decide
  obtain ⟨keyword, args, words, accepted, -⟩ :=
    (parse_accepts_grammar 50 line).2 present comment message
  have found : ["STOP", "now"] = keyword :: args := by
    rw [← words]
    decide +kernel
  cases found
  refine ⟨present, comment, message, (accepted .stop).2 (.inr ⟨by decide, nofun, .stop⟩), ?_⟩
  exact (parse_accepts_grammar 50 " # at once").1 (.inr (by decide))

/-- Words behind `stop` are not in the grammar, and are accepted; behind `home` they are refused. -/
theorem surplus_words_accepted :
    Statement.parse 50 "stop now" = .ok (some .stop) ∧
      (∀ statement, ¬Statement.Written 50 "stop" ["now"] statement) ∧
      Statement.parse 50 "home now" =
        .error (.invalidArgument "home takes at most 0 argument(s)") := by
  refine ⟨rfl, fun statement written => ?_, rfl⟩
  simp [Statement.written_iff] at written

end PlanarArm
