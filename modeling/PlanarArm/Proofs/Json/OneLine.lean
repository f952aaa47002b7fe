import PlanarArm.Console.Shell
import PlanarArm.Json.Writer
import PlanarArm.Text.Lines
import Mathlib.Data.String.Lemmas

/-!
# Values, one a line

Texts of whole lines that are written one behind the other have the lines of each of them
(`Text.lines_append`), so that texts that hold no end of a line can be read back line by line from
what was written (`Text.lines_unlines`). The text of a JSON value in its compact layout is such a
text (`Json.oneLine_compact`): a line feed or a carriage return in a string of it is written as an
escape, and nothing else has one.
-/

namespace PlanarArm

namespace Text

/-! ## Whole lines -/

/-- The text is empty or ends with a line feed, so that what is written behind it is on other
lines. -/
def IsComplete (text : String) : Prop :=
  text = "" ∨ ∃ body, text = body ++ "\n"

/-- The text has neither a line feed nor a carriage return. -/
def OneLine (text : String) : Prop :=
  ∀ c ∈ text.toList, c ≠ '\n' ∧ c ≠ '\r'

instance (text : String) : Decidable (OneLine text) :=
  List.decidableBAll _ text.toList

theorem splitLines_append (line body rest : List Char) :
    splitLines line (body ++ '\n' :: rest) =
      splitLines line (body ++ ['\n']) ++ splitLines [] rest := by
  induction body generalizing line with
  | nil => simp [splitLines]
  | cons c body ih =>
    simp only [List.cons_append, splitLines]
    split
    · rw [ih, List.cons_append]
    · exact ih (c :: line)

theorem splitLines_of_not_mem {body : List Char} (whole : '\n' ∉ body) (line rest : List Char) :
    splitLines line (body ++ '\n' :: rest) =
      closeLine (body.reverse ++ line) :: splitLines [] rest := by
  induction body generalizing line with
  | nil => simp [splitLines]
  | cons c body ih =>
    have other : c ≠ '\n' := fun same => whole (same ▸ List.mem_cons_self)
    rw [List.cons_append, splitLines, if_neg other, ih (fun mem => whole (.tail _ mem)),
      List.reverse_cons, List.append_assoc, List.singleton_append]

theorem closeLine_of_not_mem {line : List Char} (plain : '\r' ∉ line) :
    closeLine line = line.reverse := by
  unfold closeLine
  split
  · exact absurd List.mem_cons_self plain
  · rfl

theorem lines_append {text : String} (complete : IsComplete text) (rest : String) :
    lines (text ++ rest) = lines text ++ lines rest := by
  rcases complete with rfl | ⟨body, rfl⟩
  · rw [String.empty_append]
    rfl
  · have feed : "\n".toList = ['\n'] := rfl
    rw [lines, lines, lines, String.toList_append, String.toList_append, feed, List.append_assoc,
      List.singleton_append, splitLines_append, List.map_append]

/-- A carriage return goes with the line feed behind it, and only then. -/
example : lines "home\r\nstop\r" = ["home", "stop\r"] := by
  decide +kernel

theorem lines_unlines {texts : List String} (whole : ∀ text ∈ texts, OneLine text) :
    lines (Shell.unlines texts) = texts := by
  induction texts with
  | nil => rfl
  | cons text rest ih =>
    have parted : Shell.unlines (text :: rest) = text ++ "\n" ++ Shell.unlines rest := by
      simp [Shell.unlines]
    have own : lines (text ++ "\n") = [text] := by
      rw [lines, String.toList_append]
      change (splitLines [] (text.toList ++ ['\n'])).map String.ofList = [text]
      have plain := whole text List.mem_cons_self
      rw [splitLines_of_not_mem fun mem => (plain _ mem).1 rfl, List.append_nil,
        closeLine_of_not_mem fun mem => (plain _ (List.mem_reverse.1 mem)).2 rfl,
        List.reverse_reverse, splitLines]
      simp
    rw [parted, lines_append (.inr ⟨text, rfl⟩), own, ih fun other mem => whole other (.tail _ mem),
      List.singleton_append]

/-! ## Texts without an end of a line -/

theorem oneLine_append {a b : String} : OneLine (a ++ b) ↔ OneLine a ∧ OneLine b := by
  rw [OneLine, String.toList_append, List.forall_mem_append]
  rfl

theorem oneLine_pushn {a : String} {c : Char} (own : OneLine a) (other : c ≠ '\n' ∧ c ≠ '\r')
    (n : Nat) : OneLine (a.pushn c n) := by
  induction n with
  | zero => exact own
  | succ n ih =>
    change OneLine ((a.pushn c n).push c)
    rw [OneLine, String.toList_push, List.forall_mem_append, List.forall_mem_singleton]
    exact ⟨ih, other⟩

theorem OneLine.take {a : String} (own : OneLine a) (n : Nat) : OneLine (a.take n).copy := by
  simp only [OneLine, String.toList_copy_take]
  exact fun c mem => own c (List.mem_of_mem_take mem)

theorem OneLine.drop {a : String} (own : OneLine a) (n : Nat) : OneLine (a.drop n).copy := by
  simp only [OneLine, String.toList_copy_drop]
  exact fun c mem => own c (List.mem_of_mem_drop mem)

theorem oneLine_repr (n : Nat) : OneLine n.repr := by
  rw [OneLine, Nat.toList_repr]
  intro c mem
  have digit := Nat.isDigit_of_mem_toDigits (by decide) (by decide) mem
  constructor
  all_goals
    rintro rfl
    cases digit

end Text

open Text

namespace Decimal

theorem oneLine_plain (d : Decimal) : OneLine d.plain := by
  have digits := oneLine_repr d.digits
  have zeros : ∀ n, OneLine ("".pushn '0' n) := oneLine_pushn nofun (by decide)
  unfold plain
  split
  · exact oneLine_append.2 ⟨digits, zeros _⟩
  · dsimp only
    split
    · simp only [oneLine_append]
      exact ⟨⟨digits.take _, by decide⟩, digits.drop _⟩
    · simp only [oneLine_append]
      exact ⟨⟨by decide, zeros _⟩, digits⟩

theorem oneLine_scientific (d : Decimal) : OneLine d.scientific := by
  have digits := oneLine_repr d.digits
  unfold scientific
  simp only [oneLine_append]
  refine ⟨⟨⟨⟨digits.take 1, ?_⟩, by decide⟩, ?_⟩, oneLine_repr _⟩
  · split
    · nofun
    · exact oneLine_append.2 ⟨by decide, digits.drop 1⟩
  · split <;> decide

theorem oneLine_signed {digits : Magnitude → String} (own : ∀ m, OneLine (digits m)) (x : Float) :
    OneLine (signed x digits) := by
  unfold signed
  split
  · decide
  · have body : OneLine (if x.isInf then "inf" else digits (.ofFloat x)) := by
      split
      · decide
      · exact own _
    dsimp only
    split
    · exact oneLine_append.2 ⟨by decide, body⟩
    · exact body

theorem oneLine_numberText (x : Float) : OneLine (numberText x) := by
  refine oneLine_signed (fun m => ?_) x
  split
  · decide
  · dsimp only
    split
    · exact oneLine_scientific _
    · split
      · exact oneLine_append.2 ⟨oneLine_plain _, by decide⟩
      · exact oneLine_plain _

end Decimal

namespace Json

theorem hexDigit_plain : ∀ n < 16, hexDigit n ≠ '\n' ∧ hexDigit n ≠ '\r' := by
  decide

/-- Neither a line feed nor a carriage return in a string is written as itself. -/
theorem oneLine_escape (c : Char) : OneLine (escape c) := by
  unfold escape
  split
  case h_8 feed ret _ =>
    split
    · next control =>
      have digits : OneLine
          ((hexDigit (c.toNat / 16)).toString ++ (hexDigit (c.toNat % 16)).toString) := by
        have first := hexDigit_plain (c.toNat / 16) (by omega)
        have second := hexDigit_plain (c.toNat % 16) (by omega)
        simp [OneLine, first, second]
      exact oneLine_append.2 ⟨by decide, digits⟩
    · rw [OneLine, Char.toString_eq_singleton, String.toList_singleton, List.forall_mem_singleton]
      exact ⟨feed, ret⟩
  all_goals decide

theorem oneLine_quoted (s : String) : OneLine (quoted s) := by
  have body : ∀ (cs : List Char) (done : String), OneLine done →
      OneLine (cs.foldl (fun done c => done ++ escape c) done) := by
    intro cs
    induction cs with
    | nil => exact fun done own => own
    | cons c cs ih => exact fun done own => ih _ (oneLine_append.2 ⟨own, oneLine_escape c⟩)
  rw [quoted, String.foldl_eq_foldl_toList]
  exact oneLine_append.2 ⟨body s.toList _ (by decide), by decide⟩

theorem oneLine_text (n : JsonNumber) : OneLine n.text := by
  cases n with
  | whole n =>
    cases n with
    | ofNat n => exact oneLine_repr n
    | negSucc n => exact oneLine_append.2 ⟨by decide, oneLine_repr (n + 1)⟩
  | double x =>
    rw [JsonNumber.text]
    split
    · exact Decimal.oneLine_numberText x
    · decide

mutual

/-- A value in its compact layout stands on one line. -/
theorem oneLine_compact (json : Json) : OneLine json.compact := by
  cases json with
  | null =>
    rw [compact]
    decide
  | bool b =>
    rw [compact]
    cases b <;> decide
  | number n =>
    rw [compact]
    exact oneLine_text n
  | string s =>
    rw [compact]
    exact oneLine_quoted s
  | array items =>
    rw [compact, oneLine_append, oneLine_append]
    exact ⟨⟨by decide, oneLine_compactItems items⟩, by decide⟩
  | object members =>
    rw [compact, oneLine_append, oneLine_append]
    exact ⟨⟨by decide, oneLine_compactMembers members⟩, by decide⟩

theorem oneLine_compactItems (items : List Json) : OneLine (compactItems items) := by
  match items with
  | [] =>
    rw [compactItems]
    decide
  | [item] =>
    rw [compactItems]
    exact oneLine_compact item
  | item :: next :: rest =>
    rw [compactItems, oneLine_append, oneLine_append]
    · exact ⟨⟨oneLine_compact item, by decide⟩, oneLine_compactItems (next :: rest)⟩
    · exact nofun

theorem oneLine_compactMembers (members : List (String × Json)) :
    OneLine (compactMembers members) := by
  match members with
  | [] =>
    rw [compactMembers]
    decide
  | [(name, value)] =>
    rw [compactMembers, oneLine_append, oneLine_append]
    exact ⟨⟨oneLine_quoted name, by decide⟩, oneLine_compact value⟩
  | (name, value) :: next :: rest =>
    rw [compactMembers, oneLine_append, oneLine_append, oneLine_append, oneLine_append]
    · exact ⟨⟨⟨⟨oneLine_quoted name, by decide⟩, oneLine_compact value⟩, by decide⟩,
        oneLine_compactMembers (next :: rest)⟩
    · exact nofun

end

end Json

end PlanarArm
