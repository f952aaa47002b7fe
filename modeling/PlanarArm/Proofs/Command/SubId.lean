import PlanarArm.Command.Id
import Std.Data.String.ToNat

/-!
# Numbered identifiers

What is recognised as the identifier of a numbered command is exactly what has the form of one
(`CommandId.isSub_iff`), and both its parts can be read off (`CommandId.sub_eq_sub_iff`). So
numbered commands of one line never share an identifier with each other or with those of another
line, nor with a command whose identifier was accepted from a sender.
-/

namespace PlanarArm.CommandId

theorem toList_sub (id : CommandId) (index : Nat) :
    (id.sub index).text.toList = id.text.toList ++ ':' :: Nat.toDigits 10 index := by
  simp [sub]

theorem lastPart_append (parent : List Char) {part : List Char} (clear : ':' ∉ part) :
    lastPart (parent ++ ':' :: part) = part := by
  have passed : ∀ c ∈ part.reverse, decide (c ≠ ':') = true := by
    intro c mem
    refine decide_eq_true fun same => clear ?_
    rw [← same]
    exact List.mem_reverse.1 mem
  rw [lastPart, List.reverse_append, List.reverse_cons, List.append_assoc,
    List.takeWhile_append_of_pos passed, List.singleton_append,
    List.takeWhile_cons_of_neg (by simp), List.append_nil, List.reverse_reverse]

/-- The form of a numbered identifier: anything, a colon and at least one decimal digit. -/
def IsNumbered (id : CommandId) : Prop :=
  ∃ parent index : List Char, id.text.toList = parent ++ ':' :: index ∧ index ≠ [] ∧
    ∀ c ∈ index, c.isDigit = true

theorem isSub_iff {id : CommandId} : id.isSub = true ↔ id.IsNumbered := by
  have parts : id.isSub = true ↔ ':' ∈ id.text.toList ∧ lastPart id.text.toList ≠ [] ∧
      ∀ c ∈ lastPart id.text.toList, c.isDigit = true := by
    simp [isSub, and_assoc]
  rw [parts]
  constructor
  · rintro ⟨colon, present, digits⟩
    obtain ⟨part, parent, split, clear⟩ := List.eq_append_cons_of_mem (List.mem_reverse.2 colon)
    have whole : id.text.toList = parent.reverse ++ ':' :: part.reverse := by
      rw [← List.reverse_reverse id.text.toList, split]
      simp
    rw [whole, lastPart_append _ (by simpa using clear)] at present digits
    exact ⟨_, _, whole, present, digits⟩
  · rintro ⟨parent, index, whole, present, digits⟩
    have clear : ':' ∉ index := fun mem => absurd (digits ':' mem) (by decide)
    rw [whole, lastPart_append parent clear]
    exact ⟨by simp, present, digits⟩

theorem isSub_eq_false_iff {id : CommandId} : id.isSub = false ↔ ¬id.IsNumbered := by
  rw [← isSub_iff, Bool.not_eq_true]

theorem isSub_sub (id : CommandId) (index : Nat) : (id.sub index).isSub = true :=
  isSub_iff.2 ⟨_, _, toList_sub id index, Nat.toDigits_ne_nil,
    fun _ mem => Nat.isDigit_of_mem_toDigits (by decide) (by decide) mem⟩

theorem colon_not_mem_toDigits (index : Nat) : ':' ∉ Nat.toDigits 10 index := by
  intro mem
  have digit := Nat.isDigit_of_mem_toDigits (by decide) (by decide) mem
  exact absurd digit (by decide)

/-- A numbered identifier tells whose it is and which number it has: the number is behind its last
colon, whatever colons and digits stand before that. -/
theorem sub_eq_sub_iff {id other : CommandId} {i j : Nat} :
    id.sub i = other.sub j ↔ id = other ∧ i = j := by
  constructor
  · intro same
    have texts : id.text.toList ++ ':' :: Nat.toDigits 10 i =
        other.text.toList ++ ':' :: Nat.toDigits 10 j := by
      rw [← toList_sub, ← toList_sub, same]
    have digits : Nat.toDigits 10 i = Nat.toDigits 10 j := by
      have lasts := congrArg lastPart texts
      rwa [lastPart_append _ (colon_not_mem_toDigits i),
        lastPart_append _ (colon_not_mem_toDigits j)] at lasts
    rw [digits] at texts
    have parents := String.toList_inj.1 (List.append_cancel_right texts)
    have numbers : i.repr = j.repr := congrArg String.ofList digits
    exact ⟨congrArg CommandId.mk parents, Nat.repr_injective numbers⟩
  · rintro ⟨rfl, rfl⟩
    rfl

/-- Numbered commands of one line have different identifiers. -/
theorem sub_injective (id : CommandId) : Function.Injective id.sub :=
  fun _ _ same => (sub_eq_sub_iff.1 same).2

end PlanarArm.CommandId
