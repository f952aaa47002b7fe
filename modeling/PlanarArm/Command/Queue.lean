import PlanarArm.Command.Line

/-!
# The queue of commands

Commands wait in the order in which they came. The only other way in is at the head, for the
commands that replace another one.

The weight of a command (`Command.weight`) counts it together with the commands that it may be
replaced by. It bounds how often a queue can be taken from before it is empty.
-/

namespace PlanarArm

/-- Commands that wait for their turn. -/
structure CommandQueue (α : Type) where
  /-- The waiting commands, the next one first. -/
  toList : List (Command α)
  /-- Their number, which is kept so that it need not be counted. -/
  size : Nat := toList.length
  /-- The number is right. -/
  size_eq_length : size = toList.length := by rfl

namespace CommandQueue

variable {α : Type}

/-- A queue is known by its commands. -/
@[ext]
theorem ext {p q : CommandQueue α} (h : p.toList = q.toList) : p = q := by
  rcases p with ⟨_, _, rfl⟩
  rcases q with ⟨_, _, rfl⟩
  cases h
  rfl

/-- No command waits. -/
def empty : CommandQueue α where
  toList := []

/-- A command takes its place behind all others. -/
def push (q : CommandQueue α) (c : Command α) : CommandQueue α where
  toList := q.toList ++ [c]
  size := q.size + 1
  size_eq_length := by rw [q.size_eq_length, List.length_append, List.length_singleton]

/-- Commands take their place before all others, in their order. -/
def pushFront (q : CommandQueue α) (cs : List (Command α)) : CommandQueue α where
  toList := cs ++ q.toList
  size := cs.length + q.size
  size_eq_length := by rw [q.size_eq_length, List.length_append]

/-- The next command and the queue without it. -/
def pop? (q : CommandQueue α) : Option (Command α × CommandQueue α) :=
  match h : q.toList with
  | [] => none
  | c :: rest =>
    some (c, {
      toList := rest
      size := q.size - 1
      size_eq_length := by rw [q.size_eq_length, h, List.length_cons, Nat.add_sub_cancel] })

/-- All commands, and the queue without them. -/
def drain (q : CommandQueue α) : List (Command α) × CommandQueue α :=
  (q.toList, empty)

/-- Whether no command waits. -/
def isEmpty (q : CommandQueue α) : Bool :=
  q.toList.isEmpty

/-- The identifiers of the waiting commands, the next one first. -/
def ids (q : CommandQueue α) : List CommandId :=
  q.toList.map Command.id

end CommandQueue

/-! ## Weight -/

/-- One for the command itself, and one for each that it may be replaced by. -/
def Command.weight {α : Type} (c : Command α) : Nat :=
  match c.kind with
  | .lineTo _ steps => 1 + lineCount steps
  | _ => 1

theorem Command.weight_pos {α : Type} (c : Command α) : 0 < c.weight := by
  unfold Command.weight
  split <;> omega

/-- The sum of the weights of commands. -/
def totalWeight {α : Type} : List (Command α) → Nat
  | [] => 0
  | c :: rest => c.weight + totalWeight rest

theorem totalWeight_append {α : Type} (cs ds : List (Command α)) :
    totalWeight (cs ++ ds) = totalWeight cs + totalWeight ds := by
  induction cs with
  | nil => simp [totalWeight]
  | cons c rest ih => rw [List.cons_append, totalWeight, totalWeight, ih, Nat.add_assoc]

/-- Commands that are replaced by no others weigh as much as they are many. -/
theorem totalWeight_eq_length {α : Type} {cs : List (Command α)}
    (single : ∀ c ∈ cs, c.weight = 1) : totalWeight cs = cs.length := by
  induction cs with
  | nil => rfl
  | cons c rest ih =>
    rw [totalWeight, single c List.mem_cons_self, List.length_cons,
      ih fun d mem => single d (List.mem_cons_of_mem c mem), Nat.add_comm]

/-- The sum of the weights of the waiting commands. -/
def CommandQueue.weight {α : Type} (q : CommandQueue α) : Nat :=
  totalWeight q.toList

theorem CommandQueue.weight_pop {α : Type} {q rest : CommandQueue α} {c : Command α}
    (h : q.pop? = some (c, rest)) : q.weight = c.weight + rest.weight := by
  unfold CommandQueue.pop? at h
  split at h
  · cases h
  · next d ds eq =>
    cases h
    exact congrArg totalWeight eq

theorem CommandQueue.weight_pushFront {α : Type} (q : CommandQueue α) (cs : List (Command α)) :
    (q.pushFront cs).weight = totalWeight cs + q.weight :=
  totalWeight_append cs q.toList

theorem totalWeight_lineCommands {α : Type} [Scalar α] (parent : CommandId) (source target : Point α)
    (steps : Nat) :
    totalWeight (lineCommands parent source target steps) = lineCount steps := by
  rw [totalWeight_eq_length, length_lineCommands]
  intro c mem
  obtain ⟨i, -, rfl⟩ := List.mem_map.1 mem
  rfl

end PlanarArm
