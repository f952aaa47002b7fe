import Mathlib.Data.List.Nodup
import PlanarArm.Command.Record
import PlanarArm.Command.Wire
import PlanarArm.Proofs.Scalar.Whole

/-!
# Stored commands as messages

The stored form of a command is read back as it was (`Command.ofRecord?_toRecord`), and it is a
message as well. Whoever reads a message looks for the members of a kind by their names, so that it
does not matter in what order they come, what other members there are, and what stands behind the
two angles (`Command.ofWire_of_carries`). A message says less than the stored form in two respects:
the number of steps of a line is brought into its bounds, and a kind that the arm does not know
bears the name under which all such kinds are stored (`CommandKind.asMessage`).
-/

namespace PlanarArm

/-! ## Members -/

namespace Json

variable {key : String} {value : Json} {members record extra : List (String × Json)}

theorem not_mem_of_lastOf (missing : lastOf key members = none) : (key, value) ∉ members := by
  induction members with
  | nil => exact List.not_mem_nil
  | cons first rest ih =>
    unfold lastOf at missing
    split at missing
    · cases missing
    · next behind =>
      split at missing
      · cases missing
      · next other =>
        intro mem
        rcases List.mem_cons.1 mem with rfl | later
        · exact other rfl
        · exact ih behind later

theorem mem_of_lastOf (found : lastOf key members = some value) : (key, value) ∈ members := by
  induction members with
  | nil => cases found
  | cons first rest ih =>
    unfold lastOf at found
    split at found
    · next later behind =>
      cases found
      exact List.mem_cons_of_mem first (ih behind)
    · split at found
      · next same =>
        cases found
        cases same
        exact List.mem_cons_self
      · cases found

/-- A member is found if there is no other of its name. -/
theorem lastOf_of_mem (mem : (key, value) ∈ members)
    (only : ∀ other, (key, other) ∈ members → other = value) : lastOf key members = some value := by
  cases found : lastOf key members with
  | none => exact absurd mem (not_mem_of_lastOf found)
  | some other => rw [only other (mem_of_lastOf found)]

/-- The members of a record are found in any order and among any members of other names. -/
theorem lastOf_of_perm (perm : members.Perm (record ++ extra))
    (distinct : (record.map Prod.fst).Nodup)
    (foreign : ∀ member ∈ extra, member.1 ∉ record.map Prod.fst) (mem : (key, value) ∈ record) :
    lastOf key members = some value := by
  refine lastOf_of_mem (perm.mem_iff.2 (List.mem_append_left extra mem)) fun other found => ?_
  rcases List.mem_append.1 (perm.mem_iff.1 found) with own | alien
  · exact congrArg Prod.snd (List.inj_on_of_nodup_map distinct own mem rfl)
  · exact absurd (List.mem_map_of_mem mem) (foreign (key, other) alien)

theorem fieldOf?_cons_self (absent : key ∉ members.map Prod.fst) :
    fieldOf? ((key, value) :: members) key = some (some value) := by
  have only : ((key, value) :: members).filter (·.1 = key) = [(key, value)] := by
    have others : members.filter (·.1 = key) = [] := by
      rw [List.filter_eq_nil_iff]
      intro member mem same
      exact absent (of_decide_eq_true same ▸ List.mem_map_of_mem mem)
    rw [List.filter_cons, if_pos (decide_eq_true rfl), others]
  rw [fieldOf?, only]

theorem filter_ne_cons_self (absent : key ∉ members.map Prod.fst) :
    ((key, value) :: members).filter (·.1 ≠ key) = members := by
  rw [List.filter_cons_of_neg (by simp), List.filter_eq_self]
  intro member mem
  refine decide_eq_true fun same => ?_
  exact absent (same ▸ List.mem_map_of_mem mem)

/-- An array with further items. -/
def append (more : List Json) : Json → Json
  | .array items => .array (items ++ more)
  | other => other

theorem float?_ofFloat {x : Float} (finite : x.isFinite = true) : (ofFloat x).float? = some x := by
  rw [ofFloat, if_pos finite]
  rfl

theorem word32?_ofNat {n : Nat} (word : n < 2 ^ 32) : (ofNat n).word32? = some n := by
  have range : (0 : Int) ≤ n ∧ (n : Int) < Nat.pow 2 32 :=
    ⟨Int.natCast_nonneg n, Int.ofNat_lt.2 word⟩
  have whole : (ofNat n).int? = some (n : Int) := rfl
  rw [word32?, whole, Option.bind_some, if_pos range, Int.toNat_natCast]

end Json

/-- A number of steps is exact as a double, so that it is only brought into its bounds. -/
theorem lineSteps_ofInt {n : Nat} (word : n < 2 ^ 32) :
    lineSteps (Float.ofInt n) = max minLineSteps (min maxLineSteps n) := by
  have whole : (Float.ofNat n).toUInt64.toNat = n :=
    Binary64.toUInt64_ofNat (word.trans (by decide))
  exact congrArg (fun steps => max minLineSteps (min maxLineSteps steps)) whole

/-! ## What is stored -/

namespace CommandKind

/-- What a stored kind says as a message. -/
def asMessage : CommandKind Float → CommandKind Float
  | .lineTo target steps => .lineTo target (max minLineSteps (min maxLineSteps steps))
  | .unknown _ => .unknown "UNKNOWN"
  | kind => kind

/-- The kind is one that JSON has room for: its numbers are finite, and its number of steps has 32
bits. -/
def Storable : CommandKind Float → Prop
  | .setJoints q => q.shoulder.isFinite = true ∧ q.elbow.isFinite = true
  | .moveTo p => p.x.isFinite = true ∧ p.y.isFinite = true
  | .sleep seconds => seconds.isFinite = true
  | .lineTo p steps => (p.x.isFinite = true ∧ p.y.isFinite = true) ∧ steps < 2 ^ 32
  | .home | .unknown _ => True

theorem storable_iff {kind : CommandKind Float} : kind.Storable ↔
    (∀ field ∈ kind.numbers, field.2.isFinite = true) ∧
      ∀ target steps, kind = .lineTo target steps → steps < 2 ^ 32 := by
  cases kind <;> simp [Storable, numbers]

theorem nodup_recordMembers (kind : CommandKind Float) :
    (("id" :: kind.recordMembers.map Prod.fst)).Nodup := by
  cases kind <;> simp [recordMembers]

/-! ## Reading a kind as a record -/

section

variable {x y : Json} {a b : Float}

theorem ofMembers?_cons {name : String} {fields : List (String × Json)}
    {name? : Json → Option String} (named : name? (.string name) = some name)
    (absent : "kind" ∉ fields.map Prod.fst) :
    ofMembers? name? (("kind", .string name) :: fields) = ofFields? name (.object fields) := by
  rw [ofMembers?, Json.fieldOf?_cons_self absent, Json.filter_ne_cons_self absent]
  dsimp
  rw [named]
  rfl

theorem ofFields?_setJoints (first : x.float? = some a) (second : y.float? = some b) :
    ofFields? "SET_JOINTS" (.object [("deg", .array [x, y])]) = some (.setJoints ⟨a, b⟩) := by
  simp [ofFields?, Json.record?, Json.fieldOf?, Json.required?, Json.two?, first, second]

theorem ofFields?_moveTo (first : x.float? = some a) (second : y.float? = some b) :
    ofFields? "MOVE_TO" (.object [("x", x), ("y", y)]) = some (.moveTo ⟨a, b⟩) := by
  simp [ofFields?, Json.record?, Json.fieldOf?, Json.required?, Point.ofRecord?, first, second]

theorem ofFields?_sleep (first : x.float? = some a) :
    ofFields? "SLEEP" (.object [("seconds", x)]) = some (.sleep a) := by
  simp [ofFields?, Json.record?, Json.fieldOf?, Json.required?, first]

theorem ofFields?_lineTo {steps : Json} {n : Nat} (first : x.float? = some a)
    (second : y.float? = some b) (third : steps.word32? = some n) :
    ofFields? "LINE_TO" (.object [("x", x), ("y", y), ("steps", steps)]) =
      some (.lineTo ⟨a, b⟩ n) := by
  simp [ofFields?, Json.record?, Json.fieldOf?, Json.required?, first, second, third]

end

theorem ofMembers?_recordMembers {kind : CommandKind Float} (storable : kind.Storable)
    {name? : Json → Option String} (named : ∀ name, name? (.string name) = some name) :
    ofMembers? name? kind.recordMembers = some kind := by
  cases kind with
  | home => exact ofMembers?_cons (named _) (by simp)
  | setJoints q =>
    obtain ⟨shoulder, elbow⟩ := storable
    exact (ofMembers?_cons (named _) (by simp)).trans
      (ofFields?_setJoints (Json.float?_ofFloat shoulder) (Json.float?_ofFloat elbow))
  | moveTo p =>
    obtain ⟨x, y⟩ := storable
    exact (ofMembers?_cons (named _) (by simp)).trans
      (ofFields?_moveTo (Json.float?_ofFloat x) (Json.float?_ofFloat y))
  | sleep seconds =>
    exact (ofMembers?_cons (named _) (by simp)).trans
      (ofFields?_sleep (Json.float?_ofFloat storable))
  | lineTo p steps =>
    obtain ⟨⟨x, y⟩, word⟩ := storable
    exact (ofMembers?_cons (named _) (by simp)).trans (ofFields?_lineTo (Json.float?_ofFloat x)
      (Json.float?_ofFloat y) (Json.word32?_ofNat word))
  | unknown name => exact ofMembers?_cons (named _) (by simp)

end CommandKind

namespace Command

/-- The members that store a command. -/
def recordMembers (c : Command Float) : List (String × Json) :=
  ("id", c.id.toRecord) :: c.kind.recordMembers

/-- A member with further entries, if it is the list of angles. -/
def lengthen (more : List Json) (member : String × Json) : String × Json :=
  (member.1, if member.1 = "deg" then member.2.append more else member.2)

/-- What a stored command says as a message. -/
def asMessage (c : Command Float) : Command Float :=
  ⟨c.id, c.kind.asMessage⟩

/-- What is stored is read back as it was. -/
theorem ofRecord?_toRecord {c : Command Float} (storable : c.kind.Storable) :
    ofRecord? c.toRecord = some c := by
  obtain ⟨absent, -⟩ := List.nodup_cons.1 c.kind.nodup_recordMembers
  have kind := @CommandKind.ofMembers?_recordMembers c.kind storable kindName? fun _ => rfl
  rw [toRecord, ofRecord?, Json.fieldOf?_cons_self absent, Json.filter_ne_cons_self absent, kind]
  rfl

/-! ## Reading it as a message -/

/-- Each member that stores the command is found in the message, with `more` behind the angles. -/
def Carries (message : Json) (c : Command Float) (more : List Json) : Prop :=
  ∀ member ∈ c.recordMembers, message.get? member.1 = some (lengthen more member).2

section

variable {c : Command Float} {message : Json} {more : List Json}

theorem lengthen_fst (more : List Json) (members : List (String × Json)) :
    (members.map (lengthen more)).map Prod.fst = members.map Prod.fst := by
  rw [List.map_map]
  rfl

theorem lengthen_nil (members : List (String × Json)) : members.map (lengthen []) = members := by
  refine (List.map_congr_left fun member _ => ?_).trans (List.map_id members)
  have same : member.2.append [] = member.2 := by
    cases member.2 with
    | array items => exact congrArg Json.array (List.append_nil items)
    | _ => rfl
  rw [lengthen, same, ite_self]
  rfl

/-- An object of these members in any order, and of members of other names, is such a message. -/
theorem carries_of_perm {members extra : List (String × Json)}
    (perm : members.Perm (c.recordMembers.map (lengthen more) ++ extra))
    (foreign : ∀ member ∈ extra, member.1 ∉ c.recordMembers.map Prod.fst) :
    Carries (.object members) c more := by
  intro member mem
  rw [← lengthen_fst more] at foreign
  refine Json.lastOf_of_perm perm ?_ foreign (List.mem_map_of_mem mem)
  rw [lengthen_fst]
  exact c.kind.nodup_recordMembers

theorem wireNumber_of_get {kind field : String} {x : Float}
    (found : message.get? field = some (.ofFloat x)) (finite : x.isFinite = true) :
    wireNumber message kind field = .ok x := by
  rw [wireNumber, found, Option.bind_some, Json.float?_ofFloat finite]

theorem wirePoint_of_get {kind : String} {p : Point Float}
    (first : message.get? "x" = some (.ofFloat p.x))
    (second : message.get? "y" = some (.ofFloat p.y))
    (finite : p.x.isFinite = true ∧ p.y.isFinite = true) : wirePoint message kind = .ok p := by
  rw [wirePoint, wireNumber_of_get first finite.1, wireNumber_of_get second finite.2]
  rfl

theorem wireAngles_of_get {q : JointPair Float}
    (found : message.get? "deg" =
      some (.array (.ofFloat q.shoulder :: .ofFloat q.elbow :: more)))
    (finite : q.shoulder.isFinite = true ∧ q.elbow.isFinite = true) :
    wireAngles message = .ok q := by
  rw [wireAngles, found, Option.bind_some, Json.items?]
  dsimp only
  rw [wireAngle, Json.float?_ofFloat finite.1, wireAngle, Json.float?_ofFloat finite.2]
  rfl

theorem wireSteps_of_get {steps : Nat} (found : message.get? "steps" = some (.ofNat steps))
    (word : steps < 2 ^ 32) :
    wireSteps message = .ok (max minLineSteps (min maxLineSteps steps)) := by
  have number : wireNumber message "LINE_TO" "steps" = .ok (Float.ofInt steps) := by
    rw [wireNumber, found]
    rfl
  rw [wireSteps, found, ← lineSteps_ofInt word]
  exact congrArg (Except.map lineSteps) number

theorem wireId_of_get (found : message.get? "id" = some (.string c.id.text))
    (named : c.id.text ≠ "") : wireId message = .ok c.id := by
  rw [wireId, found]
  exact if_neg (by simpa using named)

theorem ofWire_of_get {members : List (String × Json)} {name : String} {kind : CommandKind Float}
    (id : wireId (.object members) = .ok c.id)
    (tag : (Json.object members).get? "kind" = some (.string name))
    (payload : wireKind (.object members) name = .ok kind) :
    ofWire (.object members) = .ok ⟨c.id, kind⟩ := by
  have text : (Json.string name).string? = some name := rfl
  rw [ofWire, id, tag, Option.bind_some, text]
  exact congrArg (Except.map (Command.mk c.id)) payload

/-- A message that carries the members of a stored command is read as what the command says as a
message. -/
theorem ofWire_of_carries {members : List (String × Json)} (named : c.id.text ≠ "")
    (storable : c.kind.Storable) (carries : Carries (.object members) c more) :
    ofWire (.object members) = .ok c.asMessage := by
  have id := wireId_of_get (carries _ List.mem_cons_self) named
  have plain {key : String} {value : Json} (mem : (key, value) ∈ c.kind.recordMembers)
      (other : key ≠ "deg") : (Json.object members).get? key = some value :=
    (carries (key, value) (List.mem_cons_of_mem _ mem)).trans (congrArg some (if_neg other))
  obtain ⟨label, kind⟩ := c
  cases kind with
  | home => exact ofWire_of_get id (plain List.mem_cons_self (by decide)) rfl
  | setJoints q =>
    have angles : wireAngles (.object members) = .ok q := wireAngles_of_get
      (carries ("deg", _) (List.mem_cons_of_mem _ (List.mem_cons_of_mem _ List.mem_cons_self)))
      storable
    exact ofWire_of_get id (plain List.mem_cons_self (by decide))
      (congrArg (Except.map CommandKind.setJoints) angles)
  | moveTo p =>
    have point : wirePoint (.object members) "MOVE_TO" = .ok p :=
      wirePoint_of_get (plain (by simp [CommandKind.recordMembers]) (by decide))
        (plain (by simp [CommandKind.recordMembers]) (by decide)) storable
    exact ofWire_of_get id (plain List.mem_cons_self (by decide))
      (congrArg (Except.map CommandKind.moveTo) point)
  | sleep seconds =>
    have time : wireNumber (.object members) "SLEEP" "seconds" = .ok seconds :=
      wireNumber_of_get (plain (by simp [CommandKind.recordMembers]) (by decide)) storable
    exact ofWire_of_get id (plain List.mem_cons_self (by decide))
      (congrArg (Except.map CommandKind.sleep) time)
  | lineTo p steps =>
    have point : wirePoint (.object members) "LINE_TO" = .ok p :=
      wirePoint_of_get (plain (by simp [CommandKind.recordMembers]) (by decide))
        (plain (by simp [CommandKind.recordMembers]) (by decide)) storable.1
    have count := wireSteps_of_get (plain (by simp [CommandKind.recordMembers]) (by decide))
      storable.2
    refine ofWire_of_get id (plain List.mem_cons_self (by decide)) ?_
    rw [wireKind, count, point]
    rfl
  | unknown kind => exact ofWire_of_get id (plain List.mem_cons_self (by decide)) rfl

end

/-- The stored form of a command that has a name, finite numbers and no more steps than 32 bits
hold. It is read back as it was. Read as a message it is the command itself, but that the steps of a
line are brought into their bounds and a kind that is not known bears the name `UNKNOWN`; and it
still is if its members come in another order, among any members of other names, and with any
entries behind the two angles. -/
theorem stored_is_message {c : Command Float} (named : c.id.text ≠ "")
    (finite : ∀ field ∈ c.kind.numbers, field.2.isFinite = true)
    (word : ∀ target steps, c.kind = .lineTo target steps → steps < 2 ^ 32) :
    ofRecord? c.toRecord = some c ∧ ofWire c.toRecord = .ok c.asMessage ∧
      ∀ (more : List Json) (members extra : List (String × Json)),
        members.Perm (c.recordMembers.map (lengthen more) ++ extra) →
        (∀ member ∈ extra, member.1 ∉ c.recordMembers.map Prod.fst) →
        ofWire (.object members) = .ok c.asMessage := by
  have storable := CommandKind.storable_iff.2 ⟨finite, word⟩
  have message (more : List Json) (members extra : List (String × Json))
      (perm : members.Perm (c.recordMembers.map (lengthen more) ++ extra))
      (foreign : ∀ member ∈ extra, member.1 ∉ c.recordMembers.map Prod.fst) :
      ofWire (.object members) = .ok c.asMessage :=
    ofWire_of_carries named storable (carries_of_perm perm foreign)
  refine ⟨ofRecord?_toRecord storable, message [] c.recordMembers [] ?_ nofun, message⟩
  rw [lengthen_nil, List.append_nil]

/-- Two angles with a third entry behind them, and a remark in front; and a line with more steps
than may be asked for. -/
theorem stored_is_message_remark :
    ofWire (.object [("remark", .null), ("id", .string "a"), ("kind", .string "SET_JOINTS"),
      ("deg", .array [.ofFloat 90.0, .ofFloat 0.5, .bool true])]) =
        .ok ⟨⟨"a"⟩, .setJoints ⟨90.0, 0.5⟩⟩ ∧
      ofWire (toRecord ⟨⟨"b"⟩, .lineTo ⟨1.0, 0.25⟩ 20000⟩) =
        .ok ⟨⟨"b"⟩, .lineTo ⟨1.0, 0.25⟩ 10000⟩ := by
  have angles := @stored_is_message ⟨⟨"a"⟩, .setJoints ⟨90.0, 0.5⟩⟩ (by decide)
    (by
      intro field mem
      simp only [CommandKind.numbers, List.mem_cons, List.not_mem_nil, or_false] at mem
      rcases mem with rfl | rfl <;> decide)
    nofun
  have line := @stored_is_message ⟨⟨"b"⟩, .lineTo ⟨1.0, 0.25⟩ 20000⟩ (by decide)
    (by
      intro field mem
      simp only [CommandKind.numbers, List.mem_cons, List.not_mem_nil, or_false] at mem
      rcases mem with rfl | rfl <;> decide)
    (by
      rintro target steps same
      cases same
      decide)
  refine ⟨angles.2.2 [.bool true] _ [("remark", .null)] ?_ ?_, line.2.1⟩
  · exact @List.perm_append_comm _ [("remark", Json.null)] _
  · intro member mem
    rw [List.mem_singleton.1 mem]
    decide

end Command

end PlanarArm
