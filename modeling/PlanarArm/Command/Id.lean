/-!
# Command identifiers

A command is known by a text that its sender chose. The commands that another one is expanded into
are numbered: `id.sub 3` is `id`, a colon and `3`. `CommandId.isSub` recognises that form, which
senders therefore may not use.
-/

namespace PlanarArm

/-- The identifier of a command. -/
structure CommandId where
  /-- The identifier as a text. -/
  text : String
deriving DecidableEq, Repr

namespace CommandId

/-- The identifier of the `index`-th command that this one is expanded into. -/
def sub (id : CommandId) (index : Nat) : CommandId :=
  ⟨id.text ++ ":" ++ index.repr⟩

/-- The characters behind the last colon; all of them if there is no colon. -/
def lastPart (cs : List Char) : List Char :=
  (cs.reverse.takeWhile (· ≠ ':')).reverse

/-- Whether the identifier ends in a colon and at least one decimal digit, and so might be that of
a numbered command. -/
def isSub (id : CommandId) : Bool :=
  let cs := id.text.toList
  let index := lastPart cs
  cs.contains ':' && !index.isEmpty && index.all Char.isDigit

end CommandId

end PlanarArm
