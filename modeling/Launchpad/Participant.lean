import Launchpad.Datum

/-!
# Participants

Everything that is supplied from outside (listeners, initializers, reporters, runners, hooks) is
known to the library by a name, by what it captured when it was made, and by the few facts that
ordering and checking need. What a participant does when it is called is not stored here; it is
given by the behaviour under which a launch is carried out.
-/

namespace Launchpad

/-- A participant of a launch. -/
structure Participant where
  name : String
  /-- What the participant captured when it was made. -/
  captured : Datum := .nothing
  deriving DecidableEq, Repr, Inhabited

instance : Coe String Participant := ⟨fun name => { name }⟩

end Launchpad
