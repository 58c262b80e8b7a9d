import Launchpad.Proofs.Environment.Options
import Launchpad.Proofs.Greeting.Participants

/-!
# The echo of the plain arguments

The echo runner is handed the arguments as they were given and tells the plain ones from the options
by itself. It comes to what parsing comes to: what it adds to the transcript is the plain arguments.
-/

namespace Launchpad

variable {given : List String} {arguments : Arguments}

namespace Greeting

/-- The lines that echo plain arguments. -/
def echoOf (plain : List String) : List String :=
  if plain = [] then [] else ["args: " ++ " ".intercalate plain]

/-- What does not look like an option is what has no two dashes in front. -/
theorem toList_echo (given : List String) :
    (echo given).toList = echoOf (Arguments.undashed given) := by
  have plain : given.filter (fun argument => !looksLikeOption argument) =
      Arguments.undashed given := rfl
  rw [echo, echoOf, plain]
  cases Arguments.undashed given <;> rfl

/-- The echo runner adds the plain arguments to the transcript, whatever it is called in. -/
theorem echoes_plain (parsed : Arguments.parse given = .ok arguments) (limit depth : Nat)
    (participant : Participant) (order : Option Int) (world : World) :
    ∃ later, (Container.callRunner (behaviour.invoker (limit + 1) depth)
        ⟨.commandLine, participant, order⟩ arguments).result world = (.ok (.ok ()), later) ∧
      linesOf later = linesOf world ++ echoOf arguments.plain := by
  have reflects := Arguments.reflects_of_parse parsed
  have echoes : (behaviour.invoker (limit + 1) depth
      (.runCommandLine participant arguments.given)).Yields world (.ok ())
        (echoing arguments.given world) :=
    (answered_invoker limit depth).echoes participant arguments.given
  obtain ⟨later, ran, alike⟩ := echoes world (.refl world)
  refine ⟨later, ran, ?_⟩
  rw [linesOf_congr alike.memory, linesOf_echoing, toList_echo, reflects.given, reflects.plain]

end Greeting

namespace Arguments

/-- Parsing fails exactly at the first malformed text, and otherwise yields exactly the options and
plain arguments that the texts say. Parsing the kept texts again changes nothing, and the echo
runner, which does not look at what was parsed, echoes the plain arguments. -/
theorem parse_exact (given : List String) :
    (∀ text, parse given = .error text ↔ given.find? Argument.isMalformed = some text) ∧
    (∀ arguments, parse given = .ok arguments ↔
      given.find? Argument.isMalformed = none ∧ Reflects given arguments) ∧
    ∀ arguments, parse given = .ok arguments →
      parse arguments.given = .ok arguments ∧
      ∀ limit depth participant order world,
        ∃ later, (Container.callRunner (Greeting.behaviour.invoker (limit + 1) depth)
            ⟨.commandLine, participant, order⟩ arguments).result world = (.ok (.ok ()), later) ∧
          Greeting.linesOf later = Greeting.linesOf world ++ Greeting.echoOf arguments.plain := by
  refine ⟨fun text => parse_eq_error_iff, fun arguments => parse_eq_ok_iff,
    fun arguments parsed => ⟨?_, Greeting.echoes_plain parsed⟩⟩
  rw [(reflects_of_parse parsed).given, parsed]

/-- An option that is given bare and with values, one of which has a mark in it, among plain
arguments, one of which has a single dash. -/
theorem parse_exact_mixed :
    ∃ arguments, parse ["--a=1", "x", "--a", "--b", "-y", "--a=2=3"] = .ok arguments ∧
      Reflects ["--a=1", "x", "--a", "--b", "-y", "--a=2=3"] arguments ∧
      arguments.options = [("a", ["1", "2=3"]), ("b", [])] ∧ arguments.plain = ["x", "-y"] :=
  ⟨_, rfl, (((parse_exact _).2.1 _).1 rfl).2, by decide, by decide⟩

end Arguments

end Launchpad
