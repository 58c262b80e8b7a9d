import Launchpad.Arguments
import Launchpad.ExitCode
import Launchpad.Failure.Message

/-!
# Greetings

What the greeting application says. A greeting needs a name that is not blank; the plain arguments
are echoed on a line of their own.
-/

namespace Launchpad.Greeting

/-- The exit code of a greeting that cannot be produced. -/
def exitCode : ExitCode := 2

/-- The fault of a blank name. -/
def emptyName : Fault := .custom "EmptyName" "Name must not be empty"

/-- The greeting fault in the chain of a failure, if there is one. -/
def find? (failure : Failure) : Option Fault := failure.chain.find? (· = emptyName)

/-- The exit code that greetings map a failure to; zero leaves it unclaimed. -/
def exitCodeOf (failure : Failure) : ExitCode := if (find? failure).isSome then exitCode else 0

/-- The first value of an option, or a default if it was not given a value. -/
def firstValue (arguments : Arguments) (option default : String) : String :=
  ((arguments.values? option).bind List.head?).getD default

/-- The greeting that the arguments ask for. -/
def line (arguments : Arguments) : Except Failure String :=
  let name := firstValue arguments "name" "world"
  if Text.trim name = "" then .error ⟨emptyName, []⟩
  else .ok (firstValue arguments "salutation" "Hello" ++ ", " ++ name ++ "!")

/-- Whether an argument looks like an option. -/
def looksLikeOption (argument : String) : Bool := ['-', '-'].isPrefixOf argument.toList

/-- The line that echoes the plain arguments, if there are any. -/
def echo (given : List String) : Option String :=
  match given.filter fun argument => !looksLikeOption argument with
  | [] => none
  | plain => some ("args: " ++ Text.joined " " plain)

end Launchpad.Greeting
