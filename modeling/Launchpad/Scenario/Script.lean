import Launchpad.Command
import Launchpad.Scenario.Shown

/-!
# Following a script

What scripts are made of: remarks, steps that are remarked upon, failures that end them, and data
that are remembered from one call to the next.
-/

namespace Launchpad.Scenario

/-- The program of a command. -/
abbrev run (command : Command) : Program command.Answer := Program.command command

/-- The answer of a command that may fail; its failure ends the attempt. -/
abbrev need {α : Type} (program : Program (Except Failure α)) : Attempt α := Attempt.need program

/-- An attempt whose answer is shown. -/
def shown {α : Type} [ToDatum α] (attempt : Attempt α) : Attempt Datum := toDatum <$> attempt

/-- Makes a remark. -/
def say (items : List Datum) : Program Unit := run (.remark (.list items))

/-- Ends an attempt with a failure, if there is one. -/
def failWith (failure : Option Failure) : Attempt Unit :=
  match failure with
  | some failure => throw failure
  | none => return ()

/-- Carries out steps in order, with a remark on each under a label. The first step that fails ends
them without a remark. -/
def nested (label : String) (step : Datum → Attempt Datum) : List Datum → Attempt Unit
  | [] => return ()
  | description :: rest => do
    let result ← step description
    say [label, description.textAt "do", result]
    nested label step rest

/-- The number remembered under a key, if there is one. -/
def rememberedNumber (key : String) : Program (Option Nat) := do
  return (← run (.memory key)).asNumber?.map Int.toNat

/-- The key under which the scope of the scripts under way is remembered. The names that scripts
give to what they make belong to a scope. -/
def scopeKey : String := "scope"

/-- The scope of the scripts under way. -/
def scope : Program String := do return (← run (.memory scopeKey)).asText

/-- The key of a name of some kind in a scope. -/
def keyOf (kind scope name : String) : String := kind ++ "/" ++ scope ++ "/" ++ name

/-- The identifier of a container. -/
def containerId (ref : ContainerRef) : Program String := do return (← run (.container ref)).id

/-- The identifier of a container that need not be there. -/
def containerId? : Option ContainerRef → Program (Option String)
  | some ref => do return some (← containerId ref)
  | none => return none

end Launchpad.Scenario
