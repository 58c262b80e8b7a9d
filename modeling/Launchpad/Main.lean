import Launchpad.Greeting.CommandLine

/-!
# The greeting command line as a program

Reads the variables of the process and the banner file that they or the arguments name, runs the
application, prints what it printed and ends with its exit code.
-/

namespace Launchpad.Main

/-- The variables in the form in which a process is given them: entries ended by a zero byte, each
with an equals sign after its name. -/
def variablesOf (block : String) : List (String × String) :=
  (Text.pieces '\x00' block.toList).filterMap fun entry =>
    match entry.dropWhile (· ≠ '=') with
    | [] => none
    | _ :: text => some (String.ofList (entry.takeWhile (· ≠ '=')), String.ofList text)

/-- The variables of this process. -/
def readVariables : IO (List (String × String)) := do
  try
    let block ← IO.FS.readBinFile "/proc/self/environ"
    return variablesOf ((String.fromUTF8? block).getD "")
  catch _ => return []

/-- The content of a file, if there is one. -/
def readContent (path : String) : IO (Option FileContent) := do
  try
    let bytes ← IO.FS.readBinFile path
    match String.fromUTF8? bytes with
    | some text => return some (.text text)
    | none => return some .binary
  catch _ => return none

end Launchpad.Main

/-- Runs the greeting application with the arguments of the process. -/
def main (given : List String) : IO UInt32 := do
  let vars ← Launchpad.Main.readVariables
  let files ← match Launchpad.Greeting.bannerFile vars given with
    | none => pure []
    | some path => do
      match ← Launchpad.Main.readContent path with
      | some content => pure (Launchpad.Files.single path content)
      | none => pure []
  let outcome := Launchpad.Greeting.process vars files given
  IO.print outcome.console
  (← IO.getStdout).flush
  return (outcome.exitCode % 256).toNat.toUInt32
