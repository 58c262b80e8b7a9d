import Launchpad.Failure.Basic
import Launchpad.Properties
import Launchpad.Environment.Source
import Launchpad.Text.Separated

/-!
# Command-line arguments

An option is written `--name` or `--name=value` and may repeat; everything else is a plain
argument. An option without a name is a syntax fault. The parsed arguments keep the given ones, so
nothing is lost by parsing.
-/

namespace Launchpad

/-- One argument as it reads. -/
inductive Argument where
  | plain (text : String)
  | option (name : String) (value : Option String)
  /-- An option without a name: `--` or `--=…`. -/
  | nameless (text : String)
  deriving DecidableEq, Repr

namespace Argument

/-- The name and value of an option, from what follows its two dashes. -/
def split (option : List Char) : List Char × Option (List Char) :=
  (option.takeWhile (· ≠ '='), match option.dropWhile (· ≠ '=') with
    | [] => none
    | _ :: value => some value)

/-- Reads one argument. -/
def read (argument : String) : Argument :=
  match argument.toList with
  | '-' :: '-' :: rest =>
    match split rest with
    | ([], _) => .nameless argument
    | (name, value) => .option (String.ofList name) (value.map String.ofList)
  | _ => .plain argument

end Argument

/-- The given arguments, and the options and plain arguments found in them. The options are in
ascending order of their names, each with its values in the order given. -/
structure Arguments where
  given : List String
  options : List (String × List String)
  plain : List String
  deriving DecidableEq, Repr, Inhabited

namespace Arguments

/-- The property that holds the plain arguments. -/
def plainProperty : String := "nonOptionArgs"

/-- Adds an occurrence of an option to options in ascending order of their names. -/
def addOption (name : String) (value : Option String) :
    List (String × List String) → List (String × List String)
  | [] => [(name, value.toList)]
  | option :: rest =>
    if name = option.1 then (name, option.2 ++ value.toList) :: rest
    else if name < option.1 then (name, value.toList) :: option :: rest
    else option :: addOption name value rest

/-- Adds one argument to what was read so far; a nameless option is the error. -/
def addArgument (arguments : Arguments) (text : String) : Except String Arguments :=
  match Argument.read text with
  | .plain text => .ok { arguments with plain := arguments.plain ++ [text] }
  | .option name value => .ok { arguments with options := addOption name value arguments.options }
  | .nameless text => .error text

/-- Reads the arguments. The error is the first option without a name. -/
def parse (given : List String) : Except String Arguments :=
  given.foldlM addArgument ⟨given, [], []⟩

/-- The names of the options, in ascending order. -/
def optionNames (arguments : Arguments) : List String := arguments.options.map Prod.fst

/-- The values of an option: empty if it was only given bare, `none` if it was not given. -/
def values? (arguments : Arguments) (name : String) : Option (List String) :=
  arguments.options.lookup name

/-- Whether an option was given. -/
def hasOption (arguments : Arguments) (name : String) : Bool := (arguments.values? name).isSome

/-- The options as properties, several values joined by commas, and the plain arguments, joined
likewise, under their own name. -/
def toProperties (arguments : Arguments) : Properties :=
  let options := Properties.ofList <|
    arguments.options.map fun option => (option.1, Text.joined "," option.2)
  if arguments.plain.isEmpty then options
  else options.insert plainProperty (Text.joined "," arguments.plain)

/-- The property source of the command line. -/
def toSource (arguments : Arguments) : PropertySource :=
  { name := PropertySource.commandLine, properties := arguments.toProperties }

end Arguments

end Launchpad
