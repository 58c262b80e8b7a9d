import Launchpad.Properties
import Launchpad.Text.Blank

/-!
# Property sources

A named set of properties. A relaxed source also answers for a name in the spelling of process
variables: upper case, with underscores for dots and dashes.
-/

namespace Launchpad

/-- A named set of properties. -/
structure PropertySource where
  name : String
  properties : Properties := .empty
  /-- Whether names in the spelling of process variables are looked up too. -/
  relaxed : Bool := false
  deriving DecidableEq, Repr, Inhabited

namespace PropertySource

/-- Name of the source that holds the process variables. -/
def systemEnvironment : String := "systemEnvironment"

/-- Name of the source that holds the command line. -/
def commandLine : String := "commandLineArgs"

/-- Name of the source that holds the defaults of the application. -/
def defaults : String := "defaultProperties"

/-- The spelling of a property name as a process variable. -/
def variableName (key : String) : String :=
  String.ofList <| key.toList.map fun c => if c = '.' ∨ c = '-' then '_' else c.toUpper

/-- The text of a property: under its own name, else, in a relaxed source, under its spelling as a
process variable. -/
def get? (source : PropertySource) (key : String) : Option String :=
  match source.properties.get? key with
  | some text => some text
  | none => if source.relaxed then source.properties.get? (variableName key) else none

/-- Whether the source answers for a name. -/
def contains (source : PropertySource) (key : String) : Bool := (source.get? key).isSome

/-- The source with one property set. -/
def insert (source : PropertySource) (key text : String) : PropertySource :=
  { source with properties := source.properties.insert key text }

/-- The names of the properties, in ascending order. -/
def keys (source : PropertySource) : List String := source.properties.keys

/-- Whether the source has no properties. -/
def isEmpty (source : PropertySource) : Bool := source.properties.isEmpty

end PropertySource

end Launchpad
