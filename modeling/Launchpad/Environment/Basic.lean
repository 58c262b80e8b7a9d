import Launchpad.Environment.Sources
import Launchpad.Environment.Template
import Launchpad.Kind
import Launchpad.Text.Separated

/-!
# Environments

An ordered stack of property sources together with active and default profiles. A property value may
refer to other properties; references are resolved when the value is looked up, in at most
`maxRounds` rounds, so that a cycle ends.
-/

namespace Launchpad

/-- Property sources and profiles. -/
structure Environment where
  kind : EnvironmentKind
  sources : PropertySources := []
  /-- The profiles that were set explicitly. -/
  profiles : List String := []
  defaultProfiles : List String := ["default"]
  deriving DecidableEq, Repr, Inhabited

namespace Environment

/-- The property that names the active profiles. -/
def activeProfilesProperty : String := "liftoff.profiles.active"

/-- How often the references in a text are replaced at most. -/
def maxRounds : Nat := 8

/-- The start of the variable names that a prefix selects. -/
def variableStart (namePrefix : String) : List Char :=
  (namePrefix.toList.reverse.dropWhile (· = '_')).reverse.map Char.toUpper ++ ['_']

/-- The variables that a prefix exposes, without it; an empty prefix exposes all variables as they
are. -/
def exposed (namePrefix : Option String) (vars : List (String × String)) :
    List (String × String) :=
  match namePrefix.filter (· ≠ "") with
  | none => vars
  | some given =>
    let start := variableStart given
    vars.filterMap fun (name, text) =>
      if start.isPrefixOf name.toList then
        some (String.ofList (name.toList.drop start.length), text)
      else none

/-- An environment whose only source holds process variables, under relaxed names. -/
def ofVariables (kind : EnvironmentKind) (namePrefix : Option String)
    (vars : List (String × String)) : Environment :=
  { kind, sources := [{
      name := PropertySource.systemEnvironment
      properties := .ofList (exposed namePrefix vars)
      relaxed := true }] }

/-- The value of a property as it is held. -/
def raw? (environment : Environment) (key : String) : Option String :=
  PropertySources.lookup? environment.sources key

/-- Whether some source answers for a property. -/
def has (environment : Environment) (key : String) : Bool := (environment.raw? key).isSome

/-- What stands for one part of a template: the held value of a key, else its default, else the
reference as written. -/
def expansion (environment : Environment) : TemplatePart → List Char
  | .literal c => [c]
  | .reference key fallback =>
    match environment.raw? (String.ofList (Text.trimChars key)), fallback with
    | some value, _ => value.toList
    | none, some text => text
    | none, none => (TemplatePart.reference key none).written

/-- The text with every reference in it replaced once. -/
def expandOnce (environment : Environment) (text : List Char) : List Char :=
  (Template.read text).fill environment.expansion

/-- The text after at most the given number of rounds; a round that changes nothing is the last. -/
def expand (environment : Environment) : Nat → List Char → List Char
  | 0, text => text
  | rounds + 1, text =>
    let next := environment.expandOnce text
    if next = text then text else environment.expand rounds next

/-- The text with its references resolved. -/
def resolve (environment : Environment) (text : String) : String :=
  String.ofList (environment.expand maxRounds text.toList)

/-- The value of a property with its references resolved. -/
def get? (environment : Environment) (key : String) : Option String :=
  (environment.raw? key).map environment.resolve

/-- The profiles set explicitly or, if there are none, those that the property names. -/
def activeProfiles (environment : Environment) : List String :=
  if environment.profiles.isEmpty then
    ((environment.get? activeProfilesProperty).map Text.items).getD []
  else environment.profiles

/-- Sets the active profiles. -/
def setActiveProfiles (environment : Environment) (profiles : List String) : Environment :=
  { environment with profiles }

/-- Makes the active profiles explicit and adds one that is not among them. -/
def addActiveProfile (environment : Environment) (profile : String) : Environment :=
  let active := environment.activeProfiles
  { environment with profiles := if active.contains profile then active else active ++ [profile] }

/-- The environment as another kind, with the same sources and profiles. -/
def convert (environment : Environment) (kind : EnvironmentKind) : Environment :=
  { environment with kind }

end Environment

end Launchpad
