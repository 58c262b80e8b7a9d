import Launchpad.Failure.Basic
import Launchpad.Participant
import Launchpad.Text.Blank

/-!
# Sources of bean definitions

A source is a configuration given directly, a package to scan or a resource. The loader of an
application resolves packages and resources to configurations; a package without configurations
contributes nothing, and an unknown resource is a failure.
-/

namespace Launchpad

/-- A component that registers beans when it is called. -/
structure Configuration where
  name : String
  participant : Participant
  deriving DecidableEq, Repr

/-- A source declared on an application. -/
inductive Source where
  | component (configuration : Configuration)
  | package (name : String)
  | resource (location : String)
  deriving DecidableEq, Repr

namespace Source

/-- Reads a textual source: with a colon or a slash it is a resource, otherwise a package. -/
def parse (text : String) : Source :=
  let chars := Text.trimChars text.toList
  if chars.contains ':' || chars.contains '/' then resource (String.ofList chars)
  else package (String.ofList chars)

/-- The name under which a source is recorded. -/
def name : Source → String
  | component configuration => configuration.name
  | package name => name
  | resource location => location

/-- The inspection text of a source. -/
def inspected : Source → String
  | component configuration => "Component(" ++ configuration.name ++ ")"
  | package name => "Package(" ++ name ++ ")"
  | resource location => "Resource(" ++ location ++ ")"

end Source

/-- What packages and resources stand for. -/
structure SourceLoader where
  packages : List (String × Configuration) := []
  resources : List (String × Configuration) := []
  deriving DecidableEq, Repr, Inhabited

namespace SourceLoader

/-- Adds a configuration to a package. -/
def withPackage (loader : SourceLoader) (package : String) (configuration : Configuration) :
    SourceLoader :=
  { loader with packages := loader.packages ++ [(package, configuration)] }

/-- Lets a resource stand for a configuration, instead of what it stood for before. -/
def withResource (loader : SourceLoader) (location : String) (configuration : Configuration) :
    SourceLoader :=
  { loader with resources := (location, configuration) :: loader.resources }

/-- The configurations that a source stands for, in the order in which they register. -/
def resolve (loader : SourceLoader) : Source → Except Failure (List Configuration)
  | .component configuration => .ok [configuration]
  | .package name =>
    .ok ((loader.packages.filter (·.1 = name)).map Prod.snd)
  | .resource location =>
    match loader.resources.lookup location with
    | some configuration => .ok [configuration]
    | none => .error (.text ("Cannot load resource '" ++ location ++ "'"))

end SourceLoader

/-- What loads the sources of an application. -/
inductive DefinitionLoader where
  | sources (loader : SourceLoader)
  | custom (participant : Participant)
  deriving DecidableEq, Repr

end Launchpad
