import Launchpad.Application
import Launchpad.Arguments

/-!
# Preparing the environment of a run

The environment that the listeners of a run see: the one supplied, or one made from the process
variables, with the application's default properties, the command line and the additional profiles
worked in. A source that exists keeps its place; a new command-line source comes first and a new
source of defaults last.
-/

namespace Launchpad.Application

/-- The environment that a run starts from. -/
def initialEnvironment (application : Application) (settings : Settings)
    (vars : List (String × String)) : Environment :=
  match application.environment with
  | some environment => environment
  | none => .ofVariables (.forApplication (application.kindUnder settings))
      application.environmentPrefix vars

/-- The stack with the default properties of an application worked in. -/
def withDefaultProperties (defaults : Properties) (sources : PropertySources) : PropertySources :=
  if defaults.isEmpty then sources
  else match sources.named? PropertySource.defaults with
    | some existing => sources.replace PropertySource.defaults
        { existing with properties := existing.properties.merge defaults }
    | none => sources.addLast { name := PropertySource.defaults, properties := defaults }

/-- The command-line source completed by the properties of an older one that it does not have. -/
def completedBy (incoming existing : PropertySource) : PropertySource :=
  existing.keys.foldl (fun source key =>
    if source.contains key then source
    else match existing.get? key with
      | some text => source.insert key text
      | none => source) incoming

/-- The stack with the command line worked in. -/
def withCommandLine (arguments : Arguments) (sources : PropertySources) : PropertySources :=
  if arguments.given.isEmpty then sources
  else match sources.named? PropertySource.commandLine with
    | some existing =>
      sources.replace PropertySource.commandLine (completedBy arguments.toSource existing)
    | none => sources.addFirst arguments.toSource

/-- The environment with additional profiles in front of those that are active. -/
def withProfiles (additional : List String) (environment : Environment) : Environment :=
  if additional.isEmpty then environment
  else environment.setActiveProfiles <|
    environment.activeProfiles.foldl (fun profiles profile =>
      if profiles.contains profile then profiles else profiles ++ [profile]) additional

/-- Works the defaults, the command line and the additional profiles of a run into an
environment. -/
def configureEnvironment (application : Application) (settings : Settings) (arguments : Arguments)
    (environment : Environment) : Environment :=
  let withDefaults := withDefaultProperties application.defaultProperties environment.sources
  let sources :=
    if settings.addCommandLineProperties then withCommandLine arguments withDefaults
    else withDefaults
  withProfiles application.additionalProfiles { environment with sources }

end Launchpad.Application
