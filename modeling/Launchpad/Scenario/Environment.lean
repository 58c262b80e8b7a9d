import Launchpad.Scenario.Failure

/-!
# Described environments

An environment is described by its kind, the variables it is made from, its sources and its active
profiles. A described step inspects an environment or changes it; it never fails, and its result is
shown.
-/

namespace Launchpad.Scenario

/-- The property source that a description stands for. -/
def propertySourceOf (description : Datum) : PropertySource :=
  { name := description.textAt "name"
    properties := .ofList (description.pairsAt "props")
    relaxed := description.flagAt "relaxed" }

/-- The environment that a description stands for. -/
def environmentOf (description : Datum) : Environment :=
  let kind := EnvironmentKind.forApplication (kindAt description "kind")
  let start : Environment :=
    if description.has "system" then
      .ofVariables kind (description.textAt? "prefix") (description.pairsAt "system")
    else { kind }
  let environment := (description.itemsAt "sources").foldl (fun environment source =>
    { environment with
      sources := PropertySources.addLast environment.sources (propertySourceOf source) }) start
  if description.has "active" then
    environment.setActiveProfiles (description.textsAt "active")
  else environment

/-- Carries out a step on an environment: its result, and the environment after it. -/
def environmentStep (environment : Environment) (step : Datum) : Datum × Environment :=
  let name := step.textAt "name"
  let key := step.textAt "key"
  let sources := environment.sources
  let source := propertySourceOf (step.field "source")
  let shown (result : Datum) : Datum × Environment := (result, environment)
  let changed (result : Datum) (sources : PropertySources) : Datum × Environment :=
    (result, { environment with sources })
  match step.textAt "do" with
  | "add_first" => changed "ok" (sources.addFirst source)
  | "add_last" => changed "ok" (sources.addLast source)
  | "replace" => changed (sources.hasSource name) (sources.replace name source)
  | "remove" => changed (sources.named? name) (sources.remove name)
  | "source" => shown (sources.named? name)
  | "has_source" => shown (sources.hasSource name)
  | "names" => shown sources.names
  | "len" => shown (sources.length, sources.isEmpty)
  | "source_get" => shown ((sources.named? name).map fun source =>
      Datum.list [source.get? key, source.contains key, source.isEmpty])
  | "insert" =>
    match sources.named? name with
    | none => shown false
    | some source =>
      changed true (sources.replace name (source.insert key (step.textAt "value")))
  | "raw" => shown (environment.raw? key)
  | "get" => shown (environment.get? key)
  | "has" => shown (environment.has key)
  | "get_or" => shown ((environment.get? key).getD (step.textAt "default"))
  | "resolve" => shown (environment.resolve (step.textAt "text"))
  | "active" => shown environment.activeProfiles
  | "set_active" => ("ok", environment.setActiveProfiles (step.textsAt "profiles"))
  | "add_active" => ("ok", environment.addActiveProfile (step.textAt "profile"))
  | "default_profiles" => shown environment.defaultProfiles
  | "convert" =>
    let converted := environment.convert (.forApplication (kindAt step "kind"))
    ((converted.kind.inspected, decide (converted = environment)), converted)
  | "dump" => shown environment
  | _ => shown .nothing

end Launchpad.Scenario
