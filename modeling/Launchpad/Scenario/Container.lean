import Launchpad.Scenario.Environment
import Launchpad.Scenario.Participant
import Launchpad.Scenario.Script

/-!
# Scripts on containers

Making a container as it is described, showing its state, and the steps that a script can take on
it. A container that keeps its definition registry to itself refuses the steps that need one.
-/

namespace Launchpad.Scenario

/-- How a described container is made. A tracking container gets no identifier, and nothing stands
in front of it. -/
def containerOptions (description : Datum) : Container.Options :=
  let closeFailure := description.textAt? "close_fail"
  if description.flagAt "tracking" || closeFailure.isSome then { tracking := some { closeFailure } }
  else {
    id := description.textAt? "id"
    hidesRegistry := description.flagAt "no_registry"
    refreshFailure := failureAt? description "refresh_fail" }

/-- Makes a container as it is described. -/
def makeContainer (kind : ApplicationKind) (description : Datum) : Program Held := do
  let ref ← run (.makeContainer kind (containerOptions description))
  return { ref, made := true }

/-- Makes the container that is described in a field. -/
def makeContainerAt (description : Datum) (key : String) : Program Held :=
  makeContainer (kindAt (description.field key) "kind") (description.field key)

/-! ## Beans -/

/-- The runner of a description. Descriptions with one identifier in one scope stand for the same
instance, which follows the first of them. -/
def runnerOf (description : Datum) : Program Runner := do
  let key := keyOf "runner" (← scope) (description.textAt "id")
  let known ← run (.memory key)
  let followed := if known = .nothing then description else known
  run (.remember key followed)
  let type := followed.textAt "type"
  return {
    kind := if type = "command" then .commandLine else .application
    participant := script followed
    order :=
      if followed.flagAt "unordered" || type = "stub" then none else orderOf followed }

/-- The value in a field: its number or else its text. -/
def valueAt (description : Datum) (key : String) : Value :=
  match description.numberAt? key with
  | some number => .number "i64" number
  | none => .text (description.textAt key)

/-- The bean that a description stands for. -/
def beanOf (description : Datum) : Program Bean := do
  if description.has "runner" then return .runner (← runnerOf (description.field "runner"))
  else if description.has "mapper" then return .exitCodeMapper (script (description.field "mapper"))
  else if description.has "generator" then
    return .exitCodeGenerator ((description.field "generator").asCode)
  else return .value (valueAt description "value")

/-- Registers the bean that a description stands for under its name. -/
def registerBean (ref : ContainerRef) (description : Datum) : Attempt Bean := do
  let bean ← beanOf description
  need (run (.registerBean ref (description.textAt "name") bean))
  return bean

/-- The exit code that a rule maps a failure to: a code, or the code beside the first text that the
failure mentions. -/
def codeByRule (rule : Datum) (failure : Failure) : ExitCode :=
  match rule with
  | .number _ => rule.asCode
  | cases =>
    (cases.items.findSome? fun entry =>
      match entry.items with
      | [text, code] => if failure.mentions text.asText then some code.asCode else none
      | _ => none).getD 0

/-! ## State -/

/-- Whether a container stands behind another that hides a part of it. -/
def isWrapped (container : Container) : Bool :=
  container.hidesRegistry || container.refreshFailure.isSome

/-- Whether a container is neither a tracking one nor behind another. -/
def isPlain (container : Container) : Bool :=
  !isWrapped container && container.tracking.isNone

/-- The fields that only who made a container sees. -/
def ownFields (container : Container) : List (String × Datum) :=
  match isWrapped container, container.tracking with
  | true, _ => []
  | false, none => [
    ("closed", container.isClosed), ("lazy", container.lazyInitialization),
    ("allow", container.allowOverriding), ("sources", container.sources)]
  | false, some tracking => [("closed", container.isClosed), ("closes", tracking.closes)]

/-- The banner that a container holds, rendered once more. -/
def bannerFields (container : Container) : Program (List (String × Datum)) := do
  match container.singleton? Application.bannerBean, container.environment with
  | some (.banner printed), some environment =>
    match ← run (.render printed.banner environment printed.mainSource) with
    | .ok text => return [("banner", [text, printed.inspected])]
    | .error failure => return [("banner", failure)]
  | _, _ => return []

/-- The arguments that a container holds. -/
def argumentFields (container : Container) : List (String × Datum) :=
  match container.singleton? Application.argumentsBean with
  | some (.arguments arguments) => [("arguments", arguments.given)]
  | _ => []

/-- The state of a container as its holder sees it. -/
def stateOf (held : Held) : Program Datum := do
  let container ← run (.container held.ref)
  return .fields ([
    ("id", toDatum container.id), ("kind", container.kind), ("active", container.isActive),
    ("beans", if container.hidesRegistry then .nothing else container.beanNames),
    ("debug", container.inspected)] ++
    (if held.made then ownFields container else []) ++
    (← bannerFields container) ++ argumentFields container)

/-! ## Steps -/

/-- What a container holds under a name: whether it is a value, the value if it is a text, and the
value if it is a number. -/
def singletonFacts (held : Option Value) : List Datum :=
  match held with
  | some (.text text) => [true, text, .nothing]
  | some (.number "i64" number) => [true, .nothing, number]
  | held => [held.isSome, .nothing, .nothing]

/-- Calls the runners of a container in their order, up to the first that fails. -/
def callRunners (container : Container) (arguments : Arguments) : Attempt Unit :=
  (Runner.ordered container.runners).forM fun runner => need (run (.callRunner runner arguments))

/-- Takes a step on a container. -/
def containerStep (held : Held) (step : Datum) : Attempt Datum := do
  let ref := held.ref
  let container ← run (.container ref)
  let name := step.textAt "name"
  let registry (rest : Attempt Datum) : Attempt Datum :=
    if container.hidesRegistry then throw (.text "no registry") else rest
  match step.textAt "do" with
  | "bean" => registry do return (← registerBean ref step).inspected
  | "singleton" =>
    shown (need (run (.registerBean ref name (.value (valueAt step "value")))))
  | "get" => return singletonFacts (container.singleton? name)
  | "contains" => registry (return container.hasBean name)
  | "names" => registry (return container.beanNames)
  | "source" => registry (shown (run (.registerSource ref name)))
  | "allow" => shown (run (.setAllowOverriding ref (step.flagAt "value")))
  | "lazy" => shown (run (.setLazyInitialization ref (step.flagAt "value")))
  | "state" => stateOf held
  | "listener" => shown (run (.addListener ref (listenerOf step held)))
  | "publish" => shown (need (run (.publish ref (eventOf step))))
  | "refresh" => shown (need (run (.refresh ref)))
  | "close" => shown (need (run (.close ref)))
  | "on_close" => shown (run (.onClose ref (script step held.captured)))
  | "runners" => return container.runners
  | "call_runners" =>
    let arguments ← MonadExcept.ofExcept (argumentsOf step)
    shown (callRunners container arguments)
  | "generators" => return container.generators
  | "mappers" =>
    shown (container.mappers.mapM fun mapper =>
      run (.mapFailure mapper (failureAt step "error")))
  | "resolve" => shown (run (.resolveExitCode (some ref) (failureAt step "error")))
  | "exit" => shown (run (.exit ref (step.codesAt "codes")))
  | "set_env" => shown (run (.setEnvironment ref (environmentOf (step.field "env"))))
  | "env" => return container.environment
  | "env_get" => return container.environment.bind (·.get? (step.textAt "key"))
  | "load" => registry do
    let sources := (step.itemsAt "sources").map sourceOf
    shown (need (run (.load (loaderOf (step.field "loader")) ref sources)))
  | "fail" => throw (failureAt step "error")
  | _ => return .nothing

/-- Takes steps on a container, with a remark on each. -/
def containerSteps (held : Held) : List Datum → Attempt Unit := nested "ctx" (containerStep held)

end Launchpad.Scenario
