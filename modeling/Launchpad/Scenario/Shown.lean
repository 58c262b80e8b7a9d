import Launchpad.Application
import Launchpad.Bean
import Launchpad.Datum
import Launchpad.Log

/-!
# How scenarios show things

A scenario describes a launch by plain data, and what came of it is shown as plain data again. Here
are the forms in which the values of the library are shown.
-/

namespace Launchpad.Scenario

/-- Whatever can be shown may stand where data are expected. -/
scoped instance {α : Type} [ToDatum α] : CoeOut α Datum := ⟨toDatum⟩

/-! ## Failures -/

/-- The name of a failure's kind: the letters and digits with which its inspection text begins. A
bare message has none, and the faults of files and outputs share one. -/
def kindName (failure : Failure) : String :=
  match failure.fault with
  | .file _ | .output _ => "Io"
  | _ =>
    match failure.inspected.toList.takeWhile Char.isAlphanum with
    | [] => "Error"
    | name => String.ofList name

/-- The fields under which an error is shown. -/
def errorFields (kind message : String) (causes : List String) : List (String × Datum) :=
  [("error", toDatum kind), ("message", toDatum message)] ++ Datum.unlessEmpty "causes" causes

/-- The fields under which a failure is shown. -/
def failureFields (failure : Failure) : List (String × Datum) :=
  errorFields (kindName failure) failure.message failure.causeMessages

instance : ToDatum Failure := ⟨fun failure => .fields (failureFields failure)⟩
instance : ToDatum LaunchError := ⟨fun error => error.toFailure⟩
instance : ToDatum PluginError := ⟨fun error => error.toFailure⟩

instance {ε α : Type} [ToDatum ε] [ToDatum α] : ToDatum (Except ε α) where
  toDatum
    | .ok value => value
    | .error failure => failure

/-- What an action that threw is shown as. -/
def panicked (message : String) : Datum := .fields (errorFields "panic" message [])

/-! ## Values -/

instance : ToDatum ApplicationKind := ⟨fun kind => kind.name⟩
instance : ToDatum LifecyclePhase := ⟨fun phase => phase.name⟩
instance : ToDatum StartupStep := ⟨fun step => (step.name, step.tags)⟩
instance : ToDatum Runner := ⟨fun runner => (runner.kind.name, runner.order)⟩

/-- Numbers and texts show themselves; other values stay hidden. -/
instance : ToDatum Value where
  toDatum
    | .number _ value => value
    | .text value => value
    | _ => .nothing

instance : ToDatum PropertySource where
  toDatum source := .fields [("name", source.name), ("props", source.properties.entries)]

instance : ToDatum Environment where
  toDatum environment := .fields [
    ("kind", environment.kind.inspected),
    ("sources", .list (environment.sources.map toDatum)),
    ("active", environment.activeProfiles),
    ("default", environment.defaultProfiles)]

instance : ToDatum Settings where
  toDatum settings := .fields [
    ("banner_mode", settings.bannerMode.inspected),
    ("web_application_type", settings.applicationKind),
    ("headless", settings.headless),
    ("log_startup_info", settings.logStartupInfo),
    ("register_shutdown_hook", settings.registerShutdownHook),
    ("add_command_line_properties", settings.addCommandLineProperties),
    ("allow_bean_definition_overriding", settings.allowOverriding),
    ("lazy_initialization", settings.lazyInitialization),
    ("sources", settings.sources)]

instance : ToDatum LogRecord where
  toDatum record := .list [record.level.name, record.message,
    .fields (record.fields.map fun field => (field.1, toDatum field.2))]

/-- The error of a run is shown with its outcome: the exit code, who presented the failure, and the
step that failed. -/
instance : ToDatum RunError where
  toDatum error :=
    let kind := match error.stage with
      | .startup => "Startup"
      | .running => "Running"
    let reportedBy : Datum := match error.failure.reportedBy with
      | .log => "log"
      | .reporter name => .fields [("reporter", name)]
    .fields (errorFields kind error.message error.causeMessages ++ [
      ("exit_code", toDatum error.failure.exitCode),
      ("reported_by", reportedBy),
      ("failure", toDatum error.failure.message),
      ("cause", toDatum error.failure.cause)])

end Launchpad.Scenario
