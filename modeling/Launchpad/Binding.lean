import Launchpad.Environment.Basic
import Launchpad.Failure.Basic
import Launchpad.Settings

/-!
# Binding settings to properties

The properties under a root name are read into a `SettingsPatch`, and only a patch that was read
without a fault is applied. Reading is therefore all or nothing, and a patch changes exactly the
fields it holds.
-/

namespace Launchpad

/-- The settings that some properties give; an absent field is left as it was. -/
structure SettingsPatch where
  bannerMode : Option BannerMode := none
  applicationKind : Option ApplicationKind := none
  headless : Option Bool := none
  logStartupInfo : Option Bool := none
  registerShutdownHook : Option Bool := none
  addCommandLineProperties : Option Bool := none
  allowOverriding : Option Bool := none
  lazyInitialization : Option Bool := none
  sources : Option (List String) := none
  deriving DecidableEq, Repr

namespace SettingsPatch

/-- The settings with the fields of the patch replaced. -/
def apply (patch : SettingsPatch) (settings : Settings) : Settings :=
  { bannerMode := patch.bannerMode.getD settings.bannerMode
    applicationKind := patch.applicationKind.or settings.applicationKind
    headless := patch.headless.getD settings.headless
    logStartupInfo := patch.logStartupInfo.getD settings.logStartupInfo
    registerShutdownHook := patch.registerShutdownHook.getD settings.registerShutdownHook
    addCommandLineProperties :=
      patch.addCommandLineProperties.getD settings.addCommandLineProperties
    allowOverriding := patch.allowOverriding.getD settings.allowOverriding
    lazyInitialization := patch.lazyInitialization.getD settings.lazyInitialization
    sources := patch.sources.getD settings.sources }

end SettingsPatch

namespace Binding

/-- Root of the properties bound to the settings of an application. -/
def mainRoot : String := "liftoff.main"

/-- The property that a setting is bound to. -/
def property (root key : String) : String := root ++ "." ++ key

/-- Reads a truth value, whatever its case and surrounding blanks. -/
def readFlag (name text : String) : Except Failure Bool :=
  match Text.lower (Text.trim text) with
  | "true" => .ok true
  | "false" => .ok false
  | other => .error (.text ("Invalid boolean '" ++ other ++ "' for " ++ name))

/-- Reads a banner mode, whatever its case and surrounding blanks. -/
def readMode (text : String) : Except Failure BannerMode :=
  let name := Text.lower (Text.trim text)
  match BannerMode.ofName? name with
  | some mode => .ok mode
  | none => .error ⟨.decoding (BannerMode.unknownMessage name), []⟩

/-- Reads an application kind, whatever its case and surrounding blanks. -/
def readKind (text : String) : Except Failure ApplicationKind :=
  match ApplicationKind.parse text with
  | .ok kind => .ok kind
  | .error other => .error ⟨.decoding (ApplicationKind.unknownMessage other), []⟩

/-- Reads the property of a setting if it is present. -/
def optional {α : Type} (environment : Environment) (name : String)
    (read : String → Except Failure α) : Except Failure (Option α) :=
  match environment.get? name with
  | none => .ok none
  | some text => (read text).map some

/-- Reads the truth value of a setting if it is present. -/
def optionalFlag (environment : Environment) (root key : String) : Except Failure (Option Bool) :=
  optional environment (property root key) (readFlag (property root key))

/-- Reads the settings that the properties under `root` give. Truth values are read before the
banner mode, and the banner mode before the application kind; the first fault counts. -/
def read (environment : Environment) (root : String) : Except Failure SettingsPatch := do
  let headless ← optionalFlag environment root "headless"
  let logStartupInfo ← optionalFlag environment root "log-startup-info"
  let registerShutdownHook ← optionalFlag environment root "register-shutdown-hook"
  let addCommandLineProperties ← optionalFlag environment root "add-command-line-properties"
  let allowOverriding ← optionalFlag environment root "allow-bean-definition-overriding"
  let lazyInitialization ← optionalFlag environment root "lazy-initialization"
  let bannerMode ← optional environment (property root "banner-mode") readMode
  let applicationKind ← optional environment (property root "web-application-type") readKind
  let sources := (environment.get? (property root "sources")).map Text.items
  return {
    bannerMode, applicationKind, headless, logStartupInfo, registerShutdownHook,
    addCommandLineProperties, allowOverriding, lazyInitialization, sources }

/-- Binds the properties under `root` to the settings. -/
def bind (environment : Environment) (root : String) (settings : Settings) :
    Except Failure Settings :=
  (read environment root).map (·.apply settings)

end Binding

end Launchpad
