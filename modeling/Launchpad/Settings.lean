import Launchpad.Kind

/-!
# Settings

The part of an application's description that can also be set by properties.
-/

namespace Launchpad

/-- Where the banner goes. -/
inductive BannerMode where
  | off
  | console
  | log
  deriving DecidableEq, Repr

namespace BannerMode

/-- The name of a mode in property values. -/
def name : BannerMode → String
  | off => "off"
  | console => "console"
  | log => "log"

/-- The inspection text of a mode. -/
def inspected : BannerMode → String
  | off => "Off"
  | console => "Console"
  | log => "Log"

/-- The mode of a name, which is exact. -/
def ofName? (text : String) : Option BannerMode :=
  [off, console, log].find? (·.name = text)

/-- The message for a text that names no mode. -/
def unknownMessage (text : String) : String :=
  "unknown variant \x60" ++ text ++
    "\x60, expected one of \x60off\x60, \x60console\x60, \x60log\x60"

end BannerMode

/-- The settings of an application that properties can set. -/
structure Settings where
  bannerMode : BannerMode := .console
  /-- The kind of application; without one it is deduced from the markers. -/
  applicationKind : Option ApplicationKind := none
  headless : Bool := true
  logStartupInfo : Bool := true
  registerShutdownHook : Bool := true
  addCommandLineProperties : Bool := true
  allowOverriding : Bool := false
  lazyInitialization : Bool := false
  /-- Textual sources, used after the primary ones. -/
  sources : List String := []
  deriving DecidableEq, Repr, Inhabited

end Launchpad
