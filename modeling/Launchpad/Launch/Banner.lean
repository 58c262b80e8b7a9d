import Launchpad.World

/-!
# Printing the banner

The banner file that the environment names comes first, then the banner of the application, then the
built-in one. It is printed on the console or written to the log.
-/

namespace Launchpad.Banner

/-- The text of a banner. -/
def render (invoke : Invoker) (environment : Environment) (mainSource : Option String) :
    Banner → Act (Except Failure String)
  | .standard => return .ok standardText
  | .text template => return .ok (renderText environment template)
  | .custom participant => invoke (.renderBanner participant environment mainSource)

/-- Reads a text banner from a file. -/
def ofFile (path : String) : Act (Except Failure Banner) := do
  match (← get).files.read path with
  | .ok content => return .ok (.text content)
  | .error fault => return .error ⟨.file fault, []⟩

/-- The banner that is to be printed. -/
def select (environment : Environment) (own : Option Banner) : Act (Except Failure Banner) :=
  match environment.get? locationProperty with
  | some path => ofFile path
  | none => return .ok (own.getD .standard)

/-- Selects a banner and prints it, unless banners are off. -/
def printSelected (invoke : Invoker) (mode : BannerMode) (environment : Environment)
    (own : Option Banner) (mainSource : Option String) :
    Act (Except Failure (Option PrintedBanner)) := do
  if mode = .off then return .ok none
  match ← select environment own with
  | .error failure => return .error failure
  | .ok banner =>
    match ← render invoke environment mainSource banner with
    | .error failure => return .error failure
    | .ok rendered =>
      if mode = .log then Act.log .info (Text.trimEnd rendered) else Act.print rendered
      return .ok (some { banner, mainSource })

end Launchpad.Banner
