import Launchpad.Environment.Basic
import Launchpad.Participant
import Launchpad.Text.Quoted

/-!
# Banners

What is printed when an application starts: the built-in banner, a text whose references are
resolved, or whatever a participant renders.
-/

namespace Launchpad

/-- Something that can be printed at the start. -/
inductive Banner where
  /-- The built-in banner. -/
  | standard
  | text (text : String)
  /-- A banner that the participant renders. -/
  | custom (participant : Participant)
  deriving DecidableEq, Repr

namespace Banner

/-- The property that names the banner file. -/
def locationProperty : String := "liftoff.banner.location"

/-- The version shown in the built-in banner. -/
def version : String := "0.1.0"

/-- The built-in banner. -/
def standardText : String := "\n".intercalate [
  "  _ _  __ _         __  __ ",
  " | (_)/ _| |_ ___  / _|/ _|",
  " | | |  _|  _/ _ \\|  _|  _|",
  " |_|_|_|  \\__\\___/|_| |_|  ",
  " :: liftoff ::  (v" ++ version ++ ")",
  "",
  ""]

/-- A text with its references resolved, ended by a line break. -/
def renderText (environment : Environment) (text : String) : String :=
  let resolved := environment.resolve text
  if resolved.toList.getLast? = some '\n' then resolved else resolved ++ "\n"

end Banner

/-- A banner as it was printed. -/
structure PrintedBanner where
  banner : Banner
  mainSource : Option String
  deriving DecidableEq, Repr

/-- The inspection text of a printed banner shows the main source and leaves out the banner. -/
def PrintedBanner.inspected (printed : PrintedBanner) : String :=
  "PrintedBanner \x7b main_source: " ++ Text.quotedOption (printed.mainSource.map Text.quoted) ++
    ", .. \x7d"

end Launchpad
