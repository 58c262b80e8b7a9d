import Launchpad.Text.Blank

/-!
# Application kinds

The three kinds of application, their deduction from the capability markers of a process, and the
kind of environment that belongs to each.
-/

namespace Launchpad

/-- The kinds of application that can be launched. -/
inductive ApplicationKind where
  /-- An application without an embedded web server. -/
  | standalone
  | servlet
  | reactive
  deriving DecidableEq, Repr, Inhabited

namespace ApplicationKind

/-- The name of a kind in messages and property values. -/
def name : ApplicationKind → String
  | standalone => "standalone"
  | servlet => "servlet"
  | reactive => "reactive"

/-- The inspection text of a kind. -/
def inspected : ApplicationKind → String
  | standalone => "Standalone"
  | servlet => "Servlet"
  | reactive => "Reactive"

/-- Marker of a reactive web stack. -/
def reactiveMarker : String := "reactive.web"

/-- Marker of a servlet dispatcher. -/
def servletDispatcherMarker : String := "servlet.dispatcher"

/-- The markers that a servlet application needs together. -/
def servletMarkers : List String := ["servlet", "servlet.web-context"]

/-- The kind that the markers speak for: a reactive stack wins unless the servlet dispatcher is
present too, and a servlet application needs every servlet marker. -/
def deduce (markers : List String) : ApplicationKind :=
  if markers.contains reactiveMarker && !markers.contains servletDispatcherMarker then reactive
  else if servletMarkers.all markers.contains then servlet
  else standalone

/-- The kind named by a text, whatever its case and surrounding blanks. The error is the
normalised text. -/
def parse (text : String) : Except String ApplicationKind :=
  match Text.lower (Text.trim text) with
  | "standalone" => .ok standalone
  | "none" => .ok standalone
  | "servlet" => .ok servlet
  | "reactive" => .ok reactive
  | other => .error other

/-- The message for a text that names no kind. -/
def unknownMessage (text : String) : String := "unknown application kind '" ++ text ++ "'"

end ApplicationKind

/-- The flavours of environment, one for each kind of application. -/
inductive EnvironmentKind where
  | standard
  | servlet
  | reactive
  deriving DecidableEq, Repr, Inhabited

namespace EnvironmentKind

/-- The flavour that belongs to a kind of application. -/
def forApplication : ApplicationKind → EnvironmentKind
  | .standalone => standard
  | .servlet => servlet
  | .reactive => reactive

/-- The inspection text of a flavour. -/
def inspected : EnvironmentKind → String
  | standard => "Standard"
  | servlet => "Servlet"
  | reactive => "Reactive"

end EnvironmentKind

end Launchpad
