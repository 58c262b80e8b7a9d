/-!
# Application events

What application listeners are told about a run, a container and the end of an application.
-/

namespace Launchpad

/-- A notification for application listeners. -/
inductive ApplicationEvent where
  | starting
  | environmentPrepared (activeProfiles : List String)
  | contextInitialized (container : String)
  | prepared (container : String)
  | contextRefreshed (container : String)
  | started (container : String)
  | ready (container : String)
  | failed (container : Option String) (message : String)
  | exitCode (code : Int)
  | contextClosed (container : String)
  deriving DecidableEq, Repr

namespace ApplicationEvent

/-- The name of an event. -/
def name : ApplicationEvent → String
  | starting => "Starting"
  | environmentPrepared _ => "EnvironmentPrepared"
  | contextInitialized _ => "ContextInitialized"
  | prepared _ => "Prepared"
  | contextRefreshed _ => "ContextRefreshed"
  | started _ => "Started"
  | ready _ => "Ready"
  | failed _ _ => "Failed"
  | exitCode _ => "ExitCode"
  | contextClosed _ => "ContextClosed"

end ApplicationEvent

end Launchpad
