import Launchpad.Application
import Launchpad.Bootstrap.Basic
import Launchpad.Event

/-!
# Calls to participants

Everything that the library ever asks of a participant is a `Call`, and `Call.Answer` is the type of
what it gets back. A participant may fail wherever the answer is an `Except`.
-/

namespace Launchpad

/-- A call from the library to a participant. -/
inductive Call where
  | applyBootstrapInitializer (participant : Participant) (store : StoreRef)
  | buildRunListener (participant : Participant) (arguments : ListenerArguments)
  | buildReporter (participant : Participant) (container : Option ContainerRef)
  | buildBootstrapInitializer (participant : Participant)
  | buildContextInitializer (participant : Participant)
  | buildApplicationListener (participant : Participant)
  | starting (participant : Participant) (store : StoreRef)
  | environmentPrepared (participant : Participant) (store : StoreRef) (environment : Environment)
  /-- One of the phases from `contextPrepared` to `running`. -/
  | containerPhase (participant : Participant) (phase : LifecyclePhase) (container : ContainerRef)
  | failed (participant : Participant) (container : Option ContainerRef) (failure : Option Failure)
  | onEvent (participant : Participant) (event : ApplicationEvent)
  /-- A close callback. -/
  | containerClosed (participant : Participant)
  | supply (participant : Participant) (store : StoreRef)
  | handOver (participant : Participant) (held : BootstrapInstance) (container : ContainerRef)
  | bootstrapClosing (participant : Participant) (store : StoreRef) (container : ContainerRef)
  | configure (participant : Participant) (registry : ContainerRef)
  | applyContextInitializer (participant : Participant) (container : ContainerRef)
  | bindSettings (participant : Participant) (environment : Environment) (root : String)
      (settings : Settings)
  | createContainer (participant : Participant) (kind : ApplicationKind)
  | renderBanner (participant : Participant) (environment : Environment)
      (mainSource : Option String)
  | loadSources (participant : Participant) (registry : ContainerRef) (sources : List Source)
  | postProcess (participant : Participant) (container : ContainerRef)
  | afterRefresh (participant : Participant) (container : ContainerRef) (arguments : Arguments)
  | runApplication (participant : Participant) (arguments : Arguments)
  | runCommandLine (participant : Participant) (given : List String)
  | mapFailure (participant : Participant) (failure : Failure)
  | report (participant : Participant) (failure : Failure)
  | shutdownAction (participant : Participant)
  | startupNotice (participant : Participant) (notice : StartupNotice)

namespace Call

/-- What a participant answers to a call. -/
@[reducible] def Answer : Call → Type
  | applyBootstrapInitializer .. => Except Failure Unit
  | buildRunListener .. => Except Failure RunListener
  | buildReporter .. => Except Failure ExceptionReporter
  | buildBootstrapInitializer .. => Except Failure Participant
  | buildContextInitializer .. => Except Failure ContextInitializer
  | buildApplicationListener .. => Except Failure ApplicationListener
  | starting .. => Except Failure Unit
  | environmentPrepared .. => Except Failure Unit × Environment
  | containerPhase .. => Except Failure Unit
  | failed .. => Except Failure Unit
  | onEvent .. => Except Failure Unit
  | containerClosed .. => Unit
  | supply .. => Except Failure Value
  | handOver .. => Except Failure Unit
  | bootstrapClosing .. => Except Failure Unit
  | configure .. => Except Failure Unit
  | applyContextInitializer .. => Except Failure Unit
  | bindSettings .. => Except Failure Unit × Settings
  | createContainer .. => Except Failure ContainerRef
  | renderBanner .. => Except Failure String
  | loadSources .. => Except Failure Unit
  | postProcess .. => Except Failure Unit
  | afterRefresh .. => Except Failure Unit
  | runApplication .. => Except Failure Unit
  | runCommandLine .. => Except Failure Unit
  | mapFailure .. => ExitCode
  | report .. => Bool
  | shutdownAction .. => Unit
  | startupNotice .. => Unit

/-- The participant that is called. -/
def participant : Call → Participant
  | applyBootstrapInitializer participant _ | buildRunListener participant _
  | buildReporter participant _ | buildBootstrapInitializer participant
  | buildContextInitializer participant | buildApplicationListener participant
  | starting participant _ | environmentPrepared participant _ _
  | containerPhase participant _ _ | failed participant _ _ | onEvent participant _
  | containerClosed participant | supply participant _ | handOver participant _ _
  | bootstrapClosing participant _ _ | configure participant _
  | applyContextInitializer participant _ | bindSettings participant _ _ _
  | createContainer participant _ | renderBanner participant _ _ | loadSources participant _ _
  | postProcess participant _ | afterRefresh participant _ _ | runApplication participant _
  | runCommandLine participant _ | mapFailure participant _ | report participant _
  | shutdownAction participant | startupNotice participant _ => participant

/-- The failure in an answer, if there is one. -/
def failure? : (call : Call) → call.Answer → Option Failure
  | applyBootstrapInitializer .., answer => errorOf answer
  | buildRunListener .., answer => errorOf answer
  | buildReporter .., answer => errorOf answer
  | buildBootstrapInitializer .., answer => errorOf answer
  | buildContextInitializer .., answer => errorOf answer
  | buildApplicationListener .., answer => errorOf answer
  | starting .., answer => errorOf answer
  | environmentPrepared .., answer => errorOf answer.1
  | containerPhase .., answer => errorOf answer
  | failed .., answer => errorOf answer
  | onEvent .., answer => errorOf answer
  | containerClosed .., _ => none
  | supply .., answer => errorOf answer
  | handOver .., answer => errorOf answer
  | bootstrapClosing .., answer => errorOf answer
  | configure .., answer => errorOf answer
  | applyContextInitializer .., answer => errorOf answer
  | bindSettings .., answer => errorOf answer.1
  | createContainer .., answer => errorOf answer
  | renderBanner .., answer => errorOf answer
  | loadSources .., answer => errorOf answer
  | postProcess .., answer => errorOf answer
  | afterRefresh .., answer => errorOf answer
  | runApplication .., answer => errorOf answer
  | runCommandLine .., answer => errorOf answer
  | mapFailure .., _ => none
  | report .., _ => none
  | shutdownAction .., _ => none
  | startupNotice .., _ => none
where
  /-- The error of a result. -/
  errorOf {α : Type} : Except Failure α → Option Failure
    | .error failure => some failure
    | .ok _ => none

end Call

end Launchpad
