import Launchpad.Launch.Run

/-!
# Commands and programs of participants

A participant acts on the library only through commands. What it does when it is called is a
`Program`: commands one after the other, each chosen after the answer to the one before, and an
answer at the end. A `Behaviour` gives the program of every call.
-/

namespace Launchpad

/-- What a participant can ask of the library. -/
inductive Command where
  | container (ref : ContainerRef)
  | makeContainer (kind : ApplicationKind) (options : Container.Options)
  | registerBean (ref : ContainerRef) (name : String) (bean : Bean)
  | registerSource (ref : ContainerRef) (name : String)
  | setAllowOverriding (ref : ContainerRef) (allow : Bool)
  | setLazyInitialization (ref : ContainerRef) (lazily : Bool)
  | setEnvironment (ref : ContainerRef) (environment : Environment)
  | setStartup (ref : ContainerRef) (startup : Startup)
  | addListener (ref : ContainerRef) (listener : ApplicationListener)
  | publish (ref : ContainerRef) (event : ApplicationEvent)
  | refresh (ref : ContainerRef)
  | close (ref : ContainerRef)
  | onClose (ref : ContainerRef) (participant : Participant)
  | load (loader : DefinitionLoader) (ref : ContainerRef) (sources : List Source)
  | callRunner (runner : Runner) (arguments : Arguments)
  | mapFailure (mapper : Participant) (failure : Failure)
  | resolveExitCode (container : Option ContainerRef) (failure : Failure)
  | exit (ref : ContainerRef) (codes : List ExitCode)
  | makeStore
  | store (ref : StoreRef)
  | makeInstance (value : Value)
  | register (ref : StoreRef) (type : String) (supplier : InstanceSupplier) (ifAbsent : Bool)
  | read (ref : StoreRef) (type : String)
  | readOr (ref : StoreRef) (type : String) (other : Value)
  | listen (ref : StoreRef) (participant : Participant)
  | closeStore (ref : StoreRef) (container : ContainerRef)
  | makeCoordinator (signalHook : Bool)
  | sharedCoordinator
  | dropCoordinator (ref : CoordinatorRef)
  | coordinator (ref : CoordinatorRef)
  | registerContainer (ref : CoordinatorRef) (container : ContainerRef)
  | deregisterContainer (ref : CoordinatorRef) (container : ContainerRef)
  | addAction (ref : CoordinatorRef) (stage : ActionStage) (name : String)
      (participant : Participant)
  | removeAction (ref : CoordinatorRef) (id : ActionId)
  | trigger (ref : CoordinatorRef)
  | attemptTrigger (ref : CoordinatorRef)
  | teardown (ref : CoordinatorRef)
  | render (banner : Banner) (environment : Environment) (mainSource : Option String)
  | readBanner (path : String)
  | run (application : Application) (given : List String)
  | log (level : LogLevel) (message : String) (fields : List (String × String))
  | print (text : String)
  /-- Notes a remark for the observer of a launch. -/
  | remark (content : Datum)
  | memory (key : String)
  | remember (key : String) (content : Datum)

/-- What the library answers to a command. Whatever can go wrong is a `Failure`, which a participant
can hand on as its own. -/
@[reducible] def Command.Answer : Command → Type
  | container .. => Container
  | makeContainer .. => ContainerRef
  | registerBean .. => Except Failure Unit
  | registerSource .. => Unit
  | setAllowOverriding .. => Unit
  | setLazyInitialization .. => Unit
  | setEnvironment .. => Unit
  | setStartup .. => Unit
  | addListener .. => Unit
  | publish .. => Except Failure Unit
  | refresh .. => Except Failure Unit
  | close .. => Except Failure Unit
  | onClose .. => Unit
  | load .. => Except Failure Unit
  | callRunner .. => Except Failure Unit
  | mapFailure .. => ExitCode
  | resolveExitCode .. => ExitCode
  | exit .. => ExitCode
  | makeStore => StoreRef
  | store .. => BootstrapStore
  | makeInstance .. => BootstrapInstance
  | register .. => Except Failure Bool
  | read .. => Except Failure BootstrapInstance
  | readOr .. => Except Failure BootstrapInstance
  | listen .. => Except Failure Unit
  | closeStore .. => Except Failure Unit
  | makeCoordinator .. => CoordinatorRef
  | sharedCoordinator => CoordinatorRef
  | dropCoordinator .. => Unit
  | coordinator .. => ShutdownCoordinator
  | registerContainer .. => Except Failure Unit
  | deregisterContainer .. => Bool
  | addAction .. => Except Failure ActionId
  | removeAction .. => Bool
  | trigger .. => Bool
  | attemptTrigger .. => Except String Bool
  | teardown .. => Unit
  | render .. => Except Failure String
  | readBanner .. => Except Failure Banner
  | run .. => Application.Outcome
  | log .. => Unit
  | print .. => Unit
  | remark .. => Unit
  | memory .. => Datum
  | remember .. => Unit

/-- What a participant does when it is called: commands, and an answer of type `α` at the end. -/
inductive Program (α : Type) where
  | done (answer : α)
  | panic (message : String)
  | perform (command : Command) (next : command.Answer → Program α)

namespace Program

/-- Goes on with another program after the answer of the first. -/
def bind {α β : Type} (program : Program α) (next : α → Program β) : Program β :=
  match program with
  | done answer => next answer
  | panic message => panic message
  | perform command rest => perform command fun answer => (rest answer).bind next

instance : Monad Program where
  pure := done
  bind := bind

/-- The program of a single command. -/
def command (command : Command) : Program command.Answer := perform command done

end Program

/-- What a participant does when it may fail; the first failure ends it. -/
abbrev Attempt := ExceptT Failure Program

/-- The answer of a program, whose failure is handed on. -/
def Attempt.need {α : Type} (program : Program (Except Failure α)) : Attempt α := program

/-- What every participant does when it is called. -/
abbrev Behaviour := (call : Call) → Program call.Answer

/-- Carries out a command of a participant. -/
def Command.carryOut (invoke : Invoker) : (command : Command) → Act command.Answer
  | container ref => Act.container ref
  | makeContainer kind options => Container.make kind options
  | registerBean ref name bean =>
    return (← Container.register ref name bean).mapError Failure.container
  | registerSource ref name => Act.modifyContainer ref (·.registerSource name)
  | setAllowOverriding ref allow =>
    Act.modifyContainer ref fun held => { held with allowOverriding := allow }
  | setLazyInitialization ref lazily =>
    Act.modifyContainer ref fun held => { held with lazyInitialization := lazily }
  | setEnvironment ref environment =>
    Act.modifyContainer ref fun held => { held with environment := some environment }
  | setStartup ref startup => Act.modifyContainer ref fun held => { held with startup }
  | addListener ref listener =>
    Act.modifyContainer ref fun held => { held with listeners := held.listeners ++ [listener] }
  | publish ref event => Container.publish invoke ref event
  | refresh ref => Container.refresh invoke ref
  | close ref => Container.close invoke ref
  | onClose ref participant => Container.onClose invoke ref (.custom participant)
  | load loader ref sources => Container.load invoke loader ref sources
  | callRunner runner arguments => Container.callRunner invoke runner arguments
  | mapFailure mapper failure => invoke (.mapFailure mapper failure)
  | resolveExitCode held failure => Container.resolveExitCode invoke held failure
  | exit ref codes => Container.exit invoke ref codes
  | makeStore => BootstrapStore.make
  | store ref => Act.store ref
  | makeInstance value => BootstrapStore.makeInstance value
  | register ref type supplier ifAbsent =>
    return (← BootstrapStore.register ref type supplier ifAbsent).mapError BootstrapError.toFailure
  | read ref type =>
    return (← BootstrapStore.read invoke ref type).mapError BootstrapError.toFailure
  | readOr ref type other =>
    return (← BootstrapStore.readOr invoke ref type other).mapError BootstrapError.toFailure
  | listen ref participant =>
    return (← BootstrapStore.listen ref participant).mapError BootstrapError.toFailure
  | closeStore ref held =>
    return (← (BootstrapStore.close ref held).carryOut invoke).mapError BootstrapError.toFailure
  | makeCoordinator signalHook => ShutdownCoordinator.make signalHook
  | sharedCoordinator => ShutdownCoordinator.shared
  | dropCoordinator ref => ShutdownCoordinator.drop ref
  | coordinator ref => Act.coordinator ref
  | registerContainer ref held => do
    if ← ShutdownCoordinator.registerContainer invoke ref held then return .ok ()
    else return .error Failure.shutdownInProgress
  | deregisterContainer ref held => ShutdownCoordinator.deregisterContainer ref held
  | addAction ref stage name participant => do
    match ← ShutdownCoordinator.add ref stage name participant with
    | some id => return .ok id
    | none => return .error Failure.shutdownInProgress
  | removeAction ref id => ShutdownCoordinator.remove ref id
  | trigger ref => ShutdownCoordinator.trigger invoke ref
  | attemptTrigger ref => ShutdownCoordinator.attemptTrigger invoke ref
  | teardown ref => ShutdownCoordinator.teardown ref
  | render banner environment mainSource => banner.render invoke environment mainSource
  | readBanner path => Banner.ofFile path
  | run application given => application.run invoke given
  | log level message fields => Act.log level message fields
  | print text => Act.print text
  | remark content => modify fun world => { world with remarks := world.remarks.push content }
  | memory key => return ((← get).memory.lookup key).getD .nothing
  | remember key content =>
    modify fun world =>
      { world with memory := (key, content) :: world.memory.filter (·.1 ≠ key) }

/-- Carries out a program. -/
def Program.carryOut {α : Type} (invoke : Invoker) : Program α → Act α
  | .done answer => return answer
  | .panic message => throw (.panicked message)
  | .perform command next => do
    let answer ← command.carryOut invoke
    (next answer).carryOut invoke

namespace Behaviour

/-- Adds a line to the record of calls. -/
def note (entry : JournalEntry) : Act Unit :=
  modify fun world => { world with journal := world.journal.push entry }

/-- Carries out calls to participants under a behaviour. Calls may lead to further calls; the
nesting of calls is limited, and `depth` counts those under way. -/
def invoker (behaviour : Behaviour) : (limit depth : Nat) → (call : Call) → Act call.Answer
  | 0, _, _ => throw .exhausted
  | limit + 1, depth, call => do
    note (.called depth call)
    let answer ← (behaviour call).carryOut (behaviour.invoker limit (depth + 1))
    note (.answered depth (call.failure? answer))
    return answer

end Behaviour

end Launchpad
