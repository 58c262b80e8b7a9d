import Launchpad.Proofs.Bootstrap.Account
import Launchpad.Proofs.Container.Activity

/-!
# The moments of a container

What happens to one container while a program runs: the commands that are asked for, by the program
and by everybody who is called in the course of it, the calls that are made, and the sections of the
container's close. Every moment carries the world that it finds. The moments are computed along the
program, the way in which the commands are carried out; a command that would lead to other calls
than those of listeners, close callbacks and startups has no moments of its own.
-/

namespace Launchpad

/-- What happens at a moment. -/
inductive Happening where
  /-- A command is asked for; the exchange says what comes of it. -/
  | asked (exchange : Exchange)
  /-- A participant is called. -/
  | called (call : Call)
  /-- The container, which is open until then, is shut. -/
  | shut
  /-- The close publishes an event. -/
  | announced (event : ApplicationEvent)
  /-- A close callback of the container runs. -/
  | ran (callback : CloseCallback)

/-- Something that happens, and the world that it finds. -/
structure Moment where
  world : World
  happening : Happening

namespace Moment

/-- The call that a moment makes. -/
def call? (moment : Moment) : Option Call :=
  match moment.happening with
  | .called call => some call
  | .ran (.custom participant) => some (.containerClosed participant)
  | _ => none

/-- The callback that a moment gives to a container. -/
def gives? (ref : ContainerRef) (moment : Moment) : Option CloseCallback :=
  match moment.happening with
  | .asked ⟨.onClose held participant, _, _, _⟩ =>
    if held = ref then some (.custom participant) else none
  | _ => none

/-- The callback that a moment runs. -/
def runs? (moment : Moment) : Option CloseCallback :=
  match moment.happening with
  | .ran callback => some callback
  | _ => none

/-- Whether a moment shuts the container. -/
def isShut (moment : Moment) : Bool :=
  match moment.happening with
  | .shut => true
  | _ => false

/-- Whether a moment shuts the container while it is active. -/
def isEnd (ref : ContainerRef) (moment : Moment) : Bool :=
  moment.isShut && (moment.world.container ref).isActive

/-- Whether a moment is a publication of the close. -/
def isAnnounced (moment : Moment) : Bool :=
  match moment.happening with
  | .announced _ => true
  | _ => false

end Moment

variable {α : Type}

section

variable (invoke : Invoker) (observer : Recorder Moment) (ref : ContainerRef)

/-- The moments of a call. -/
def Call.moments (call : Call) (world : World) : List Moment :=
  ⟨world, .called call⟩ :: observer call world

/-- The moments of a notice to a startup. -/
def Startup.moments (startup : Startup) (notice : StartupNotice) (world : World) : List Moment :=
  match startup with
  | .watched participant => Call.moments observer (.startupNotice participant notice) world
  | _ => []

namespace Container

/-- Logs that a container was refreshed. -/
def logRefresh (held : ContainerRef) : Act Unit := do
  let active ← Act.container held
  Act.log .info "Context refreshed" [
    ("context", active.id), ("kind", active.kind.name), ("beans", toString active.beans.length),
    ("lazy", toString active.lazyInitialization)]

/-- The moments of a delivery to listeners, up to the first that fails. -/
def deliverMoments (event : ApplicationEvent) : List ApplicationListener → World → List Moment
  | [], _ => []
  | listener :: rest, world =>
    Call.moments observer (.onEvent listener.participant event) world ++
      Act.onward (invoke (.onEvent listener.participant event)) world fun told later =>
        match told with
        | .error _ => []
        | .ok () => deliverMoments event rest later

/-- The moments of a publication. -/
def publishMoments (held : ContainerRef) (event : ApplicationEvent) (world : World) :
    List Moment := deliverMoments invoke observer event (world.container held).listeners world

/-- The moments of a refresh that begins: those of its startup, and those of its publication. -/
def refreshMoments (held : ContainerRef) (world : World) : List Moment :=
  let container := world.container held
  let startup := container.startup
  startup.moments observer (.begun { name := refreshStep }) world ++
    (startup.begin invoke refreshStep).onward world fun begun first =>
      startup.moments observer (.tagged (begun.tag "context" container.id)) first ++
        (startup.tag invoke begun "context" container.id).onward first fun step announced =>
          let marked := announced.modifyContainer held markActive
          (logRefresh held).onward marked fun _ logged =>
            startup.moments observer (.ended step) logged ++
              (startup.finish invoke step).onward logged fun _ recorded =>
                publishMoments invoke observer held (.contextRefreshed container.id) recorded

/-- The moments of a close callback. -/
def callbackMoments (held : ContainerRef) (callback : CloseCallback) (world : World) :
    List Moment :=
  match callback with
  | .custom participant =>
    ⟨world, if held = ref then .ran callback else .called (.containerClosed participant)⟩ ::
      observer (.containerClosed participant) world
  | .deregister _ => if held = ref then [⟨world, .ran callback⟩] else []

/-- The moments of close callbacks. -/
def callbacksMoments (held : ContainerRef) : List CloseCallback → World → List Moment
  | [], _ => []
  | callback :: rest, world =>
    callbackMoments observer ref held callback world ++
      (runCallback invoke held callback).onward world fun _ later =>
        callbacksMoments held rest later

/-- The moments of the announcement of a close. -/
def announceMoments (held : ContainerRef) (container : Container) (world : World) : List Moment :=
  if container.isActive then
    (if held = ref then [⟨world, .announced (.contextClosed container.id)⟩] else []) ++
      publishMoments invoke observer held (.contextClosed container.id) world
  else []

/-- The moments of a close. -/
def closeMoments (held : ContainerRef) (world : World) : List Moment :=
  let container := world.container held
  if container.isClosed then []
  else
    let left := world.modifyContainer held fun _ => container.shut
    (if held = ref then [⟨world, .shut⟩] else []) ++
      (announceMoments invoke observer ref held container left ++
        (announceClose invoke held container).onward left fun _ announced =>
          callbacksMoments invoke observer ref held container.closeCallbacks announced)

end Container

/-- What happens in the course of a command. -/
def Command.course (command : Command) (world : World) : List Moment :=
  match command with
  | publish held event => Container.publishMoments invoke observer held event world
  | refresh held =>
    match (world.container held).refusal? with
    | some _ => []
    | none => Container.refreshMoments invoke observer held world
  | close held =>
    Container.closeMoments invoke observer ref held
      (world.modifyContainer held Container.countClose)
  | onClose held participant =>
    if (world.container held).isClosed then
      Container.callbackMoments observer ref held (.custom participant) world
    else []
  | _ => []

/-- The moments of a command. -/
def Command.moments (command : Command) (world : World) : List Moment :=
  ((command.carryOut invoke).onward world fun answer left =>
    [⟨world, .asked ⟨command, world, answer, left⟩⟩]) ++ command.course invoke observer ref world

/-- The moments of a program. -/
def Program.moments : (program : Program α) → (world : World) → List Moment
  | done _, _ => []
  | panic _, _ => []
  | perform command next, world =>
    command.moments invoke observer ref world ++
      (command.carryOut invoke).onward world fun answer later => (next answer).moments later

end

/-- The moments of calls to participants under a behaviour. -/
def Behaviour.observer (behaviour : Behaviour) (ref : ContainerRef) :
    (limit depth : Nat) → Recorder Moment :=
  behaviour.recorder fun invoke observer program => program.moments invoke observer ref

end Launchpad
