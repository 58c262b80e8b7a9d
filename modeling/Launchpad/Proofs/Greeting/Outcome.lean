import Launchpad.Proofs.Greeting.Launch

/-!
# What becomes of a run of the greeting application

The runners are the first to look at the arguments. A run whose arguments cannot be read ends before
its container is made, a run whose name is blank ends at the greeting runner, and every other run
comes up with the greeting in the transcript.
-/

namespace Launchpad.Greeting

variable {invoke : Invoker} {before : World} {coordinator : CoordinatorRef} {given : List String}
  {arguments : Arguments}

/-! ## Up to the runners -/

/-- The container is registered with the shutdown coordinator, and its callback takes it off again.
-/
theorem yields_registerForShutdown (invoke : Invoker) (launch : Launch) (container : Container)
    (asked : launch.settings.registerShutdownHook = true)
    (accepts : (before.coordinator coordinator).accepting = true)
    (isOpen : container.isClosed = false) :
    ∃ coordinators links, Container.OnlyLinks links ∧
      StepM.Yields invoke
        ((application coordinator).registerForShutdown ⟨before.containers.length⟩) launch
        (before.holding container) (.ok ()) launch
        (World.holding { before with coordinators }
          { container with closeCallbacks := container.closeCallbacks ++ links }) := by
  have held : (before.holding container).container ⟨before.containers.length⟩ = container :=
    World.container_holding before container
  obtain ⟨coordinators, links, plain, registers⟩ := ShutdownCoordinator.yields_registerContainer
    invoke (before.holding container) coordinator ⟨before.containers.length⟩ accepts
    (by rw [held]; exact isOpen)
  have added : World.modifyContainer { before.holding container with coordinators }
      ⟨before.containers.length⟩
      (fun held => { held with closeCallbacks := held.closeCallbacks ++ links }) =
      World.holding { before with coordinators }
        { container with closeCallbacks := container.closeCallbacks ++ links } :=
    World.modifyContainer_holding { before with coordinators } container _
  refine ⟨coordinators, links, plain, ?_⟩
  rw [added] at registers
  refine .bind .get ?_
  rw [if_pos asked]
  exact .bind (.ask registers) (.pure _)

/-- A new container that nobody listens to is refreshed and becomes active. -/
theorem yields_refresh {launch : Launch} {container : Container}
    (healthy : container.refreshFailure = none) (new : container.phase = .created)
    (unmeasured : container.startup = .discarded) (unheard : container.listeners = []) :
    StepM.Yields invoke
      (StepM.checked .refresh (Plan.ask (.refresh ⟨before.containers.length⟩))) launch
      (before.holding container) (.ok ()) launch (before.holding container.markActive) := by
  have held : (before.holding container).container ⟨before.containers.length⟩ = container :=
    World.container_holding before container
  have refreshes : (Container.refresh invoke ⟨before.containers.length⟩).Yields
      (before.holding container) (.ok ()) (before.holding container.markActive) := by
    rw [← World.modifyContainer_holding before container Container.markActive]
    refine Container.yields_refresh (by rw [held]; exact healthy) (by rw [held]; exact new)
      (by rw [held]; exact unmeasured) ?_
    rw [World.modifyContainer_holding, World.container_holding]
    exact unheard
  exact .checked (.ask refreshes)

/-- The container while the application runs. -/
def serving (number : Nat) (environment : Environment) (arguments : Arguments)
    (links : List CloseCallback) : Container :=
  { loaded number environment arguments with phase := .active, closeCallbacks := links }

/-- Nobody listens to it, and nobody but coordinators is told of its end. -/
theorem serving_unattended (number : Nat) (environment : Environment) (arguments : Arguments)
    {links : List CloseCallback} (plain : Container.OnlyLinks links) :
    (serving number environment arguments links).Unattended :=
  { isOpen := rfl, untracked := rfl, unheard := rfl, links := plain }

/-- The run when its runners are called. -/
def launched (container : ContainerRef) : Launch :=
  { bus := busAfter (some .started), settings, created := some container }

/-- The steps between the load of the sources and what comes once the listeners know of the
start. -/
theorem yields_goLive (before : World) (coordinator : CoordinatorRef) (answered : Answered invoke)
    (number : Nat) (environment : Environment)
    (accepts : (before.coordinator coordinator).accepting = true) :
    ∃ coordinators links, Container.OnlyLinks links ∧
      ∀ {α : Type} {rest : LaunchM α} {answer : Except LaunchError α} {last : Launch}
        {after : World},
        StepM.Yields invoke rest (launched ⟨before.containers.length⟩)
          (World.holding { before with coordinators } (serving number environment arguments links))
          answer last after →
        StepM.Yields invoke (do
            (application coordinator).registerForShutdown ⟨before.containers.length⟩
            StepM.checked .refresh (Plan.ask (.refresh ⟨before.containers.length⟩))
            (application coordinator).afterRefresh ⟨before.containers.length⟩ arguments
            (application coordinator).logStarted
            LaunchM.dispatch (·.give (.started ⟨before.containers.length⟩))
            rest)
          { bus := busAfter (some .contextLoaded), settings,
            created := some ⟨before.containers.length⟩ }
          (before.holding (loaded number environment arguments)) answer last after := by
  obtain ⟨coordinators, links, plain, registers⟩ := yields_registerForShutdown invoke
    { bus := busAfter (some .contextLoaded), settings, created := some ⟨before.containers.length⟩ }
    (loaded number environment arguments) rfl accepts rfl
  refine ⟨coordinators, links, plain, fun {α rest answer last after} goesOn => ?_⟩
  have refreshes (launch : Launch) : StepM.Yields invoke
      (StepM.checked .refresh (Plan.ask (.refresh ⟨before.containers.length⟩))) launch
      (World.holding { before with coordinators }
        { loaded number environment arguments with closeCallbacks := links }) (.ok ()) launch
      (World.holding { before with coordinators } (serving number environment arguments links)) :=
    yields_refresh rfl rfl rfl rfl
  have logs (launch : Launch) (world : World) (started : launch.settings.logStartupInfo = true) :
      StepM.Yields invoke (application coordinator).logStarted launch world (.ok ()) launch
        world := by
    refine .bind .get ?_
    rw [if_pos started]
    exact .ask (.log _ _ _)
  have tells : StepM.Yields invoke
      (LaunchM.dispatch (·.give (.started ⟨before.containers.length⟩)))
      { bus := busAfter (some .contextLoaded), settings,
        created := some ⟨before.containers.length⟩ }
      (World.holding { before with coordinators } (serving number environment arguments links))
      (.ok ()) (launched ⟨before.containers.length⟩)
      (World.holding { before with coordinators }
        (serving number environment arguments links)) := by
    have nobody := congrArg Container.listeners
      (World.container_holding { before with coordinators }
        (serving number environment arguments links))
    exact yields_dispatch_give answered rfl nobody
  exact .bind registers (.bind (refreshes _) (.bind (.pure _) (.bind (logs _ _ rfl)
    (.bind tells goesOn))))

/-- The world in which one more container was numbered. -/
def numbered (world : World) : World := { world with nextContainer := world.nextContainer + 1 }

/-- What the run does from the first notice on ends as its runners end. -/
theorem yields_launch (before : World) (coordinator : CoordinatorRef) (answered : Answered invoke)
    (identity : Nat) (parsed : Arguments.parse given = .ok arguments) (leaves : LeavesOptions given)
    (spares : LeavesVariables before.vars)
    (accepts : (before.coordinator coordinator).accepting = true) :
    ∃ coordinators links, Container.OnlyLinks links ∧
      ∀ {answer : Except LaunchError Unit} {after : World},
        StepM.Yields invoke (Application.callRunners ⟨before.containers.length⟩ arguments)
          (launched ⟨before.containers.length⟩)
          ((World.keeping { numbered before with coordinators } (spent identity)).holding
            (serving before.nextContainer (attached coordinator before.vars arguments) arguments
              links))
          answer (launched ⟨before.containers.length⟩) after →
        StepM.Yields invoke ((application coordinator).launch ⟨before.stores.length⟩ given)
          { bus := busAfter none, settings := {} } (before.keeping (stamped identity))
          (answer.map fun _ => ⟨before.containers.length⟩)
          (launched ⟨before.containers.length⟩) after := by
  -- Nothing that follows looks into the environment.
  generalize reached : attached coordinator before.vars arguments = environment
  have reads (launch : Launch) :=
    yields_readArguments invoke (before.keeping (stamped identity)) launch given
  rw [parsed] at reads
  have prepares : StepM.Yields invoke
      ((application coordinator).prepareEnvironment ⟨before.stores.length⟩ arguments)
      { bus := busAfter (some .starting), settings := {} } (before.keeping (stamped identity))
      (.ok environment) { bus := busAfter (some .environmentPrepared), settings }
      (before.keeping (stamped identity)) := by
    rw [← reached]
    exact yields_prepareEnvironment answered _ parsed leaves spares
  have prints (bus : LifecycleBus) : StepM.Yields invoke
      ((application coordinator).printBanner environment) { bus, settings }
      (before.keeping (stamped identity)) (.ok (some printed)) { bus, settings }
      (before.keeping (stamped identity)) := by
    rw [← reached]
    exact yields_printBanner (before.keeping (stamped identity)) parsed leaves spares bus
  have creates (bus : LifecycleBus) : StepM.Yields invoke (application coordinator).createContainer
      { bus, settings } (before.keeping (stamped identity)) (.ok ⟨before.containers.length⟩)
      { bus, settings, created := some ⟨before.containers.length⟩ }
      (((numbered before).keeping (stamped identity)).holding (fresh before.nextContainer)) :=
    yields_createContainer (stamped identity) bus
  have measures (launch : Launch) : StepM.Yields invoke
      (StepM.ask (.equip ⟨before.containers.length⟩ (.startup .discarded))) launch
      (((numbered before).keeping (stamped identity)).holding (fresh before.nextContainer)) (.ok ())
      launch
      (((numbered before).keeping (stamped identity)).holding (fresh before.nextContainer)) :=
    yields_equip ((numbered before).keeping (stamped identity)) (fresh before.nextContainer)
      (.startup .discarded)
  have fills : StepM.Yields invoke ((application coordinator).prepareContainer
        ⟨before.stores.length⟩ ⟨before.containers.length⟩ environment arguments (some printed))
      { bus := busAfter (some .environmentPrepared), settings,
        created := some ⟨before.containers.length⟩ }
      (((numbered before).keeping (stamped identity)).holding (fresh before.nextContainer)) (.ok ())
      { bus := busAfter (some .contextLoaded), settings,
        created := some ⟨before.containers.length⟩ }
      (((numbered before).keeping (spent identity)).holding
        (loaded before.nextContainer environment arguments)) :=
    yields_prepareContainer (numbered before) answered before.nextContainer identity
  obtain ⟨coordinators, links, plain, goesLive⟩ := yields_goLive
    ((numbered before).keeping (spent identity)) coordinator answered before.nextContainer
    environment accepts
  refine ⟨coordinators, links, plain, fun {answer after} runs => ?_⟩
  have returns : StepM.Yields invoke (do
      Application.callRunners ⟨before.containers.length⟩ arguments
      return (⟨before.containers.length⟩ : ContainerRef))
      (launched ⟨before.containers.length⟩)
      ((World.keeping { numbered before with coordinators } (spent identity)).holding
        (serving before.nextContainer environment arguments links))
      (answer.map fun _ => ⟨before.containers.length⟩) (launched ⟨before.containers.length⟩)
      after := by
    cases answer with
    | ok _ => exact .bind runs (.pure _)
    | error _ => exact .bind_error runs
  exact .bind (yields_begin _ coordinator answered _) (.bind (reads _) (.bind prepares
    (.bind (prints _) (.bind (creates _) (.bind (measures _) (.bind fills (goesLive returns)))))))

/-! ## The runners -/

/-- The runners of the application, in the order in which they are called. -/
theorem ordered_runners (number : Nat) (environment : Environment) (arguments : Arguments)
    (links : List CloseCallback) :
    Runner.ordered (serving number environment arguments links).runners =
      [⟨.application, greetingRunner, some 1⟩, ⟨.commandLine, echoRunner, some 2⟩] := by
  have sorted : byPrecedence Runner.order
      [⟨.application, greetingRunner, some 1⟩, ⟨.commandLine, echoRunner, some 2⟩] =
      [⟨.application, greetingRunner, some 1⟩, ⟨.commandLine, echoRunner, some 2⟩] :=
    byPrecedence_of_pairwise (by decide)
  exact congrArg Runner.distinct sorted

section

variable {launch : Launch} {number : Nat} {environment : Environment} {links : List CloseCallback}
  {answer : Except LaunchError Unit} {after : World}

/-- The runners are called in order. -/
theorem yields_callRunners
    (runs : StepM.Yields invoke (StepM.each (fun runner : Runner =>
        StepM.checked (.runner runner.kind.name) (Plan.ask (.callRunner runner arguments)))
        [⟨.application, greetingRunner, some 1⟩, ⟨.commandLine, echoRunner, some 2⟩])
      launch (before.holding (serving number environment arguments links)) answer launch after) :
    StepM.Yields invoke (Application.callRunners ⟨before.containers.length⟩ arguments) launch
      (before.holding (serving number environment arguments links)) answer launch after := by
  have finds : ((Errand.runners ⟨before.containers.length⟩).carryOut invoke).Yields
      (before.holding (serving number environment arguments links))
      (serving number environment arguments links).runners
      (before.holding (serving number environment arguments links)) := by
    refine .bind (.container _) ?_
    rw [World.container_holding]
    exact .pure _
  rw [← ordered_runners number environment arguments links] at runs
  exact .bind (.ask finds) runs

/-- If there is a line to greet with, the greeter writes it, the echo runner echoes the arguments,
and the run goes on. -/
theorem yields_callRunners_ok (answered : Answered invoke) {text : String}
    (produced : line arguments = .ok text) :
    StepM.Yields invoke (Application.callRunners ⟨before.containers.length⟩ arguments) launch
      (before.holding (serving number environment arguments links)) (.ok ()) launch
      (echoing arguments.given
        (writing text (before.holding (serving number environment arguments links)))) :=
  yields_callRunners (.each_cons (.checked (.ask (answered.greets greetingRunner produced)))
    (.each_cons (.checked (.ask (answered.echoes echoRunner arguments.given))) .each_nil))

/-- The run fails at the runner that cannot greet, and no other runner is called. -/
theorem yields_callRunners_error (answered : Answered invoke) {failure : Failure}
    (refused : line arguments = .error failure) :
    StepM.Yields invoke (Application.callRunners ⟨before.containers.length⟩ arguments) launch
      (before.holding (serving number environment arguments links))
      (.error ((LaunchFault.runner RunnerKind.application.name).dueTo failure)) launch
      (before.holding (serving number environment arguments links)) := by
  have greets : StepM.Yields invoke (StepM.checked (.runner RunnerKind.application.name)
      (Plan.ask (.callRunner ⟨.application, greetingRunner, some 1⟩ arguments))) launch
      (before.holding (serving number environment arguments links))
      (.error ((LaunchFault.runner RunnerKind.application.name).dueTo failure)) launch
      (before.holding (serving number environment arguments links)) := by
    have calls : Plan.Yields invoke
        (Plan.ask (.callRunner ⟨.application, greetingRunner, some 1⟩ arguments))
        (before.holding (serving number environment arguments links)) (.error failure)
        (before.holding (serving number environment arguments links)) :=
      .ask (answered.greets_nobody greetingRunner refused)
    exact StepM.Yields.check calls
  exact yields_callRunners (.each_cons_error greets)

end

/-! ## Failures -/

/-- The reporter of the application. -/
def reporter : ExceptionReporter := { name := console.name, reporting := .custom console }

/-- The reporter is the only one that is available. -/
theorem yields_availableReporters (answered : Answered invoke) (container : Option ContainerRef) :
    Plan.Yields invoke ((application coordinator).availableReporters container) before [reporter]
      before := by
  have sorted : byPrecedence ExceptionReporter.order [reporter] = [reporter] :=
    byPrecedence_of_pairwise (List.pairwise_singleton ..)
  have builds : Plan.Yields invoke ((application coordinator).catalog.reportersFor container) before
      (.ok [reporter]) before := by
    rw [← sorted]
    exact Catalog.yields_gather (.cons (.ask (answered.answers rfl)) .nil)
  exact .bind builds (.pure _)

/-- By whom a failure is reported. -/
def reportedBy (failure : Failure) : ReportedBy :=
  if (find? failure).isSome then .reporter console.name else .log

/-- The failure is reported by the reporter if the greeting knows it, and logged otherwise. -/
theorem yields_reportFailure (answered : Answered invoke) (container : Option ContainerRef)
    (cause : LaunchError) :
    Plan.Yields invoke ((application coordinator).reportFailure container cause) before
      (reportedBy cause.toFailure) before := by
  have asks : Plan.Yields invoke (Plan.ask (.report reporter.reporting cause.toFailure)) before
      (find? cause.toFailure).isSome before := .ask (answered.reports console cause.toFailure)
  unfold reportedBy
  cases claimed : (find? cause.toFailure).isSome with
  | true =>
    rw [claimed] at asks
    exact .bind (yields_availableReporters answered container)
      (.bind (.bind asks (.pure _)) (.pure _))
  | false =>
    rw [claimed] at asks
    exact .bind (yields_availableReporters answered container) (.bind (.bind asks (.pure _))
      (.bind (.ask (.log _ _ _)) (.pure _)))

/-- Telling the listeners of a failure disturbs nothing if nobody listens to the container. -/
theorem yields_notifyListeners (answered : Answered invoke) (container : Option ContainerRef)
    {phase : Option LifecyclePhase} (cause : LaunchError)
    (follows : LifecyclePhase.failed.canFollow phase = true)
    (unheard : ∀ ref ∈ container, (before.container ref).listeners = []) :
    Plan.Yields invoke (Application.notifyListeners container (some (busAfter phase)) cause)
      before () before := by
  have publishes : Plan.Yields invoke
      (Plan.ask (.tellFailed (.eventPublishing []) container (some cause.toFailure))) before
      (.ok ()) before := by
    refine .ask ?_
    cases container with
    | none => exact .bind (.pure _) (.pure _)
    | some ref =>
      refine .bind (.container ref) ?_
      split
      · exact Container.yields_publish (unheard ref rfl) _
      · exact .bind (.pure _) (.pure _)
  have audits : Plan.Yields invoke
      (Plan.ask (.tellFailed (.custom audit (some 10)) container (some cause.toFailure))) before
      (.ok ()) before := .ask (answered.logs rfl)
  have notifies (listener : RunListener)
      (tells : Plan.Yields invoke (Plan.ask (.tellFailed listener container (some cause.toFailure)))
        before (.ok ()) before) :
      Plan.Yields invoke (do
        return (← LifecycleBus.notifyFailed container (some cause.toFailure) listener, ())) before
        (.ok (), ()) before := .bind (.bind tells (.pure _)) (.pure _)
  have visits : Plan.Yields invoke (LifecycleBus.visit (fun _ listener => do
      return (← LifecycleBus.notifyFailed container (some cause.toFailure) listener, ())) ()
      (busAfter phase).listeners) before (.ok (), ()) before :=
    .bind (notifies _ publishes) (.bind (notifies _ audits) (.pure _))
  have tells : Plan.Yields invoke
      ((busAfter phase).tellFailed container (some cause.toFailure)) before
      { result := .ok (), bus := busAfter (some .failed), state := () } before :=
    LifecycleBus.yields_dispatch (busAfter phase) .failed follows rfl visits
  exact .bind tells (.pure _)

/-- A failure before there is a container. -/
theorem yields_handleFailure_none (before : World) (coordinator : CoordinatorRef)
    (answered : Answered invoke) (phase : Option LifecyclePhase) (cause : LaunchError)
    (follows : LifecyclePhase.failed.canFollow phase = true) :
    Plan.Yields invoke
      ((application coordinator).handleFailure none (some (busAfter phase)) cause) before
      { exitCode := cause.toFailure.exitCode?.getD 0
        reportedBy := reportedBy cause.toFailure
        cause } before := by
  have resolves : (Container.resolveExitCode invoke none cause.toFailure).Yields before
      (cause.toFailure.exitCode?.getD 0) before :=
    .bind (.pure _) (.bind (.bind (.pure _) (.pure _)) (.pure _))
  exact .bind (.ask resolves) (.bind (.pure _) (.bind
    (yields_notifyListeners answered none cause follows fun _ among => absurd among (by simp))
    (.bind (yields_reportFailure answered none cause) (.bind (.pure _) (.pure _)))))

/-- A failure that the greeting knows resolves to its exit code while the container serves. -/
theorem yields_resolveExitCode_serving (before : World) (answered : Answered invoke) (number : Nat)
    (environment : Environment) (arguments : Arguments) (links : List CloseCallback)
    {failure : Failure} (claimed : (find? failure).isSome = true) :
    (Container.resolveExitCode invoke (some ⟨before.containers.length⟩) failure).Yields
      (before.holding (serving number environment arguments links)) exitCode
      (before.holding (serving number environment arguments links)) := by
  generalize world : before.holding (serving number environment arguments links) = started
  have holds : started.container ⟨before.containers.length⟩ =
      serving number environment arguments links := by
    rw [← world]
    exact World.container_holding before _
  -- The container is active, so its one mapper is asked.
  have maps : (invoke (.mapFailure exitCodes failure)).Yields started exitCode started := by
    have answer : exitCodeOf failure = exitCode := if_pos claimed
    rw [← answer]
    exact answered.answers rfl
  have combines :
      (Container.mappedCode invoke [exitCodes] failure).Yields started exitCode started :=
    .bind (.bind maps (.pure _)) (.pure _)
  refine .bind (.container _) ?_
  rw [holds]
  exact .bind (.pure _) (.bind combines (.pure _))

/-- A world in which nobody who takes part in the run remembered or printed anything. -/
structure Untouched (before after : World) : Prop where
  memory : after.memory = before.memory
  console : after.console = before.console

/-- A greeting fault once the application runs: the mapper knows its exit code, nobody hears of it,
and the container is closed. -/
theorem yields_handleFailure_serving (before : World) (coordinator : CoordinatorRef)
    (answered : Answered invoke) (number : Nat) (environment : Environment) (arguments : Arguments)
    {links : List CloseCallback} (phase : Option LifecyclePhase) (cause : LaunchError)
    (plain : Container.OnlyLinks links)
    (follows : LifecyclePhase.failed.canFollow phase = true)
    (claimed : (find? cause.toFailure).isSome = true) :
    ∃ after, Untouched before after ∧
      Plan.Yields invoke ((application coordinator).handleFailure (some ⟨before.containers.length⟩)
          (some (busAfter phase)) cause)
        (before.holding (serving number environment arguments links))
        { exitCode, reportedBy := .reporter console.name, cause } after := by
  have resolves :=
    yields_resolveExitCode_serving before answered number environment arguments links claimed
  generalize world : before.holding (serving number environment arguments links) = started at *
  have holds : started.container ⟨before.containers.length⟩ =
      serving number environment arguments links := by
    rw [← world]
    exact World.container_holding before _
  have unattended : (started.container ⟨before.containers.length⟩).Unattended := by
    rw [holds]
    exact serving_unattended number environment arguments plain
  have made : before.containers.length < started.containers.length := by
    rw [← world]
    simp [World.holding]
  obtain ⟨after, memory, shown, closes⟩ := Container.yields_close invoke started
    ⟨before.containers.length⟩ made unattended
  refine ⟨after, ⟨memory.trans (by rw [← world]; rfl), shown.trans (by rw [← world]; rfl)⟩, ?_⟩
  have announces : Plan.Yields invoke
      (Application.announceExitCode (some ⟨before.containers.length⟩) exitCode) started ()
      started :=
    .bind (.ask (Container.yields_publish unattended.unheard _)) (.pure _)
  have notifies : Plan.Yields invoke (Application.notifyListeners (some ⟨before.containers.length⟩)
      (some (busAfter phase)) cause) started () started :=
    yields_notifyListeners answered _ cause follows fun ref among => by
      rw [← Option.some.inj among]
      exact unattended.unheard
  have reports : Plan.Yields invoke ((application coordinator).reportFailure
      (some ⟨before.containers.length⟩) cause) started (.reporter console.name) started := by
    have reporter : reportedBy cause.toFailure = .reporter console.name := if_pos claimed
    rw [← reporter]
    exact yields_reportFailure answered _ cause
  have ends : Plan.Yields invoke
      (Application.closeContainer (some ⟨before.containers.length⟩)) started () after :=
    .bind (.ask closes) (.pure _)
  exact .bind (.ask resolves) (.bind announces (.bind notifies (.bind reports
    (.bind ends (.pure _)))))

/-! ## The run as a whole -/

/-- Greeting and echoing make no container and change none. -/
theorem containers_echoing (given : List String) (text : String) (world : World) :
    (echoing given (writing text world)).containers = world.containers := by
  unfold echoing
  cases echo given <;> rfl

/-- Greeting and echoing print nothing: they write to the transcript. -/
theorem console_echoing (given : List String) (text : String) (world : World) :
    (echoing given (writing text world)).console = world.console := by
  unfold echoing
  cases echo given <;> rfl

/-- A command line that cannot be read ends the run before there is a container. -/
theorem yields_run_unreadable (before : World) (coordinator : CoordinatorRef)
    (answered : Answered invoke)
    {text : String} (unreadable : Arguments.parse given = .error text) :
    ∃ after, Untouched before after ∧ ((application coordinator).run invoke given).Yields before
      { result := .error {
          stage := .startup
          failure := {
            exitCode := 0
            reportedBy := .log
            cause := (LaunchFault.arguments text).alone } }
        settings := {} } after := by
  generalize readied : (counted before).keeping (stamped before.nextInstance) = ready
  have fails (launch : Launch) := yields_readArguments invoke ready launch given
  rw [unreadable] at fails
  have launches : StepM.Yields invoke
      ((application coordinator).launch ⟨before.stores.length⟩ given)
      { bus := busAfter none, settings := {} } ready (.error (LaunchFault.arguments text).alone)
      { bus := busAfter (some .starting), settings := {} } ready :=
    .bind (yields_begin ready coordinator answered _) (.bind_error (fails _))
  have prepares : Plan.Yields invoke (((application coordinator).makeReady given).run.run ()) before
      (.ok (⟨before.stores.length⟩, busAfter none), ()) ready := by
    rw [← readied]
    exact yields_makeReady answered given
  refine ⟨ready, ⟨by rw [← readied]; rfl, by rw [← readied]; rfl⟩, ?_⟩
  have settles := yields_handleFailure_none ready coordinator answered (some .starting)
    (LaunchFault.arguments text).alone rfl
  exact Plan.Yields.bind prepares (Plan.Yields.bind launches (Plan.Yields.bind settles (.pure _)))

/-- A greeting that cannot be produced fails the run after the container was refreshed. -/
theorem yields_run_nameless (before : World) (coordinator : CoordinatorRef)
    (answered : Answered invoke)
    (parsed : Arguments.parse given = .ok arguments) (leaves : LeavesOptions given)
    (spares : LeavesVariables before.vars)
    (accepts : (before.coordinator coordinator).accepting = true)
    (refused : line arguments = .error ⟨emptyName, []⟩) :
    ∃ after, Untouched before after ∧ ((application coordinator).run invoke given).Yields before
      { result := .error {
          stage := .startup
          failure := {
            exitCode
            reportedBy := .reporter console.name
            cause := (LaunchFault.runner RunnerKind.application.name).dueTo ⟨emptyName, []⟩ } }
        settings } after := by
  obtain ⟨coordinators, links, plain, launches⟩ :=
    yields_launch (counted before) coordinator answered before.nextInstance parsed leaves spares
      accepts
  generalize attached coordinator (counted before).vars arguments = environment at launches
  obtain ⟨after, untouched, settles⟩ := yields_handleFailure_serving
    (World.keeping { numbered (counted before) with coordinators } (spent before.nextInstance))
    coordinator answered before.nextContainer environment arguments (some .started)
    ((LaunchFault.runner RunnerKind.application.name).dueTo ⟨emptyName, []⟩) plain rfl rfl
  refine ⟨after, ⟨untouched.memory, untouched.console⟩, ?_⟩
  exact Plan.Yields.bind (yields_makeReady answered given) (Plan.Yields.bind
    (launches (yields_callRunners_error answered refused)) (Plan.Yields.bind settles (.pure _)))

/-- The world after a run that came up: its container serves, and the transcript has the lines of
the runners. -/
structure Up (before after : World) (given : List String) (text : String) : Prop where
  made : before.containers.length < after.containers.length
  unattended : (after.container ⟨before.containers.length⟩).Unattended
  generators : (after.container ⟨before.containers.length⟩).generators = []
  lines : linesOf after = linesOf before ++ text :: (echo given).toList
  console : after.console = before.console

/-- A greeting that can be produced lets the run come up. -/
theorem yields_run_ok (before : World) (coordinator : CoordinatorRef) (answered : Answered invoke)
    {text : String} (parsed : Arguments.parse given = .ok arguments) (leaves : LeavesOptions given)
    (spares : LeavesVariables before.vars)
    (accepts : (before.coordinator coordinator).accepting = true)
    (produced : line arguments = .ok text) :
    ∃ after, Up before after given text ∧ ((application coordinator).run invoke given).Yields before
      { result := .ok ⟨before.containers.length⟩, settings } after := by
  obtain ⟨coordinators, links, plain, launches⟩ :=
    yields_launch (counted before) coordinator answered before.nextInstance parsed leaves spares
      accepts
  generalize attached coordinator (counted before).vars arguments = environment at launches
  have runs := launches (yields_callRunners_ok answered produced)
  -- The container is the newest one, whatever the runners have written since.
  generalize base : World.keeping { numbered (counted before) with coordinators }
    (spent before.nextInstance) = started at runs
  generalize whole : serving (counted before).nextContainer environment arguments links = container
    at runs
  generalize left : echoing arguments.given (writing text (started.holding container)) = after
    at runs
  have containers : after.containers = before.containers ++ [container] := by
    rw [← left, containers_echoing, ← base]
    rfl
  have holds : after.container ⟨before.containers.length⟩ = container := by
    simp [World.container, containers]
  have announces : Plan.Yields invoke ((busAfter (some .started)).give
      (.running ⟨before.containers.length⟩)) after
      { result := .ok (), bus := busAfter (some .running), state := () } after := by
    refine yields_give answered rfl ?_
    rw [Unheard, holds, ← whole]
    rfl
  refine ⟨after, { made := ?_, unattended := ?_, generators := ?_, lines := ?_, console := ?_ }, ?_⟩
  · simp [containers]
  · rw [holds, ← whole]
    exact serving_unattended _ _ _ plain
  · rw [holds, ← whole]
    rfl
  · rw [← left, linesOf_echoing, linesOf_writing, Arguments.given_of_parse parsed,
      List.append_assoc, ← base]
    rfl
  · rw [← left, console_echoing, ← base]
    rfl
  · exact Plan.Yields.bind (yields_makeReady answered given) (Plan.Yields.bind runs
      (Plan.Yields.bind announces (.pure _)))

end Launchpad.Greeting
