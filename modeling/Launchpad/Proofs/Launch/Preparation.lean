import Launchpad.Proofs.Launch.Record

/-!
# What a run does about its environment

A run reads its arguments and the process variables, shows the environment that it made of them to
its listeners, checks what they left, binds its settings, makes its container and gives it the
environment. `EnvironmentCourse` says how far a run came with this and what it handed on at each
step. Everything else that a run does is not about the environment.
-/

namespace Launchpad

namespace Errand

/-- Whether an errand is about the environment of a run: reading what it is made of, showing it,
checking it, binding from it, making the container for it and attaching it. -/
def isOfEnvironment : Errand → Bool
  | readArguments _ | readVariables | enterPhase _ .environmentPrepared | showEnvironment ..
  | check (.environmentPrefix _) | bindSettings .. | createContainer ..
  | equip _ (.environment _) => true
  | _ => false

/-- Whether an errand has nothing to do with the environment of a run. -/
def isElsewhere (errand : Errand) : Bool := !errand.isOfEnvironment

/-- Whether an errand is neither about the environment of a run nor about the report of its
failure. -/
def isOrdinary (errand : Errand) : Bool := errand.isElsewhere && errand.isApart

/-- An ordinary errand is not about the environment. -/
theorem isElsewhere_of_isOrdinary (errand : Errand) (ordinary : errand.isOrdinary = true) :
    errand.isElsewhere = true :=
  (Bool.and_eq_true _ _ ▸ ordinary).1

/-- An ordinary errand is not about the report of a failure. -/
theorem isApart_of_isOrdinary (errand : Errand) (ordinary : errand.isOrdinary = true) :
    errand.isApart = true :=
  (Bool.and_eq_true _ _ ▸ ordinary).2

end Errand

/-- The replies about the environment. -/
def environmentReplies (replies : List Reply) : List Reply :=
  replies.filter (·.errand.isOfEnvironment)

@[simp] theorem environmentReplies_nil : environmentReplies [] = [] := rfl

/-- What a sequence of replies says about the environment is what its parts say. -/
@[simp] theorem environmentReplies_append (first second : List Reply) :
    environmentReplies (first ++ second) =
      environmentReplies first ++ environmentReplies second :=
  List.filter_append ..

/-- The replies about the environment are those to errands about it. -/
theorem mem_environmentReplies {replies : List Reply} {reply : Reply} :
    reply ∈ environmentReplies replies ↔
      reply ∈ replies ∧ reply.errand.isOfEnvironment = true :=
  List.mem_filter

/-- A reply about the environment says what it says. -/
theorem environmentReplies_singleton {reply : Reply} (about : reply.errand.isOfEnvironment = true) :
    environmentReplies [reply] = [reply] :=
  List.filter_cons_of_pos about

/-- A plan whose errands are elsewhere has no replies about the environment. -/
theorem environmentReplies_of_within {α : Type} {plan : Plan α}
    (within : plan.Within Errand.isElsewhere) {replies : List Reply} {result : Option α}
    (path : plan.Path replies result) : environmentReplies replies = [] := by
  refine List.filter_eq_nil_iff.2 fun reply among => ?_
  simpa [Errand.isElsewhere] using within replies result path reply among

namespace StepM

variable {σ α β ε : Type} {start last : σ} {replies : List Reply}

/-- Of two steps in a row that came to their end, the first failed or both were taken. -/
theorem path_bind_some {step : StepM σ α} {next : α → StepM σ β} {ended : Except LaunchError β}
    (path : ((step >>= next).run.run start).Path replies (some (ended, last))) :
    (∃ error, ended = .error error ∧
      (step.run.run start).Path replies (some (.error error, last))) ∨
    ∃ answer between before after,
      (step.run.run start).Path before (some (.ok answer, between)) ∧
      ((next answer).run.run between).Path after (some (ended, last)) ∧
      replies = before ++ after := by
  rw [run_bind] at path
  obtain ⟨⟨error | answer, between⟩, before, after, early, late, rfl⟩ :=
    Plan.path_bind_some_iff.1 path
  · obtain ⟨rfl, same⟩ := Plan.path_pure_iff.1 late
    cases same
    exact .inl ⟨error, rfl, by simpa using early⟩
  · exact .inr ⟨answer, between, before, after, early, late, rfl⟩

/-- A step that looks at the state goes on with it. -/
theorem run_get_bind (next : σ → StepM σ β) (start : σ) :
    ((get : StepM σ σ) >>= next).run.run start = (next start).run.run start := rfl

/-- A step that is one errand came to its end: the errand was answered. -/
theorem path_ask_some {errand : Errand} {ended : Except LaunchError errand.Answer}
    (path : ((ask errand : StepM σ errand.Answer).run.run start).Path replies
      (some (ended, last))) :
    ∃ answer, replies = [⟨errand, .ok answer⟩] ∧ ended = .ok answer ∧ last = start := by
  rw [ask, run_act] at path
  obtain ⟨answer, before, after, early, late, rfl⟩ := Plan.path_bind_some_iff.1 path
  obtain rfl := Plan.path_ask_some_iff.1 early
  obtain ⟨rfl, same⟩ := Plan.path_pure_iff.1 late
  cases same
  exact ⟨answer, rfl, rfl, rfl⟩

/-- A step that checks a plan came to its end: so did the plan. -/
theorem path_check_some {plan : Plan (Except ε α)} {toError : ε → LaunchError}
    {ended : Except LaunchError α}
    (path : ((check toError plan : StepM σ α).run.run start).Path replies (some (ended, last))) :
    ∃ answer, plan.Path replies (some answer) ∧ ended = answer.mapError toError ∧
      last = start := by
  rw [run_check] at path
  obtain ⟨answer, before, after, early, late, rfl⟩ := Plan.path_bind_some_iff.1 path
  obtain ⟨rfl, same⟩ := Plan.path_pure_iff.1 late
  cases same
  exact ⟨answer, by simpa using early, rfl, rfl⟩

end StepM

/-- Ordinary errands say nothing about the environment. -/
theorem StepM.environmentReplies_of_within {σ α : Type} {step : StepM σ α}
    (within : StepM.Within Errand.isOrdinary step) {start : σ} {replies : List Reply}
    {result : Option (Except LaunchError α × σ)}
    (path : (step.run.run start).Path replies result) : environmentReplies replies = [] :=
  Launchpad.environmentReplies_of_within
    ((within start).mono Errand.isElsewhere_of_isOrdinary) path

/-- An ordinary step leaves what is said about the environment to the next one. -/
theorem StepM.path_bind_ordinary {σ α β : Type} {step : StepM σ α} {next : α → StepM σ β}
    {start last : σ} {replies : List Reply} {ended : Except LaunchError β}
    (within : StepM.Within Errand.isOrdinary step)
    (path : ((step >>= next).run.run start).Path replies (some (ended, last))) :
    (∃ error, ended = .error error ∧ environmentReplies replies = [] ∧
      (step.run.run start).Path replies (some (.error error, last))) ∨
    ∃ answer between before after,
      (step.run.run start).Path before (some (.ok answer, between)) ∧
      ((next answer).run.run between).Path after (some (ended, last)) ∧
      environmentReplies replies = environmentReplies after := by
  obtain ⟨error, rfl, stopped⟩ | ⟨answer, between, before, after, early, late, rfl⟩ :=
    StepM.path_bind_some path
  · exact .inl ⟨error, rfl, environmentReplies_of_within within stopped, stopped⟩
  · refine .inr ⟨answer, between, before, after, early, late, ?_⟩
    rw [environmentReplies_append, environmentReplies_of_within within early,
      List.nil_append]

/-- A dispatch came to its end: the bus was left as it was dispatched. -/
theorem LaunchM.path_dispatch_some {σ : Type}
    {plan : LifecycleBus → Plan (LifecycleBus.Dispatched σ)} {start last : Launch}
    {replies : List Reply} {ended : Except LaunchError σ}
    (path : ((dispatch plan).run.run start).Path replies (some (ended, last))) :
    ∃ dispatched, (plan start.bus).Path replies (some dispatched) ∧
      ended = (dispatched.result.map fun _ => dispatched.state) ∧
      last = { start with bus := dispatched.bus } := by
  rw [run_dispatch] at path
  obtain ⟨dispatched, before, after, early, late, rfl⟩ := Plan.path_bind_some_iff.1 path
  obtain ⟨rfl, same⟩ := Plan.path_pure_iff.1 late
  cases same
  exact ⟨dispatched, by simpa using early, rfl, rfl⟩

/-- What one listener was shown, what it answered, and what it left. -/
structure Showing where
  shown : Environment
  result : Except Failure Unit
  left : Environment

/-- The showing that a reply stands for. -/
def Reply.showing? : Reply → Option Showing
  | ⟨.showEnvironment _ _ shown, .ok (result, left)⟩ => some { shown, result, left }
  | _ => none

/-- The showings among replies. -/
def showingsOf (replies : List Reply) : List Showing := replies.filterMap Reply.showing?

@[simp] theorem showingsOf_nil : showingsOf [] = [] := rfl

/-- What is shown in a sequence of replies is what is shown in its parts. -/
@[simp] theorem showingsOf_append (first second : List Reply) :
    showingsOf (first ++ second) = showingsOf first ++ showingsOf second :=
  List.filterMap_append

/-- What is shown first stands first. -/
@[simp] theorem showingsOf_cons (reply : Reply) (rest : List Reply) :
    showingsOf (reply :: rest) = reply.showing?.toList ++ showingsOf rest := by
  cases found : reply.showing? <;> simp [showingsOf, found]

/-- Showings are read off the replies about the environment. -/
theorem showingsOf_environmentReplies (replies : List Reply) :
    showingsOf (environmentReplies replies) = showingsOf replies := by
  rw [showingsOf, environmentReplies, List.filterMap_filter]
  refine List.filterMap_congr fun reply _ => ?_
  split
  · rfl
  · rename_i elsewhere
    unfold Reply.showing?
    split
    · exact absurd rfl elsewhere
    · rfl

/-- Showing the environment is about the environment. -/
theorem Reply.isOfEnvironment_of_showing {reply : Reply} (told : reply.showing?.isSome = true) :
    reply.errand.isOfEnvironment = true := by
  unfold showing? at told
  split at told
  · rfl
  · cases told

/-- An environment goes from one listener to the next: the first is shown the environment, each
other one what the one before it left, and what the last one left is what remains. -/
inductive HandedOn : Environment → List Showing → Environment → Prop where
  | done {environment : Environment} : HandedOn environment [] environment
  | shown {environment left : Environment} {result : Except Failure Unit}
      {rest : List Showing} {last : Environment} (onward : HandedOn left rest last) :
      HandedOn environment ({ shown := environment, result, left } :: rest) last

/-- What remains is what the last listener left. -/
theorem HandedOn.left_eq {environment left : Environment} {showings : List Showing}
    (handed : HandedOn environment showings left) :
    left = (showings.getLast?.map (·.left)).getD environment := by
  induction handed with
  | done => rfl
  | @shown environment left result rest last onward ih =>
    rw [ih, List.getLast?_cons]
    cases rest.getLast? <;> rfl

/-- Listeners are shown an environment one after the other, up to the first that fails. -/
theorem LifecycleBus.path_visit_showing {store : StoreRef} {environment left : Environment}
    {listeners : List RunListener} {replies : List Reply} {result : Except Failure Unit}
    (path : (visit (fun environment listener =>
      Plan.ask (.showEnvironment listener store environment)) environment listeners).Path replies
      (some (result, left))) :
    (∀ reply ∈ replies, reply.showing?.isSome = true) ∧
      HandedOn environment (showingsOf replies) left ∧
      ((∀ showing ∈ showingsOf replies, showing.result = .ok ()) ↔ result = .ok ()) := by
  induction listeners generalizing environment replies with
  | nil =>
    obtain ⟨rfl, same⟩ := Plan.path_pure_iff.1 path
    cases same
    exact ⟨by simp, .done, by simp⟩
  | cons listener rest ih =>
    obtain ⟨⟨answer, between⟩, before, after, early, late, rfl⟩ := Plan.path_bind_some_iff.1 path
    obtain rfl := Plan.path_ask_some_iff.1 early
    cases answer with
    | error failure =>
      obtain ⟨rfl, same⟩ := Plan.path_pure_iff.1 late
      cases same
      exact ⟨by simp [Reply.showing?], .shown .done, by simp [Reply.showing?]⟩
    | ok =>
      obtain ⟨told, handed, agreed⟩ := ih late
      refine ⟨?_, .shown handed, by simpa [Reply.showing?] using agreed⟩
      simpa [Reply.showing?] using told

/-- A bus that shows an environment enters the phase and shows it to its listeners, unless it
refuses the phase. -/
theorem LifecycleBus.path_showEnvironment {bus : LifecycleBus} {store : StoreRef}
    {environment : Environment} {replies : List Reply} {dispatched : Dispatched Environment}
    (path : (bus.showEnvironment store environment).Path replies (some dispatched)) :
    (environmentReplies replies = [] ∧ ∃ error, dispatched.result = .error error) ∨
    ∃ step shows, environmentReplies replies =
        ⟨.enterPhase bus.startup .environmentPrepared, .ok step⟩ :: shows ∧
      (∀ reply ∈ shows, reply.showing?.isSome = true) ∧
      HandedOn environment (showingsOf shows) dispatched.state ∧
      ((∀ showing ∈ showingsOf shows, showing.result = .ok ()) ↔ dispatched.result = .ok ()) := by
  rw [showEnvironment, dispatch] at path
  split at path
  · obtain ⟨step, _, _, entering, going, rfl⟩ := Plan.path_bind_some_iff.1 path
    obtain rfl := Plan.path_ask_some_iff.1 entering
    obtain ⟨_, _, _, tagging, visiting, rfl⟩ := Plan.path_bind_some_iff.1 going
    obtain ⟨rfl, same⟩ := Plan.path_pure_iff.1 tagging
    cases same
    obtain ⟨⟨result, left⟩, shows, _, visited, leaving, rfl⟩ := Plan.path_bind_some_iff.1 visiting
    obtain ⟨_, _, _, asked, done, rfl⟩ := Plan.path_bind_some_iff.1 leaving
    obtain rfl := Plan.path_ask_some_iff.1 asked
    obtain ⟨rfl, same⟩ := Plan.path_pure_iff.1 done
    cases same
    obtain ⟨told, handed, agreed⟩ := path_visit_showing visited
    have about : environmentReplies shows = shows :=
      List.filter_eq_self.2 fun reply among => Reply.isOfEnvironment_of_showing (told reply among)
    refine .inr ⟨step, shows, ?_, told, handed, agreed.trans ?_⟩
    · rw [environmentReplies_append, environmentReplies_append, environmentReplies_append, about]
      simp [environmentReplies, Errand.isOfEnvironment]
    · cases result <;> simp [Except.mapError]
  · obtain ⟨rfl, same⟩ := Plan.path_pure_iff.1 path
    cases same
    exact .inl ⟨rfl, _, rfl⟩

/-- Notices are ordinary: only showing the environment is about it. -/
theorem LifecycleBus.give_ordinary (bus : LifecycleBus) (notice : Notice) :
    (bus.give notice).Within Errand.isOrdinary :=
  dispatch_within (by cases notice <;> rfl) (fun _ _ _ => rfl) (fun _ => rfl) fun _ _ =>
    .bind (.ofAsk rfl) fun _ => .ofPure _

namespace Application

/-- The environment that is left once the defaults are moved behind the other sources. -/
def defaultsLast (environment : Environment) : Environment :=
  { environment with sources := environment.sources.moveLast PropertySource.defaults }

/-- What a run does about its environment once its settings are bound. -/
inductive AttachmentCourse (application : Application) (settings : Settings)
    (environment : Environment) : List Reply → Option LaunchError → Prop where
  /-- No container was asked for. -/
  | unasked {cause : LaunchError} :
      AttachmentCourse application settings environment [] (some cause)
  | refused {failure : Failure} {cause : LaunchError} :
      AttachmentCourse application settings environment
        [⟨.createContainer application.factory (application.kindUnder settings),
          .ok (.error failure)⟩] (some cause)
  | attached {container : ContainerRef} {cause : Option LaunchError} :
      AttachmentCourse application settings environment
        [⟨.createContainer application.factory (application.kindUnder settings),
            .ok (.ok container)⟩,
          ⟨.equip container (.environment environment), .ok ()⟩] cause

/-- What a run does about its environment once the listeners have left it. -/
inductive BindingCourse (application : Application) (environment : Environment) :
    List Reply → Option LaunchError → Settings → Prop where
  | forbidden {cause : LaunchError} :
      BindingCourse application environment
        [⟨.check (.environmentPrefix environment), .ok (.error cause)⟩] (some cause)
        application.settings
  | unbound {failure : Failure} {settings : Settings} {cause : LaunchError} :
      BindingCourse application environment
        [⟨.check (.environmentPrefix environment), .ok (.ok ())⟩,
          ⟨.bindSettings application.binder environment application.settings,
            .ok (.error failure, settings)⟩] (some cause) settings
  | bound {settings last : Settings} {rest : List Reply} {cause : Option LaunchError}
      (onward : AttachmentCourse application settings
        (application.convertEnvironment settings environment) rest cause) :
      BindingCourse application environment
        (⟨.check (.environmentPrefix environment), .ok (.ok ())⟩ ::
          ⟨.bindSettings application.binder environment application.settings,
            .ok (.ok (), settings)⟩ :: rest) cause last

/-- What a run that came to its end has done about its environment: the replies, the cause of its
failure if it failed before its last runner, and the settings that it left. -/
inductive EnvironmentCourse (application : Application) (given : List String) :
    List Reply → Option LaunchError → Settings → Prop where
  | unread {cause : LaunchError} :
      EnvironmentCourse application given [] (some cause) application.settings
  | misread {argument : String} {cause : LaunchError} :
      EnvironmentCourse application given [⟨.readArguments given, .ok (.error argument)⟩]
        (some cause) application.settings
  /-- The phase was not entered. -/
  | unshown {arguments : Arguments} {vars : List (String × String)} {cause : LaunchError} :
      EnvironmentCourse application given
        [⟨.readArguments given, .ok (.ok arguments)⟩, ⟨.readVariables, .ok vars⟩] (some cause)
        application.settings
  /-- A listener failed. -/
  | refused {arguments : Arguments} {vars : List (String × String)} {startup : Startup}
      {step : StartupStep} {shows : List Reply} {left : Environment} {cause : LaunchError}
      (told : ∀ reply ∈ shows, reply.showing?.isSome = true)
      (handed : HandedOn (application.configureEnvironment application.settings arguments
        (application.initialEnvironment application.settings vars)) (showingsOf shows) left)
      (refusing : ¬∀ showing ∈ showingsOf shows, showing.result = .ok ()) :
      EnvironmentCourse application given
        (⟨.readArguments given, .ok (.ok arguments)⟩ :: ⟨.readVariables, .ok vars⟩ ::
          ⟨.enterPhase startup .environmentPrepared, .ok step⟩ :: shows) (some cause)
        application.settings
  /-- Every listener agreed. -/
  | shown {arguments : Arguments} {vars : List (String × String)} {startup : Startup}
      {step : StartupStep} {shows rest : List Reply} {left : Environment}
      {cause : Option LaunchError} {settings : Settings}
      (told : ∀ reply ∈ shows, reply.showing?.isSome = true)
      (handed : HandedOn (application.configureEnvironment application.settings arguments
        (application.initialEnvironment application.settings vars)) (showingsOf shows) left)
      (onward : BindingCourse application (defaultsLast left) rest cause settings) :
      EnvironmentCourse application given
        (⟨.readArguments given, .ok (.ok arguments)⟩ :: ⟨.readVariables, .ok vars⟩ ::
          ⟨.enterPhase startup .environmentPrepared, .ok step⟩ :: (shows ++ rest)) cause settings

open StepM.Within

variable (application : Application)

/-- Giving a notice is ordinary. -/
theorem give_ordinary (notice : Notice) :
    StepM.Within Errand.isOrdinary (LaunchM.dispatch (·.give notice)) :=
  LaunchM.dispatch_within fun bus => bus.give_ordinary notice

/-- Looking at the state of a run makes no errand. -/
theorem getLaunch_ordinary : StepM.Within Errand.isOrdinary (get : LaunchM Launch) :=
  ofDone fun start => ⟨(.ok start, start), rfl⟩

/-- Printing the banner only reads the environment. -/
theorem printBanner_ordinary (environment : Environment) :
    StepM.Within Errand.isOrdinary (application.printBanner environment) :=
  .bind getLaunch_ordinary fun _ => ofCheck (.ofAsk rfl)

/-- Post-processing a container is ordinary. -/
theorem postProcess_ordinary (container : ContainerRef) :
    StepM.Within Errand.isOrdinary (application.postProcess container) := by
  unfold postProcess
  cases application.hooks with
  | none => exact ofPure ()
  | some hooks => exact ofCheck (.ofAsk rfl)

/-- Initializers are applied to the container. -/
theorem applyInitializers_ordinary (container : ContainerRef) :
    StepM.Within Errand.isOrdinary (application.applyInitializers container) := by
  refine .bind (ofCheck (.gather fun _ _ => .ofAsk rfl)) fun declared => each ?_ _
  intro initializer
  exact .bind (ofAsk rfl) fun _ => .bind (ofCheck (.ofAsk rfl)) fun _ => ofCheck (.ofAsk rfl)

/-- Closing the bootstrap store is ordinary. -/
theorem closeStore_ordinary (store : StoreRef) (container : ContainerRef) :
    (BootstrapStore.close store container).Within Errand.isOrdinary :=
  BootstrapStore.close_within rfl (fun _ => rfl) fun _ _ => rfl

/-- The line that announces the start is ordinary. -/
theorem logStarting_ordinary (environment : Environment) :
    StepM.Within Errand.isOrdinary (application.logStarting environment) := by
  refine .bind getLaunch_ordinary fun launch => ?_
  split
  · exact .bind (ofAsk rfl) fun _ => ofAsk rfl
  · exact ofPure ()

/-- The singletons of a run are registered with the container. -/
theorem registerSingletons_ordinary (container : ContainerRef) (arguments : Arguments)
    (banner : Option PrintedBanner) :
    StepM.Within Errand.isOrdinary (registerSingletons container arguments banner) := by
  refine .bind (ofCheck (.ofAsk rfl)) fun _ => ?_
  cases banner with
  | none => exact ofPure ()
  | some banner => exact ofCheck (.ofAsk rfl)

/-- Configuring the container is ordinary. -/
theorem configureContainer_ordinary (container : ContainerRef) :
    StepM.Within Errand.isOrdinary (configureContainer container) := by
  refine .bind getLaunch_ordinary fun launch => .bind (ofAsk rfl) fun _ => ?_
  split
  · exact ofAsk rfl
  · exact ofPure ()

/-- Loading the sources is ordinary. -/
theorem loadSources_ordinary (container : ContainerRef) :
    StepM.Within Errand.isOrdinary (application.loadSources container) :=
  .bind getLaunch_ordinary fun _ => .bind (ofCheck (.ofAsk rfl)) fun _ => .bind (ofAsk rfl)
    fun _ => .bind (ofCheck (.ofAsk rfl)) fun _ => ofCheck (.ofAsk rfl)

/-- Registering for a shutdown is ordinary. -/
theorem registerForShutdown_ordinary (container : ContainerRef) :
    StepM.Within Errand.isOrdinary (application.registerForShutdown container) := by
  refine .bind getLaunch_ordinary fun launch => ?_
  split
  · refine .bind (ofAsk rfl) fun registered => ?_
    split
    · exact ofPure ()
    · exact ofDone fun start => ⟨(.error LaunchFault.shutdown.alone, start), rfl⟩
  · exact ofPure ()

/-- What comes after the refresh is ordinary. -/
theorem afterRefresh_ordinary (container : ContainerRef) (arguments : Arguments) :
    StepM.Within Errand.isOrdinary (application.afterRefresh container arguments) := by
  unfold afterRefresh
  cases application.hooks with
  | none => exact ofPure ()
  | some hooks => exact ofCheck (.ofAsk rfl)

/-- The line that announces that the start is over is ordinary. -/
theorem logStarted_ordinary : StepM.Within Errand.isOrdinary application.logStarted := by
  refine .bind getLaunch_ordinary fun launch => ?_
  split
  · exact ofAsk rfl
  · exact ofPure ()

/-- Calling the runners is ordinary. -/
theorem callRunners_ordinary (container : ContainerRef) (arguments : Arguments) :
    StepM.Within Errand.isOrdinary (callRunners container arguments) :=
  .bind (ofAsk rfl) fun _ => each (fun _ => ofCheck (.ofAsk rfl)) _

/-- Before there is a bus, everything is ordinary. -/
theorem makeReady_ordinary (given : List String) :
    StepM.Within Errand.isOrdinary (application.makeReady given) :=
  (application.makeReady_within given).mono fun errand readying => by
    cases errand <;> first | rfl | cases readying

/-- What a container is given after its environment. -/
theorem fillContainer_ordinary (store : StoreRef) (container : ContainerRef)
    (environment : Environment) (arguments : Arguments) (banner : Option PrintedBanner) :
    StepM.Within Errand.isOrdinary (do
      application.postProcess container
      application.applyInitializers container
      LaunchM.dispatch (·.give (.contextPrepared container))
      StepM.check BootstrapError.toLaunchError (BootstrapStore.close store container)
      application.logStarting environment
      registerSingletons container arguments banner
      configureContainer container
      application.loadSources container
      LaunchM.dispatch (·.give (.contextLoaded container)) : LaunchM Unit) := by
  refine .bind (application.postProcess_ordinary _) fun _ => ?_
  refine .bind (application.applyInitializers_ordinary _) fun _ => ?_
  refine .bind (give_ordinary _) fun _ => ?_
  refine .bind (ofCheck (closeStore_ordinary _ _)) fun _ => ?_
  refine .bind (application.logStarting_ordinary _) fun _ => ?_
  refine .bind (registerSingletons_ordinary _ _ _) fun _ => ?_
  refine .bind (configureContainer_ordinary _) fun _ => ?_
  exact .bind (application.loadSources_ordinary _) fun _ => give_ordinary _

/-- What is done with a prepared container. -/
theorem startContainer_ordinary (container : ContainerRef) (arguments : Arguments) :
    StepM.Within Errand.isOrdinary (do
      application.registerForShutdown container
      StepM.checked .refresh (Plan.ask (.refresh container))
      application.afterRefresh container arguments
      application.logStarted
      LaunchM.dispatch (·.give (.started container))
      callRunners container arguments
      return container : LaunchM ContainerRef) := by
  refine .bind (application.registerForShutdown_ordinary _) fun _ => ?_
  refine .bind (ofCheck (.ofAsk rfl)) fun _ => ?_
  refine .bind (application.afterRefresh_ordinary _ _) fun _ => ?_
  refine .bind application.logStarted_ordinary fun _ => ?_
  refine .bind (give_ordinary _) fun _ => ?_
  exact .bind (callRunners_ordinary _ _) fun _ => ofPure _

/-- Announcing an exit code is ordinary. -/
theorem announceExitCode_ordinary (container : Option ContainerRef) (exitCode : ExitCode) :
    (announceExitCode container exitCode).Within Errand.isOrdinary := by
  unfold announceExitCode
  split
  · exact .ofPure _
  · split
    · refine .bind (.ofAsk rfl) ?_
      rintro (_ | _)
      · exact .ofAsk rfl
      · exact .ofPure _
    · exact .ofPure _

/-- Telling run listeners of a failure is ordinary. -/
theorem notifyListeners_ordinary (container : Option ContainerRef) (bus : Option LifecycleBus)
    (cause : LaunchError) :
    (notifyListeners container bus cause).Within Errand.isOrdinary := by
  unfold notifyListeners
  split
  · exact .ofPure _
  · refine .bind (LifecycleBus.dispatch_within rfl (fun _ _ _ => rfl) (fun _ => rfl) fun _ _ =>
      .bind (.bind (.ofAsk rfl) fun answer => ?_) fun _ => .ofPure _) fun dispatched => ?_
    · cases answer with
      | ok => exact .ofPure _
      | error own => exact .bind (.ofAsk rfl) fun _ => .ofPure _
    · split
      · exact .ofAsk rfl
      · exact .ofPure _

/-- Reporting a failure is not about the environment. -/
theorem reportFailure_elsewhere (container : Option ContainerRef) (cause : LaunchError) :
    (application.reportFailure container cause).Within Errand.isElsewhere := by
  refine .bind (.bind (.gather fun _ _ => .ofAsk rfl) fun answer => ?_) fun reporters =>
    .bind ?_ fun claimed => ?_
  · cases answer with
    | ok => exact .ofPure _
    | error error => exact .bind (.ofAsk rfl) fun _ => .ofPure _
  · induction reporters with
    | nil => exact .ofPure _
    | cons reporter rest ih =>
      refine .bind (.ofAsk rfl) fun claims => ?_
      split
      · exact .ofPure _
      · exact ih
  · cases claimed with
    | some name => exact .ofPure _
    | none => exact .bind (.ofAsk rfl) fun _ => .ofPure _

/-- Closing the container is ordinary. -/
theorem closeContainer_ordinary (container : Option ContainerRef) :
    (closeContainer container).Within Errand.isOrdinary := by
  unfold closeContainer
  split
  · exact .ofPure _
  · refine .bind (.ofAsk rfl) fun answer => ?_
    cases answer with
    | ok => exact .ofPure _
    | error failure => exact .ofAsk rfl

/-- What follows the failure of a run is not about its environment. -/
theorem handleFailure_elsewhere (container : Option ContainerRef) (bus : Option LifecycleBus)
    (cause : LaunchError) :
    (application.handleFailure container bus cause).Within Errand.isElsewhere := by
  refine .bind (.ofAsk rfl) fun exitCode => .bind ?_ fun _ => .bind ?_ fun _ =>
    .bind (application.reportFailure_elsewhere _ _) fun _ => .bind ?_ fun _ => .ofPure _
  · exact (announceExitCode_ordinary _ _).mono Errand.isElsewhere_of_isOrdinary
  · exact (notifyListeners_ordinary _ _ _).mono Errand.isElsewhere_of_isOrdinary
  · exact (closeContainer_ordinary _).mono Errand.isElsewhere_of_isOrdinary

/-- Announcing that the application runs is not about the environment. -/
theorem announceRunning_elsewhere (container : ContainerRef) (launch : Launch) :
    (application.announceRunning container launch).Within Errand.isElsewhere := by
  have gives := (launch.bus.give_ordinary (.running container)).mono
    Errand.isElsewhere_of_isOrdinary
  refine .bind gives fun dispatched => ?_
  split
  · exact .ofPure _
  · exact .bind (application.handleFailure_elsewhere _ _ _) fun _ => .ofPure _

section Courses

variable {application : Application} {start last : Launch} {replies : List Reply}
  {store : StoreRef} {environment : Environment} {arguments : Arguments}

/-- The first thing that a prepared container is given is the environment. -/
theorem path_prepareContainer {container : ContainerRef} {banner : Option PrintedBanner}
    {ended : Except LaunchError Unit}
    (path : ((application.prepareContainer store container environment arguments banner).run.run
      start).Path replies (some (ended, last))) :
    environmentReplies replies = [⟨.equip container (.environment environment), .ok ()⟩] := by
  obtain ⟨error, -, equipping⟩ | ⟨_, between, before, after, equipping, rest, rfl⟩ :=
    StepM.path_bind_some path
  · obtain ⟨_, -, refused, -⟩ := StepM.path_ask_some equipping
    cases refused
  · obtain ⟨_, rfl, -, -⟩ := StepM.path_ask_some equipping
    have elsewhere := StepM.environmentReplies_of_within
      (application.fillContainer_ordinary store container environment arguments banner) rest
    rw [environmentReplies_append, elsewhere]
    rfl

/-- From the banner to the last runner a run makes its container and attaches the environment. -/
theorem attachmentCourse_of_path {ended : Except LaunchError ContainerRef}
    (path : ((do
      let banner ← application.printBanner environment
      let container ← application.createContainer
      StepM.ask (.equip container (.startup application.startup))
      application.prepareContainer store container environment arguments banner
      application.registerForShutdown container
      StepM.checked .refresh (Plan.ask (.refresh container))
      application.afterRefresh container arguments
      application.logStarted
      LaunchM.dispatch (·.give (.started container))
      callRunners container arguments
      return container : LaunchM ContainerRef).run.run start).Path replies (some (ended, last))) :
    AttachmentCourse application start.settings environment (environmentReplies replies)
      (StepM.error? (ended, last)) := by
  obtain ⟨error, rfl, silent, -⟩ | ⟨banner, between, _, printed, printing, making, about⟩ :=
    StepM.path_bind_ordinary (application.printBanner_ordinary _) path
  · rw [silent]
    exact .unasked
  obtain ⟨_, -, -, rfl⟩ := StepM.path_check_some printing
  rw [about]
  -- Only two errands of this part concern the environment: the making of the container, and its
  -- equipment with the environment.
  obtain ⟨error, rfl, refusing⟩ | ⟨container, made, before, after, created, equipping, rfl⟩ :=
    StepM.path_bind_some making
  · rw [run_createContainer] at refusing
    obtain ⟨answer, _, _, asked, done, rfl⟩ := Plan.path_bind_some_iff.1 refusing
    obtain rfl := Plan.path_ask_some_iff.1 asked
    obtain ⟨rfl, same⟩ := Plan.path_pure_iff.1 done
    cases answer <;> cases same
    exact .refused
  rw [run_createContainer] at created
  obtain ⟨answer, _, _, asked, done, rfl⟩ := Plan.path_bind_some_iff.1 created
  obtain rfl := Plan.path_ask_some_iff.1 asked
  obtain ⟨rfl, same⟩ := Plan.path_pure_iff.1 done
  cases answer with
  | error failure => cases same
  | ok answer =>
    obtain rfl : container = answer := by
      cases same
      rfl
    obtain ⟨error, rfl, silent, refused⟩ | ⟨_, equipped, _, rest, -, preparing, onward⟩ :=
      StepM.path_bind_ordinary (ofAsk rfl) equipping
    · obtain ⟨_, -, never, -⟩ := StepM.path_ask_some refused
      cases never
    have attached : environmentReplies rest =
        [⟨.equip container (.environment environment), .ok ()⟩] := by
      obtain ⟨error, -, failing⟩ | ⟨_, prepared, first, finish, passing, finishing, rfl⟩ :=
        StepM.path_bind_some preparing
      · exact path_prepareContainer failing
      · have elsewhere := StepM.environmentReplies_of_within
          (application.startContainer_ordinary container arguments) finishing
        rw [environmentReplies_append, elsewhere, path_prepareContainer passing]
        rfl
    rw [environmentReplies_append, onward, attached]
    exact .attached

/-- Once every listener agreed, a run checks the environment, binds its settings from it and goes on
to its container. -/
theorem bindingCourse_of_path {ended : Except LaunchError ContainerRef}
    (fresh : start.settings = application.settings)
    (path : ((do
      StepM.verify (.environmentPrefix environment)
      application.bindSettings environment
      let launch ← get
      let banner ← application.printBanner
        (application.convertEnvironment launch.settings environment)
      let container ← application.createContainer
      StepM.ask (.equip container (.startup application.startup))
      application.prepareContainer store container
        (application.convertEnvironment launch.settings environment) arguments banner
      application.registerForShutdown container
      StepM.checked .refresh (Plan.ask (.refresh container))
      application.afterRefresh container arguments
      application.logStarted
      LaunchM.dispatch (·.give (.started container))
      callRunners container arguments
      return container : LaunchM ContainerRef).run.run start).Path replies (some (ended, last))) :
    BindingCourse application environment (environmentReplies replies)
      (StepM.error? (ended, last)) last.settings := by
  obtain ⟨error, rfl, checking⟩ | ⟨_, checked, _, rest, checking, binding, rfl⟩ :=
    StepM.path_bind_some path
  · obtain ⟨answer, asked, same, rfl⟩ := StepM.path_check_some checking
    obtain rfl := Plan.path_ask_some_iff.1 asked
    cases answer <;> cases same
    -- The settings that a run which was refused goes on with are those that it began with.
    rw [fresh]
    exact .forbidden
  obtain ⟨answer, asked, same, rfl⟩ := StepM.path_check_some checking
  obtain rfl := Plan.path_ask_some_iff.1 asked
  cases answer <;> cases same
  obtain ⟨error, rfl, failing⟩ | ⟨_, bound, _, rest, passing, onward, rfl⟩ :=
    StepM.path_bind_some binding
  · rw [run_bindSettings] at failing
    obtain ⟨⟨result, settings⟩, _, _, asked, done, rfl⟩ := Plan.path_bind_some_iff.1 failing
    obtain rfl := Plan.path_ask_some_iff.1 asked
    obtain ⟨rfl, same⟩ := Plan.path_pure_iff.1 done
    cases result <;> cases same
    rw [fresh]
    exact .unbound
  · rw [run_bindSettings] at passing
    obtain ⟨⟨result, settings⟩, _, _, asked, done, rfl⟩ := Plan.path_bind_some_iff.1 passing
    obtain rfl := Plan.path_ask_some_iff.1 asked
    obtain ⟨rfl, same⟩ := Plan.path_pure_iff.1 done
    cases result <;> cases same
    rw [fresh]
    exact .bound (attachmentCourse_of_path onward)

/-- Once the arguments are read, a run reads the process variables and shows its listeners the
environment that it made. -/
theorem environmentCourse_of_preparation {given : List String}
    {ended : Except LaunchError ContainerRef} (fresh : start.settings = application.settings)
    (path : ((do
      let environment ← application.prepareEnvironment store arguments
      let banner ← application.printBanner environment
      let container ← application.createContainer
      StepM.ask (.equip container (.startup application.startup))
      application.prepareContainer store container environment arguments banner
      application.registerForShutdown container
      StepM.checked .refresh (Plan.ask (.refresh container))
      application.afterRefresh container arguments
      application.logStarted
      LaunchM.dispatch (·.give (.started container))
      callRunners container arguments
      return container : LaunchM ContainerRef).run.run start).Path replies (some (ended, last))) :
    EnvironmentCourse application given
      (⟨.readArguments given, .ok (.ok arguments)⟩ :: environmentReplies replies)
      (StepM.error? (ended, last)) last.settings := by
  -- The steps of the preparation are put in a row with those that follow it.
  rw [prepareEnvironment] at path
  simp only [bind_assoc, pure_bind] at path
  rw [StepM.run_get_bind] at path
  obtain ⟨error, rfl, stuck⟩ | ⟨vars, asked, _, _, asking, showing, rfl⟩ :=
    StepM.path_bind_some path
  · obtain ⟨_, -, never, -⟩ := StepM.path_ask_some stuck
    cases never
  obtain ⟨_, rfl, same, rfl⟩ := StepM.path_ask_some asking
  cases same
  obtain ⟨error, rfl, refusing⟩ | ⟨left, _, _, _, agreeing, onward, rfl⟩ :=
    StepM.path_bind_some showing
  · obtain ⟨dispatched, shows, same, rfl⟩ := LaunchM.path_dispatch_some refusing
    obtain ⟨silent, -⟩ | ⟨step, shows, about, told, handed, agreed⟩ :=
      LifecycleBus.path_showEnvironment shows
    · rw [environmentReplies_append, silent, fresh]
      exact .unshown
    · rw [environmentReplies_append, about]
      dsimp only
      rw [fresh] at handed ⊢
      refine .refused told handed fun all => ?_
      rw [agreed.1 all] at same
      cases same
  obtain ⟨dispatched, shows, same, rfl⟩ := LaunchM.path_dispatch_some agreeing
  obtain ⟨-, error, failed⟩ | ⟨step, shows, about, told, handed, -⟩ :=
    LifecycleBus.path_showEnvironment shows
  · rw [failed] at same
    cases same
  obtain rfl : left = dispatched.state := by
    cases result : dispatched.result <;> rw [result] at same <;> cases same
    rfl
  rw [environmentReplies_append, environmentReplies_append, about]
  rw [fresh] at handed
  have stillFresh : ({ asked with bus := dispatched.bus } : Launch).settings =
      application.settings := fresh
  exact .shown told handed (bindingCourse_of_path stillFresh onward)

/-- What a run that has its bus does about its environment. -/
theorem environmentCourse_of_launch {given : List String}
    {ended : Except LaunchError ContainerRef} (fresh : start.settings = application.settings)
    (path : ((application.launch store given).run.run start).Path replies
      (some (ended, last))) :
    EnvironmentCourse application given (environmentReplies replies)
      (StepM.error? (ended, last)) last.settings := by
  obtain ⟨error, rfl, silent, refusing⟩ | ⟨_, begun, _, rest, starting, reading, about⟩ :=
    StepM.path_bind_ordinary (give_ordinary _) path
  · obtain ⟨dispatched, -, -, rfl⟩ := LaunchM.path_dispatch_some refusing
    rw [silent, fresh]
    exact .unread
  obtain ⟨dispatched, -, -, rfl⟩ := LaunchM.path_dispatch_some starting
  rw [about]
  obtain ⟨error, rfl, misreading⟩ | ⟨arguments, read, _, _, readOk, preparing, rfl⟩ :=
    StepM.path_bind_some reading
  · obtain ⟨answer, asked, same, rfl⟩ := StepM.path_check_some misreading
    obtain rfl := Plan.path_ask_some_iff.1 asked
    cases answer <;> cases same
    rw [fresh]
    exact .misread
  obtain ⟨answer, asked, same, rfl⟩ := StepM.path_check_some readOk
  obtain rfl := Plan.path_ask_some_iff.1 asked
  cases answer <;> cases same
  rw [environmentReplies_append, environmentReplies_singleton rfl, List.singleton_append]
  have stillFresh : ({ start with bus := dispatched.bus } : Launch).settings =
      application.settings := fresh
  exact environmentCourse_of_preparation stillFresh preparing

/-- Announcing that the application runs leaves the settings of the run. -/
theorem settings_of_announceRunning {container : ContainerRef} {launch : Launch}
    {outcome : Outcome}
    (path : (application.announceRunning container launch).Path replies (some outcome)) :
    outcome.settings = launch.settings := by
  obtain ⟨_, _, _, -, -, ⟨-, -, rfl⟩ | ⟨_, -, rfl, -⟩⟩ := application.path_announceRunning path <;>
    rfl

/-- What a run does about its environment, and that its failure is the one of this course. -/
theorem environmentCourse_of_path {given : List String} {outcome : Outcome}
    (path : (application.plan given).Path replies (some outcome)) :
    ∃ cause, EnvironmentCourse application given (environmentReplies replies) cause
        outcome.settings ∧
      ∀ error, cause = some error → ∃ failure : RunFailure, failure.cause = error ∧
        outcome.result = .error { stage := .startup, failure } := by
  obtain ⟨⟨error | ⟨store, bus⟩, _⟩, before, after, ready, onward, rfl⟩ :=
    Plan.path_bind_some_iff.1 path
  · obtain ⟨failure, rfl, rfl, handled⟩ := application.path_failStartup onward
    refine ⟨some failure.cause, ?_, ?_⟩
    · rw [environmentReplies_append,
        StepM.environmentReplies_of_within (application.makeReady_ordinary given) ready,
        environmentReplies_of_within (application.handleFailure_elsewhere _ _ _) handled]
      exact .unread
    · rintro _ ⟨⟩
      exact ⟨failure, rfl, rfl⟩
  have readied :=
    StepM.environmentReplies_of_within (application.makeReady_ordinary given) ready
  obtain ⟨⟨error | container, reached⟩, _, _, launched, finishing, rfl⟩ :=
    Plan.path_bind_some_iff.1 onward
  · obtain ⟨failure, rfl, rfl, handled⟩ := application.path_failStartup finishing
    refine ⟨some failure.cause, ?_, ?_⟩
    · have course := environmentCourse_of_launch rfl launched
      rw [environmentReplies_append, environmentReplies_append, readied,
        environmentReplies_of_within (application.handleFailure_elsewhere _ _ _) handled,
        List.nil_append, List.append_nil]
      exact course
    · rintro _ ⟨⟩
      exact ⟨failure, rfl, rfl⟩
  · refine ⟨none, ?_, nofun⟩
    have course := environmentCourse_of_launch rfl launched
    have announced : environmentReplies _ = [] :=
      environmentReplies_of_within (application.announceRunning_elsewhere _ _) finishing
    have same : outcome.settings = reached.settings := settings_of_announceRunning finishing
    rw [environmentReplies_append, environmentReplies_append, readied, announced, same,
      List.nil_append, List.append_nil]
    exact course

end Courses

end Application

end Launchpad
