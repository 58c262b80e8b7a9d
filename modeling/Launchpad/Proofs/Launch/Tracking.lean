import Launchpad.Proofs.Launch.Confinement

/-!
# What the state of a run records

However a step of a run ends, the phase of the bus and the container in the state that it leaves can
be read off its visits: the last phase that was entered, and the last container that was created.
None of the steps has a milestone, since those belong to what follows a failure.
-/

namespace Launchpad

/-- The phase that the bus entered last. -/
def lastPhase (visits : List Visit) : Option LifecyclePhase :=
  (visits.filterMap Visit.phase?).getLast?

/-- The container that was created last. -/
def createdIn (visits : List Visit) : Option ContainerRef :=
  (visits.filterMap Visit.container?).getLast?

/-- The last phase that was entered later counts. -/
theorem lastPhase_append (first second : List Visit) :
    lastPhase (first ++ second) = (lastPhase second).or (lastPhase first) := by
  simp [lastPhase, List.filterMap_append, List.getLast?_append]

/-- The container that was created later counts. -/
theorem createdIn_append (first second : List Visit) :
    createdIn (first ++ second) = (createdIn second).or (createdIn first) := by
  simp [createdIn, List.filterMap_append, List.getLast?_append]

/-- What visits change in the state of a run. -/
structure Tracked (visits : List Visit) (before after : Launch) : Prop where
  listeners : after.bus.listeners = before.bus.listeners
  phase : after.bus.phase = (lastPhase visits).or before.bus.phase
  created : after.created = (createdIn visits).or before.created

namespace Tracked

/-- What one step is tracked through, and then the next, both together are tracked through. -/
theorem trans {first second : List Visit} {before between after : Launch}
    (start : Tracked first before between) (rest : Tracked second between after) :
    Tracked (first ++ second) before after where
  listeners := rest.listeners.trans start.listeners
  phase := by rw [rest.phase, start.phase, lastPhase_append, Option.or_assoc]
  created := by rw [rest.created, start.created, createdIn_append, Option.or_assoc]

end Tracked

namespace Errand

/-- Whether an errand is no milestone, does not move the bus and does not create the container. -/
def isPlain (errand : Errand) : Bool :=
  errand.milestone?.isNone && errand.station?.all Station.isPlain

end Errand

/-- A plain station enters no phase. -/
theorem Station.phase?_of_isPlain {station : Station} (plain : station.isPlain = true) :
    station.phase? = none := by
  cases station <;> first | rfl | cases plain

/-- At a plain station no container is created. -/
theorem Stop.container?_of_isPlain {stop : Stop} (plain : stop.station.isPlain = true) :
    stop.container? = none := by
  obtain ⟨station, finding⟩ := stop
  cases station <;> first | rfl | cases plain

/-- A reply to a plain errand enters no phase and creates no container. -/
theorem Reply.visit?_of_isPlain {reply : Reply} {visit : Visit}
    (plain : reply.errand.isPlain = true) (visited : reply.visit? = some visit) :
    visit.phase? = none ∧ visit.container? = none := by
  have plainStation : visit.station.isPlain = true := by
    simp only [Errand.isPlain, station_of_visit? visited, Bool.and_eq_true] at plain
    exact plain.2
  refine ⟨Station.phase?_of_isPlain plainStation, ?_⟩
  cases visit with
  | passed stop => exact Stop.container?_of_isPlain plainStation
  | failed | broken => rfl

/-- Plain errands are no milestones. -/
theorem milestonesOf_of_isPlain {replies : List Reply}
    (plain : ∀ reply ∈ replies, reply.errand.isPlain = true) : milestonesOf replies = [] := by
  refine List.filterMap_eq_nil_iff.2 fun reply among => ?_
  have plainErrand := plain reply among
  simp only [Errand.isPlain, Bool.and_eq_true, Option.isNone_iff_eq_none] at plainErrand
  exact plainErrand.1

/-- Plain errands enter no phase and create no container. -/
theorem visitsOf_of_isPlain {replies : List Reply}
    (plain : ∀ reply ∈ replies, reply.errand.isPlain = true) :
    lastPhase (visitsOf replies) = none ∧ createdIn (visitsOf replies) = none := by
  have stays : ∀ visit ∈ visitsOf replies, visit.phase? = none ∧ visit.container? = none := by
    intro visit among
    obtain ⟨reply, replied, visited⟩ := List.mem_filterMap.1 among
    exact Reply.visit?_of_isPlain (plain reply replied) visited
  constructor
  · rw [lastPhase, List.filterMap_eq_nil_iff.2 fun visit among => (stays visit among).1]
    rfl
  · rw [createdIn, List.filterMap_eq_nil_iff.2 fun visit among => (stays visit among).2]
    rfl

/-- Plain errands change nothing in the state of a run. -/
theorem Tracked.ofPlain {replies : List Reply} {before after : Launch}
    (plain : ∀ reply ∈ replies, reply.errand.isPlain = true) (bus : after.bus = before.bus)
    (created : after.created = before.created) : Tracked (visitsOf replies) before after := by
  obtain ⟨noPhase, noContainer⟩ := visitsOf_of_isPlain plain
  exact ⟨by rw [bus], by rw [noPhase, bus, Option.none_or],
    by rw [noContainer, created, Option.none_or]⟩

namespace LifecycleBus

variable {σ : Type} {call : σ → RunListener → Plan (Except Failure Unit × σ)}

/-- Going through a phase is plain if telling the listeners is. -/
theorem goThrough_plain (bus : LifecycleBus) (phase : LifecyclePhase)
    (tags : List (String × String)) (state : σ)
    (calls : ∀ state listener, (call state listener).Within Errand.isPlain) (step : StartupStep) :
    (bus.goThrough phase tags state call step).Within Errand.isPlain :=
  goThrough_within (fun _ _ _ => rfl) (fun _ => rfl) calls step

/-- A bus that has gone through a phase is in that phase and otherwise as before. -/
theorem bus_of_goThrough {bus : LifecycleBus} {phase : LifecyclePhase}
    {tags : List (String × String)} {state : σ} {step : StartupStep} {replies : List Reply}
    {dispatched : Dispatched σ}
    (path : (bus.goThrough phase tags state call step).Path replies (some dispatched)) :
    dispatched.bus = { bus with phase := some phase } := by
  obtain ⟨_, _, _, _, tagged, -⟩ := Plan.path_bind_some_iff.1 path
  obtain ⟨_, _, _, _, visited, -⟩ := Plan.path_bind_some_iff.1 tagged
  obtain ⟨_, _, _, _, left, -⟩ := Plan.path_bind_some_iff.1 visited
  obtain ⟨-, same⟩ := Plan.path_pure_iff.1 left
  cases same
  rfl

/-- A bus that enters a phase and calls its listeners. -/
theorem path_enter {bus : LifecycleBus} {phase : LifecyclePhase} {tags : List (String × String)}
    {state : σ} {replies : List Reply} {result : Option (Dispatched σ)} (regular : phase ≠ .failed)
    (calls : ∀ state listener, (call state listener).Within Errand.isPlain)
    (path : (Plan.ask (.enterPhase bus.startup phase) >>=
      bus.goThrough phase tags state call).Path replies result) :
    milestonesOf replies = [] ∧ ∀ dispatched, result = some dispatched →
      lastPhase (visitsOf replies) = some phase ∧ createdIn (visitsOf replies) = none ∧
        dispatched.bus = { bus with phase := some phase } := by
  have noMilestone : (Errand.enterPhase bus.startup phase).milestone? = none := by
    cases phase <;> first | rfl | exact absurd rfl regular
  have known : (Errand.enterPhase bus.startup phase).station? = some (.phase phase) := by
    cases phase <;> first | rfl | exact absurd rfl regular
  obtain ⟨step, before, after, early, late, rfl⟩ | ⟨early, rfl⟩ := Plan.path_bind_iff.1 path
  · obtain rfl := Plan.path_ask_some_iff.1 early
    have plain := goThrough_plain bus phase tags state calls step _ _ late
    obtain ⟨noPhase, noContainer⟩ := visitsOf_of_isPlain plain
    refine ⟨?_, ?_⟩
    · rw [milestonesOf_append, milestonesOf_singleton, noMilestone, milestonesOf_of_isPlain plain]
      rfl
    · rintro dispatched rfl
      rw [visitsOf_append, lastPhase_append, createdIn_append, noPhase, noContainer,
        visitsOf_singleton, Reply.visit?_passed known rfl]
      exact ⟨rfl, rfl, bus_of_goThrough late⟩
  · obtain ⟨_, rfl⟩ := Plan.path_ask_none_iff.1 early
    exact ⟨by simp [milestonesOf_singleton, noMilestone], fun _ same => by cases same⟩

end LifecycleBus

namespace LaunchM

variable {α β ε : Type}

/-- However the step ends, it has no milestone, and the state that it leaves follows its visits. -/
def Tracks (step : LaunchM α) : Prop :=
  ∀ start replies result, (step.run.run start).Path replies result →
    milestonesOf replies = [] ∧
      ∀ ended last, result = some (ended, last) → Tracked (visitsOf replies) start last

namespace Tracks

/-- A step that answers at once and leaves the bus and the container as they are. -/
theorem ofDone {step : LaunchM α}
    (done : ∀ start, ∃ ended last, step.run.run start = pure (ended, last) ∧
      last.bus = start.bus ∧ last.created = start.created) : Tracks step := by
  intro start replies result path
  obtain ⟨ended, last, same, bus, created⟩ := done start
  rw [same] at path
  obtain ⟨rfl, rfl⟩ := Plan.path_pure_iff.1 path
  refine ⟨rfl, ?_⟩
  rintro _ _ ⟨⟩
  exact Tracked.ofPlain (fun _ among => absurd among List.not_mem_nil) bus created

/-- A step that takes nothing is tracked through nothing. -/
theorem ofPure (answer : α) : Tracks (pure answer) :=
  ofDone fun start => ⟨.ok answer, start, rfl, rfl, rfl⟩

/-- A step that fails at once is tracked through nothing. -/
theorem ofThrow (error : LaunchError) : Tracks (throw error : LaunchM α) :=
  ofDone fun start => ⟨.error error, start, rfl, rfl, rfl⟩

/-- Looking at the state is tracked through nothing. -/
theorem ofGet : Tracks (get : LaunchM Launch) :=
  ofDone fun start => ⟨.ok start, start, rfl, rfl, rfl⟩

/-- Steps one after the other are tracked through what each of them is tracked through. -/
theorem bind {step : LaunchM α} {next : α → LaunchM β} (first : Tracks step)
    (second : ∀ answer, Tracks (next answer)) : Tracks (step >>= next) := by
  intro start replies result path
  rw [StepM.run_bind] at path
  obtain ⟨⟨error | answer, between⟩, before, after, early, late, rfl⟩ | ⟨early, rfl⟩ :=
    Plan.path_bind_iff.1 path
  · obtain ⟨noneYet, tracked⟩ := first _ _ _ early
    obtain ⟨rfl, rfl⟩ := Plan.path_pure_iff.1 late
    refine ⟨by simp [noneYet], fun ended last same => ?_⟩
    cases same
    simpa using tracked _ _ rfl
  · obtain ⟨noneYet, tracked⟩ := first _ _ _ early
    obtain ⟨noneAfter, onward⟩ := second answer _ _ _ late
    refine ⟨by simp [noneYet, noneAfter], fun ended last same => ?_⟩
    rw [visitsOf_append]
    exact (tracked _ _ rfl).trans (onward _ _ same)
  · exact ⟨(first _ _ _ early).1, fun _ _ same => by cases same⟩

/-- A step that carries out a plan of plain errands and leaves the bus and the container as they
are. -/
theorem ofPlan {γ : Type} {step : LaunchM α} {plan : Launch → Plan γ}
    {finish : Launch → γ → Except LaunchError α × Launch}
    (plain : ∀ start, (plan start).Within Errand.isPlain)
    (carries : ∀ start, step.run.run start = plan start >>= fun answer =>
      pure (finish start answer))
    (leaves : ∀ start answer, (finish start answer).2.bus = start.bus ∧
      (finish start answer).2.created = start.created) : Tracks step := by
  intro start replies result path
  rw [carries] at path
  have plainReplies := Plan.Within.bind (plain start) (fun _ => .ofPure _) _ _ path
  refine ⟨milestonesOf_of_isPlain plainReplies, fun ended last same => ?_⟩
  subst same
  obtain ⟨answer, before, after, early, late, rfl⟩ := Plan.path_bind_some_iff.1 path
  obtain ⟨rfl, same⟩ := Plan.path_pure_iff.1 late
  obtain ⟨bus, created⟩ := leaves start answer
  rw [← Option.some.inj same] at bus created
  exact Tracked.ofPlain plainReplies bus created

/-- A step that carries out a plan of plain errands leaves the bus and the container. -/
theorem ofAct {plan : Plan α} (plain : plan.Within Errand.isPlain) : Tracks (StepM.act plan) :=
  ofPlan (fun _ => plain) (fun start => StepM.run_act plan start) fun _ _ => ⟨rfl, rfl⟩

/-- A step that is one plain errand leaves the bus and the container. -/
theorem ofAsk {errand : Errand} (plain : errand.isPlain = true) : Tracks (StepM.ask errand) :=
  ofAct (.ofAsk plain)

/-- A step that checks a plan of plain errands leaves the bus and the container. -/
theorem ofCheck {plan : Plan (Except ε α)} {toError : ε → LaunchError}
    (plain : plan.Within Errand.isPlain) :
    Tracks (StepM.check toError plan) :=
  ofPlan (fun _ => plain) (fun start => StepM.run_check toError plan start) fun _ _ => ⟨rfl, rfl⟩

/-- What is tracked for each item is tracked for all of them. -/
theorem each {step : α → LaunchM Unit} (steps : ∀ item, Tracks (step item)) (items : List α) :
    Tracks (StepM.each step items) := by
  induction items with
  | nil => exact ofPure ()
  | cons item rest ih => exact bind (steps item) fun _ => ih

/-- A dispatch moves the bus to the phase, unless the bus refuses it. -/
theorem dispatch {σ : Type} {phase : LifecyclePhase} {tags : List (String × String)} {state : σ}
    {call : σ → RunListener → Plan (Except Failure Unit × σ)} (regular : phase ≠ .failed)
    (calls : ∀ state listener, (call state listener).Within Errand.isPlain) :
    Tracks (LaunchM.dispatch fun bus => bus.dispatch phase tags state call) := by
  intro start replies result path
  rw [run_dispatch, LifecycleBus.dispatch] at path
  split at path
  · obtain ⟨dispatched, before, after, early, late, rfl⟩ | ⟨early, rfl⟩ :=
      Plan.path_bind_iff.1 path
    · obtain ⟨rfl, rfl⟩ := Plan.path_pure_iff.1 late
      obtain ⟨noMilestone, moved⟩ := LifecycleBus.path_enter regular calls early
      obtain ⟨entered, noContainer, bus⟩ := moved dispatched rfl
      refine ⟨by simpa using noMilestone, ?_⟩
      rintro _ _ ⟨⟩
      rw [List.append_nil]
      exact ⟨by rw [bus], by rw [bus, entered]; rfl, by rw [noContainer]; rfl⟩
    · exact ⟨(LifecycleBus.path_enter regular calls early).1, fun _ _ same => by cases same⟩
  · obtain ⟨rfl, rfl⟩ := Plan.path_pure_iff.1 path
    refine ⟨rfl, ?_⟩
    rintro _ _ ⟨⟩
    exact Tracked.ofPlain (fun _ among => absurd among List.not_mem_nil) rfl rfl

end Tracks

end LaunchM

namespace Application

open LaunchM.Tracks

variable (application : Application)

/-- Binding the settings enters no phase. -/
theorem bindSettings_tracks (environment : Environment) :
    LaunchM.Tracks (application.bindSettings environment) := by
  refine .bind ofGet fun launch => .bind (ofAsk rfl) fun (result, settings) => ?_
  refine .bind (ofDone fun start => ⟨_, _, rfl, rfl, rfl⟩) fun _ => ?_
  exact ofCheck (.ofPure _)

/-- Preparing the environment enters the phase in which the listeners are shown it. -/
theorem prepareEnvironment_tracks (store : StoreRef) (arguments : Arguments) :
    LaunchM.Tracks (application.prepareEnvironment store arguments) := by
  refine .bind ofGet fun launch => .bind (ofAsk rfl) fun vars => ?_
  have shows : LaunchM.Tracks (LaunchM.dispatch (·.showEnvironment store
      (application.configureEnvironment launch.settings arguments
        (application.initialEnvironment launch.settings vars)))) :=
    dispatch nofun fun _ _ => .ofAsk rfl
  refine .bind shows fun shown => .bind (ofCheck (.ofAsk rfl)) fun _ => ?_
  refine .bind (application.bindSettings_tracks _) fun _ => ?_
  exact .bind ofGet fun _ => ofPure _

/-- Giving a notice enters its phase, if the bus accepts it. -/
theorem give_tracks (notice : Notice) : LaunchM.Tracks (LaunchM.dispatch (·.give notice)) :=
  dispatch (by cases notice <;> nofun) fun _ _ => .bind (.ofAsk rfl) fun _ => .ofPure _

/-- Making the container is one errand, whose answer the state records. -/
theorem run_createContainer (start : Launch) :
    application.createContainer.run.run start =
      Plan.ask (.createContainer application.factory (application.kindUnder start.settings)) >>=
        fun answer => pure (
          answer.mapError
            (LaunchFault.contextCreation (application.kindUnder start.settings)).dueTo,
          { start with created := answer.toOption.or start.created }) := by
  let kind := application.kindUnder start.settings
  change (StepM.checked (.contextCreation kind)
    (Plan.ask (.createContainer application.factory kind)) >>= _ : LaunchM _).run.run start = _
  rw [StepM.run_bind, StepM.checked, StepM.run_check, bind_assoc]
  congr
  funext answer
  cases answer <;> rfl

/-- The container that is created is the one in the state. -/
theorem createContainer_tracks : LaunchM.Tracks application.createContainer := by
  intro start replies result path
  let kind := application.kindUnder start.settings
  let errand := Errand.createContainer application.factory kind
  have known : errand.station? = some (.containerFactory application.factory kind) := rfl
  rw [run_createContainer] at path
  obtain ⟨answer, before, after, early, late, rfl⟩ | ⟨early, rfl⟩ := Plan.path_bind_iff.1 path
  · obtain ⟨rfl, rfl⟩ := Plan.path_pure_iff.1 late
    obtain rfl := Plan.path_ask_some_iff.1 early
    refine ⟨rfl, ?_⟩
    rintro _ _ ⟨⟩
    rw [List.append_nil, visitsOf_singleton]
    cases answer with
    | error failure =>
      rw [Reply.visit?_failed known rfl]
      exact ⟨rfl, rfl, rfl⟩
    | ok container =>
      rw [Reply.visit?_passed known rfl]
      exact ⟨rfl, rfl, rfl⟩
  · obtain ⟨_, rfl⟩ := Plan.path_ask_none_iff.1 early
    exact ⟨rfl, fun _ _ same => by cases same⟩

/-- Post-processing a container enters no phase. -/
theorem postProcess_tracks (container : ContainerRef) :
    LaunchM.Tracks (application.postProcess container) := by
  unfold postProcess
  cases application.hooks with
  | none => exact ofPure ()
  | some hooks => exact ofCheck (.ofAsk rfl)

/-- Applying initializers enters no phase. -/
theorem applyInitializers_tracks (container : ContainerRef) :
    LaunchM.Tracks (application.applyInitializers container) := by
  refine .bind (ofCheck (.gather fun _ _ => .ofAsk rfl)) fun declared => each ?_ _
  intro initializer
  exact .bind (ofAsk rfl) fun _ => .bind (ofCheck (.ofAsk rfl)) fun _ => ofCheck (.ofAsk rfl)

/-- Closing the bootstrap store is plain. -/
theorem close_plain (store : StoreRef) (container : ContainerRef) :
    (BootstrapStore.close store container).Within Errand.isPlain :=
  BootstrapStore.close_within rfl (fun _ => rfl) fun _ _ => rfl

/-- The line that announces the start enters no phase. -/
theorem logStarting_tracks (environment : Environment) :
    LaunchM.Tracks (application.logStarting environment) := by
  refine .bind ofGet fun launch => ?_
  split
  · exact .bind (ofAsk rfl) fun _ => ofAsk rfl
  · exact ofPure ()

/-- Registering the singletons enters no phase. -/
theorem registerSingletons_tracks (container : ContainerRef) (arguments : Arguments)
    (banner : Option PrintedBanner) :
    LaunchM.Tracks (registerSingletons container arguments banner) := by
  refine .bind (ofCheck (.ofAsk rfl)) fun _ => ?_
  cases banner with
  | none => exact ofPure ()
  | some banner => exact ofCheck (.ofAsk rfl)

/-- Configuring the container enters no phase. -/
theorem configureContainer_tracks (container : ContainerRef) :
    LaunchM.Tracks (configureContainer container) := by
  refine .bind ofGet fun launch => .bind (ofAsk rfl) fun _ => ?_
  split
  · exact ofAsk rfl
  · exact ofPure ()

/-- Loading the sources enters no phase. -/
theorem loadSources_tracks (container : ContainerRef) :
    LaunchM.Tracks (application.loadSources container) :=
  .bind ofGet fun _ => .bind (ofCheck (.ofAsk rfl)) fun _ => .bind (ofAsk rfl) fun _ =>
    .bind (ofCheck (.ofAsk rfl)) fun _ => ofCheck (.ofAsk rfl)

/-- Preparing the container enters the phases of a prepared and of a loaded container. -/
theorem prepareContainer_tracks (store : StoreRef) (container : ContainerRef)
    (environment : Environment) (arguments : Arguments) (banner : Option PrintedBanner) :
    LaunchM.Tracks
      (application.prepareContainer store container environment arguments banner) := by
  refine .bind (ofAsk rfl) fun _ => .bind (application.postProcess_tracks _) fun _ => ?_
  refine .bind (application.applyInitializers_tracks _) fun _ => .bind (give_tracks _) fun _ => ?_
  refine .bind (ofCheck (close_plain _ _)) fun _ => ?_
  refine .bind (application.logStarting_tracks _) fun _ => ?_
  refine .bind (registerSingletons_tracks _ _ _) fun _ => ?_
  refine .bind (configureContainer_tracks _) fun _ => ?_
  exact .bind (application.loadSources_tracks _) fun _ => give_tracks _

/-- Registering for a shutdown enters no phase. -/
theorem registerForShutdown_tracks (container : ContainerRef) :
    LaunchM.Tracks (application.registerForShutdown container) := by
  refine .bind ofGet fun launch => ?_
  split
  · refine .bind (ofAsk rfl) fun registered => ?_
    split
    · exact ofPure ()
    · exact ofThrow _
  · exact ofPure ()

/-- What comes after the refresh enters no phase. -/
theorem afterRefresh_tracks (container : ContainerRef) (arguments : Arguments) :
    LaunchM.Tracks (application.afterRefresh container arguments) := by
  unfold afterRefresh
  cases application.hooks with
  | none => exact ofPure ()
  | some hooks => exact ofCheck (.ofAsk rfl)

/-- The line that announces that the start is over enters no phase. -/
theorem logStarted_tracks : LaunchM.Tracks application.logStarted := by
  refine .bind ofGet fun launch => ?_
  split
  · exact ofAsk rfl
  · exact ofPure ()

/-- Calling the runners enters no phase. -/
theorem callRunners_tracks (container : ContainerRef) (arguments : Arguments) :
    LaunchM.Tracks (callRunners container arguments) :=
  .bind (ofAsk rfl) fun _ => each (fun _ => ofCheck (.ofAsk rfl)) _

/-- However the steps from `starting` to the last runner end, their state follows the visits. -/
theorem launch_tracks (store : StoreRef) (given : List String) :
    LaunchM.Tracks (application.launch store given) := by
  refine .bind (give_tracks _) fun _ => .bind (ofCheck (.ofAsk rfl)) fun arguments => ?_
  refine .bind (application.prepareEnvironment_tracks _ _) fun environment => ?_
  refine .bind (.bind ofGet fun _ => ofCheck (.ofAsk rfl)) fun banner => ?_
  refine .bind application.createContainer_tracks fun container => .bind (ofAsk rfl) fun _ => ?_
  refine .bind (application.prepareContainer_tracks _ _ _ _ _) fun _ => ?_
  refine .bind (application.registerForShutdown_tracks _) fun _ => ?_
  refine .bind (ofCheck (.ofAsk rfl)) fun _ => ?_
  refine .bind (application.afterRefresh_tracks _ _) fun _ => ?_
  refine .bind application.logStarted_tracks fun _ => .bind (give_tracks _) fun _ => ?_
  exact .bind (callRunners_tracks _ _) fun _ => ofPure _

/-- Before there is a bus nothing changes in the state of a run. -/
theorem makeReady_plain (given : List String) :
    StepM.Within Errand.isPlain (application.makeReady given) :=
  (application.makeReady_within given).mono fun errand readying => by
    cases errand <;> first | rfl | cases readying

end Application

/-- No call of the order enters the phase `failed`. -/
theorem phase?_ne_failed {replies : List Reply} {visit : Visit} (among : visit ∈ visitsOf replies) :
    visit.phase? ≠ some .failed := by
  obtain ⟨⟨errand, answer⟩, -, visited⟩ := List.mem_filterMap.1 among
  have known := Reply.station_of_visit? visited
  unfold Visit.phase?
  generalize visit.station = station at known
  cases station with
  | phase entered =>
    rintro ⟨⟩
    dsimp only at known
    unfold Errand.station? at known
    split at known <;> simp_all
  | _ => nofun

end Launchpad
