import Launchpad.Proofs.Launch.Aftermath

/-!
# The order of the calls of a run

A run makes the calls of its itinerary one after the other, up to the first that fails, and it
succeeds exactly if it comes to the end of the itinerary. The phases that its bus enters are those
of the itinerary as far as the run got, and `failed` if it failed at startup and had its bus.
-/

namespace Launchpad

open Plan

/-- The phase that an errand makes the bus enter. -/
def Errand.phase? : Errand → Option LifecyclePhase
  | .enterPhase _ phase => some phase
  | _ => none

/-- The phases that the bus entered. -/
def Execution.phases {α : Type} (execution : Execution α) : List LifecyclePhase :=
  execution.replies.filterMap (·.errand.phase?)

/-- The phase that the bus enters at a milestone. -/
def Milestone.phase? : Milestone → Option LifecyclePhase
  | failing => some .failed
  | _ => none

/-- A phase is entered at a station or at a milestone. -/
theorem Errand.phase?_eq (errand : Errand) :
    errand.phase? =
      (errand.station?.bind Station.phase?).or (errand.milestone?.bind Milestone.phase?) := by
  cases errand with
  | enterPhase startup phase => cases phase <;> rfl
  | check own => cases own <;> rfl
  | _ => rfl

/-- Where no milestone is passed, phases are entered at stations only. -/
theorem phases_of_noMilestone {replies : List Reply} (noMilestone : milestonesOf replies = []) :
    replies.filterMap (·.errand.phase?) = (visitsOf replies).filterMap Visit.phase? := by
  rw [visitsOf, List.filterMap_filterMap]
  refine List.filterMap_congr fun reply among => ?_
  have plain := List.filterMap_eq_nil_iff.1 noMilestone reply among
  rw [Errand.phase?_eq, plain, Option.bind_none, Option.or_none]
  cases visited : reply.visit? with
  | none =>
    rw [Reply.visit?, Option.map_eq_none_iff] at visited
    rw [visited]
    rfl
  | some visit =>
    rw [Reply.station_of_visit? visited]
    rfl

/-- Where no station is visited, phases are entered at milestones only. -/
theorem phases_of_noVisit {replies : List Reply} (noVisit : visitsOf replies = []) :
    replies.filterMap (·.errand.phase?) = (milestonesOf replies).filterMap Milestone.phase? := by
  rw [milestonesOf, List.filterMap_filterMap]
  refine List.filterMap_congr fun reply among => ?_
  have none := List.filterMap_eq_nil_iff.1 noVisit reply among
  rw [Reply.visit?, Option.map_eq_none_iff] at none
  rw [Errand.phase?_eq, none, Option.bind_none, Option.none_or]

namespace Application

variable (application : Application)

/-- The error of a run that failed. -/
def Outcome.error? (outcome : Outcome) : Option LaunchError :=
  match outcome.result with
  | .ok _ => none
  | .error error => some error.failure.cause

/-- A startup that fails ends with the error that it failed with. -/
theorem failStartup_quiet (launch : Option Launch) (cause : LaunchError) :
    (application.failStartup launch cause).Quiet fun _ outcome =>
      outcome.error? = some cause :=
  (application.handleFailure_quiet _ _ _).bind fun _ _ same => .ofPure (congrArg some same)

/-- Announcing that the run is up follows its stops, and ends with the container or with their first
error. -/
theorem announceRunning_follows {launch : Launch} (started : launch.bus.phase = some .started)
    (container : ContainerRef) :
    (application.announceRunning container launch).Follows Outcome.error? fun order outcome =>
      outcome.result = .ok container ∧ outcome.settings = launch.settings ∧
        order = noticeStops launch.bus.listeners (.running container) := by
  have enters : (Notice.running container).phase.canFollow launch.bus.phase = true := by
    rw [started]
    rfl
  refine (LifecycleBus.give_follows enters).bind ?_ ?_
  · rintro _ ⟨_, _, _⟩ ⟨rfl, -, rfl⟩
    refine (Follows.ofPure rfl).mono ?_
    rintro _ _ ⟨rfl, rfl⟩
    exact ⟨rfl, rfl, by simp⟩
  · rintro ⟨cause | _, _, _⟩ error wrong
    · cases wrong
      exact (application.handleFailure_quiet _ _ _).bind fun _ _ same =>
        .ofPure (congrArg some same)
    · cases wrong

/-- The plan of a run follows the itinerary. -/
theorem plan_follows (given : List String) :
    (application.plan given).Follows Outcome.error? fun order outcome =>
      ∃ found : Found application,
        outcome.result = .ok found.container ∧ outcome.settings = found.settings ∧
          order = itinerary given found := by
  refine Plan.Follows.bind (application.makeReady_follows given) ?_ ?_
  · rintro _ _ ⟨_, _, rfl, gathered, rfl, rfl⟩
    refine Plan.Follows.bind (launch_follows rfl gathered given) ?_ ?_
    · rintro _ _ ⟨_, reached, rfl, bus, -, found, rfl, rfl, settings, rfl⟩
      refine (application.announceRunning_follows (by rw [bus]) _).mono ?_
      rintro _ _ ⟨ended, same, rfl⟩
      exact ⟨found, ended, same.trans settings, by simp [itinerary, bus]⟩
    · rintro ⟨cause | _, reached⟩ error wrong
      · cases wrong
        exact application.failStartup_quiet _ _
      · cases wrong
  · rintro ⟨cause | _, _⟩ error wrong
    · cases wrong
      exact application.failStartup_quiet _ _
    · cases wrong

/-- How the walk of a run ends. -/
def courseOf : Except Abort Outcome → Course
  | .error _ => .stopped
  | .ok outcome =>
    match outcome.error? with
    | none => .completed
    | some error => .failed error

/-- The phases of a run that succeeds. -/
def runPhases : List LifecyclePhase :=
  [.starting, .environmentPrepared, .contextPrepared, .contextLoaded, .started, .running]

/-- The phases that are entered along an order. -/
def phasesOn (order : List Stop) : List LifecyclePhase := order.filterMap (·.station.phase?)

@[simp] theorem phasesOn_append (first second : List Stop) :
    phasesOn (first ++ second) = phasesOn first ++ phasesOn second := List.filterMap_append

@[simp] theorem phasesOn_cons (stop : Stop) (order : List Stop) :
    phasesOn (stop :: order) = stop.station.phase?.toList ++ phasesOn order := by
  cases entered : stop.station.phase? <;> simp [phasesOn, entered]

/-- Stops that enter no phase enter none together. -/
theorem phasesOn_eq_nil {order : List Stop} (plain : ∀ stop ∈ order, stop.station.phase? = none) :
    phasesOn order = [] := List.filterMap_eq_nil_iff.2 plain

/-- Factories enter no phase. -/
@[simp] theorem phasesOn_factoryStops {Factory Product : Type} (declarations : Declarations Factory)
    (construction : Factory → Construction) (finding : Product → Finding) (built : List Product) :
    phasesOn (factoryStops declarations construction finding built) = [] := by
  refine phasesOn_eq_nil fun stop among => ?_
  obtain ⟨index, bound, rfl⟩ := List.getElem_of_mem among
  simp [factoryStops, Station.phase?]

/-- The stops of a notice enter its phase, once. -/
@[simp] theorem phasesOn_noticeStops (listeners : List RunListener) (notice : Notice) :
    phasesOn (noticeStops listeners notice) = [notice.phase] := by
  have plain : phasesOn (listeners.map fun listener =>
      { station := .notice listener notice }) = [] :=
    phasesOn_eq_nil (by simp [Station.phase?])
  rw [noticeStops, phasesOn_cons, plain]
  rfl

/-- Initializers enter no phase. -/
@[simp] theorem phasesOn_initializerStops (container : ContainerRef)
    (built : List ContextInitializer) :
    phasesOn (application.initializerStops container built) = [] := by
  have each : ∀ items : List ContextInitializer, phasesOn (items.flatMap fun initializer =>
      [{ station := .kindCheck initializer },
       { station := .contextInitializer initializer container }]) = [] := by
    intro items
    induction items with
    | nil => rfl
    | cons item rest ih =>
      rw [List.flatMap_cons, phasesOn_append, ih]
      rfl
  rw [initializerStops, phasesOn_append, phasesOn_factoryStops, each]
  rfl

/-- The registration for the shutdown enters no phase. -/
@[simp] theorem phasesOn_shutdownStops (container : ContainerRef) (settings : Settings) :
    phasesOn (application.shutdownStops container settings) = [] := by
  unfold shutdownStops
  split <;> rfl

/-- The itinerary enters the phases of a run, each once. -/
theorem phasesOn_itinerary (given : List String) (found : Found application) :
    phasesOn (itinerary given found) = runPhases := by
  simp only [itinerary, readyStops, storeStops, busStops, launchStops, environmentStops,
    preparationStops, closeStops, singletonStops, loadStops, runnerStops, phasesOn_append,
    phasesOn_cons, phasesOn_factoryStops, phasesOn_noticeStops, phasesOn_initializerStops,
    phasesOn_shutdownStops, Notice.phase, runPhases]
  simp [phasesOn, Station.phase?]

/-- Whether a run failed at startup after its bus was built. -/
def FailedWithBus (given : List String) (outcome : Outcome) (visits : List Visit) : Prop :=
  (∃ failure, outcome.result = .error { stage := .startup, failure }) ∧
    ∃ gathered : Gathered application, BusBuilt given gathered visits

/-- Of all that follows a failure only the telling of listeners enters a phase. -/
theorem phases_of_settled {container : Option ContainerRef} {exitCode : ExitCode}
    {milestones told reports : List Milestone} (reported : Reports reports)
    (settled : milestones = announcingMilestones container exitCode ++ told ++ reports ++
      container.toList.map .closing) :
    milestones.filterMap Milestone.phase? = told.filterMap Milestone.phase? := by
  have announcing : (announcingMilestones container exitCode).filterMap Milestone.phase? = [] := by
    unfold announcingMilestones
    split <;> simp [Milestone.phase?, Function.comp_def]
  have reporting : reports.filterMap Milestone.phase? = [] :=
    List.filterMap_eq_nil_iff.2 fun milestone among => by rw [reported milestone among]; rfl
  rw [settled]
  simp [announcing, reporting, Milestone.phase?, Function.comp_def]

/-- The phases that the bus of a run entered: those that its visits show, and `failed` if the run
failed at startup after its bus was built. -/
theorem phases_of_path {given : List String} {replies : List Reply} {outcome : Outcome}
    (path : (application.plan given).Path replies (some outcome)) :
    (application.FailedWithBus given outcome (visitsOf replies) ∧
      replies.filterMap (·.errand.phase?) =
        (visitsOf replies).filterMap Visit.phase? ++ [.failed]) ∨
    (¬ application.FailedWithBus given outcome (visitsOf replies) ∧
      replies.filterMap (·.errand.phase?) = (visitsOf replies).filterMap Visit.phase?) := by
  cases ended : outcome.result with
  | ok container =>
    refine .inr ⟨?_, phases_of_noMilestone (milestonesOf_of_ok path ended)⟩
    rintro ⟨⟨failure, failed⟩, -⟩
    rw [ended] at failed
    cases failed
  | error error =>
    obtain ⟨course, rest, rfl, failedPath⟩ := failedPath_of_plan path ended
    obtain ⟨told, reports, tells, reported, settled⟩ := failedPath.settles
    have visits : visitsOf (course ++ resolution error course :: rest) = visitsOf course := by
      have silent : visitsOf (resolution error course :: rest) = [] := failedPath.noLaterVisit
      rw [visitsOf_append, silent, List.append_nil]
    -- Before the exit code is resolved no milestone is passed, and from then on no station is
    -- visited.
    have phases : (course ++ resolution error course :: rest).filterMap (·.errand.phase?) =
        (visitsOf course).filterMap Visit.phase? ++ told.filterMap Milestone.phase? := by
      rw [List.filterMap_append, phases_of_noMilestone failedPath.noEarlierMilestone]
      congr 1
      exact (phases_of_noVisit failedPath.noLaterVisit).trans
        (phases_of_settled reported settled)
    rw [visits, phases]
    cases tells with
    | built startup built =>
      refine .inl ⟨⟨⟨error.failure, ?_⟩, _, built⟩, ?_⟩
      · rw [ended, ← startup]
      · rw [List.filterMap_cons, List.filterMap_map]
        simp [Milestone.phase?, Function.comp_def]
    | unbuilt reason =>
      refine .inr ⟨?_, List.append_nil _⟩
      rintro ⟨⟨failure, failed⟩, gathered, built⟩
      obtain running | unbuilt := reason
      · rw [ended] at failed
        cases failed
        cases running
      · exact unbuilt gathered built

/-- A run has entered the first phases of a successful run. -/
theorem phases_prefix {given : List String} {found : Found application} {visits : List Visit}
    {course : Course} (walk : Walk (itinerary given found) visits course) :
    visits.filterMap Visit.phase? <+: runPhases := by
  rw [← application.phasesOn_itinerary given found]
  exact walk.filterMap_prefix (fun _ => rfl) (fun _ _ => rfl) fun _ => rfl

/-- A run succeeds exactly if it has passed every stop. -/
theorem ok_iff_passed {order : List Stop} {visits : List Visit} {outcome : Outcome}
    (walk : Walk order visits (courseOf (.ok outcome))) :
    (∃ container, outcome.result = .ok container) ↔ visits = order.map .passed := by
  cases ended : outcome.result with
  | ok container =>
    have arrived : Walk order visits .completed := by
      simpa [courseOf, Outcome.error?, ended] using walk
    constructor
    · exact fun _ => Walk.completed_iff.1 arrived
    · exact fun _ => ⟨container, rfl⟩
  | error error =>
    have ends : Walk order visits (.failed error.failure.cause) := by
      simpa [courseOf, Outcome.error?, ended] using walk
    constructor
    · rintro ⟨container, same⟩
      cases same
    · rintro rfl
      exact absurd (List.prefix_refl _) (ends.not_prefix_of_failed rfl)

/-- The walk of a path of a run. -/
theorem walk_of_path {given : List String} {replies : List Reply} {result : Except Abort Outcome}
    (path : (application.plan given).Path replies result.toOption) :
    ∃ found : Found application,
      Walk (itinerary given found) (visitsOf replies) (courseOf result) := by
  have follows := application.plan_follows given
  cases result with
  | error abort =>
    obtain ⟨_, _, ⟨found, -, -, rfl⟩, walk⟩ := follows.stops path
    exact ⟨found, walk⟩
  | ok outcome =>
    cases verdict : outcome.error? with
    | none =>
      obtain ⟨_, ⟨found, -, -, rfl⟩, walk⟩ := follows.completes path verdict
      exact ⟨found, by rwa [courseOf, verdict]⟩
    | some error =>
      obtain ⟨_, _, ⟨found, -, -, rfl⟩, walk⟩ := follows.fails path verdict
      exact ⟨found, by rwa [courseOf, verdict]⟩

/-- The calls of a run are its itinerary, for all that it finds, up to the first call that fails.
The run succeeds exactly if it has passed every stop. The phases that its bus enters begin those of
a successful run; `failed` follows them exactly if the run failed at startup after its bus was
built. Only what does not come to an end can stop a walk elsewhere. The errands are carried out one
after the other; under the behaviour of participants each holds its dialogue, and no other call is
made. -/
theorem run_follows_itinerary (invoke : Invoker) (application : Application) (given : List String)
    (world : World) :
    let execution := application.execution invoke given world
    (application.run invoke given).run.run world = (execution.result, execution.world) ∧
    Performed.Chain invoke world execution.record execution.world ∧
    (∀ (behaviour : Behaviour) (limit depth : Nat), invoke = behaviour.invoker (limit + 1) depth →
      Performed.Converse depth execution.record world execution.world) ∧
    ∃ found : Found application,
      Walk (itinerary given found) execution.visits (courseOf execution.result) ∧
      ∀ outcome, execution.result = .ok outcome →
        ((∃ container, outcome.result = .ok container) ↔
          execution.visits = (itinerary given found).map .passed) ∧
        ∃ reached, reached <+: runPhases ∧
          ((application.FailedWithBus given outcome execution.visits ∧
              execution.phases = reached ++ [.failed]) ∨
            (¬ application.FailedWithBus given outcome execution.visits ∧
              execution.phases = reached)) := by
  intro execution
  have path : (application.plan given).Path execution.replies execution.result.toOption :=
    path_execution invoke (application.plan given) world
  have chain : Performed.Chain invoke world execution.record execution.world :=
    chain_execution invoke (application.plan given) world
  have converses : ∀ (behaviour : Behaviour) (limit depth : Nat),
      invoke = behaviour.invoker (limit + 1) depth →
      Performed.Converse depth execution.record world execution.world := by
    intro behaviour limit depth acts
    rw [acts] at chain
    exact chain.converse
  obtain ⟨found, walk⟩ := application.walk_of_path path
  refine ⟨run_eq_execution .., chain, converses, found, walk, fun outcome ended => ?_⟩
  rw [ended] at path walk
  exact ⟨ok_iff_passed walk, _, application.phases_prefix walk, application.phases_of_path path⟩

end Application

end Launchpad
