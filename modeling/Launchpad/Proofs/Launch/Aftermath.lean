import Launchpad.Proofs.Launch.Conversation
import Launchpad.Proofs.Launch.Stages
import Launchpad.Proofs.Launch.Tracking

/-!
# What follows the failure of a run

After a failure no call of the order is made. What happens instead has fixed milestones, whatever
the listeners, the reporters and the container answer: the exit code is resolved and announced, the
listeners are told, the failure is reported, and the container is closed.
-/

namespace Launchpad

open Plan

namespace LifecycleBus

/-- Calls that never fail reach every listener. -/
theorem visit_quiet {σ : Type} {call : σ → RunListener → Plan (Except Failure Unit × σ)}
    {milestone : RunListener → Milestone}
    (calls : ∀ state listener, (call state listener).Quiet fun milestones answer =>
      milestones = [milestone listener] ∧ answer.1 = .ok ()) (state : σ)
    (listeners : List RunListener) :
    (visit call state listeners).Quiet fun milestones _ =>
      milestones = listeners.map milestone := by
  induction listeners generalizing state with
  | nil => exact .ofPure rfl
  | cons listener rest ih =>
    refine (calls state listener).bind ?_
    rintro _ ⟨_, between⟩ ⟨rfl, rfl⟩
    refine (ih between).mono ?_
    rintro _ _ rfl
    rfl

/-- The failure of a listener that is told about a failure goes no further. -/
theorem notifyFailed_quiet (container : Option ContainerRef) (failure : Failure)
    (listener : RunListener) :
    (notifyFailed container (some failure) listener).Quiet fun milestones answer =>
      milestones = [.telling listener container (some failure)] ∧ answer = .ok () := by
  refine Quiet.bind (.ofAsk rfl) ?_
  rintro _ (own | _) rfl
  · refine Quiet.bind (.ofAsk rfl) ?_
    rintro _ _ rfl
    exact .ofPure ⟨rfl, rfl⟩
  · exact .ofPure ⟨rfl, rfl⟩

/-- The milestones of telling the listeners about a failure, which a bus does unless it did
before. -/
def tellingMilestones (bus : LifecycleBus) (container : Option ContainerRef) (failure : Failure) :
    List Milestone :=
  if LifecyclePhase.failed.canFollow bus.phase then
    .failing :: bus.listeners.map (.telling · container (some failure))
  else []

/-- Telling the listeners of a bus about a failure comes to the milestones that say so. -/
theorem tellFailed_quiet (bus : LifecycleBus) (container : Option ContainerRef)
    (failure : Failure) :
    (bus.tellFailed container (some failure)).Quiet fun milestones _ =>
      milestones = bus.tellingMilestones container failure := by
  unfold tellFailed dispatchPlain dispatch tellingMilestones
  split
  · refine Quiet.bind (.ofAsk rfl) ?_
    rintro _ step rfl
    refine (tagAll_quiet _ _ _).bind ?_
    rintro _ step rfl
    have calls : ∀ (_ : Unit) listener, (do
        return (← notifyFailed container (some failure) listener, ()) : Plan _).Quiet
        fun milestones answer =>
          milestones = [.telling listener container (some failure)] ∧ answer.1 = .ok () := by
      intro _ listener
      refine (notifyFailed_quiet _ _ listener).bind ?_
      rintro _ _ ⟨rfl, rfl⟩
      exact .ofPure ⟨rfl, rfl⟩
    refine (visit_quiet calls _ _).bind ?_
    rintro _ visited rfl
    refine Quiet.bind (.ofAsk rfl) ?_
    rintro _ _ rfl
    exact .ofPure (by simp [Errand.milestone?])
  · exact .ofPure rfl

end LifecycleBus

/-- Milestones of nothing but reporting. -/
def Reports (milestones : List Milestone) : Prop := ∀ milestone ∈ milestones, milestone = .reporting

theorem Reports.nil : Reports [] := by simp [Reports]

theorem Reports.append {first second : List Milestone} (start : Reports first)
    (rest : Reports second) : Reports (first ++ second) := by
  intro milestone among
  obtain earlier | later := List.mem_append.1 among
  · exact start milestone earlier
  · exact rest milestone later

/-- The factories of reporters are called, and nothing else. -/
theorem Catalog.reportersFor_quiet (catalog : Catalog) (container : Option ContainerRef) :
    (catalog.reportersFor container).Quiet fun milestones _ => Reports milestones := by
  have all : ∀ entries : List (String × String × Participant),
      (Declarations.buildAll reporterCapability
        (fun entry => Plan.ask (.buildReporter entry.1 entry.2 container)) entries).Quiet
        fun milestones _ => Reports milestones := by
    intro entries
    induction entries with
    | nil => exact .ofPure .nil
    | cons entry rest ih =>
      refine Quiet.bind (.ofAsk rfl) ?_
      rintro _ (_ | _) rfl
      · exact .ofPure (by simp [Reports, Errand.milestone?])
      · refine ih.bind ?_
        rintro _ (_ | _) reports <;>
          exact .ofPure (by simpa [Reports, Errand.milestone?] using reports)
  refine (all _).bind ?_
  rintro _ (_ | _) reports <;> exact .ofPure (by simpa using reports)

namespace Application

/-- The milestones of announcing an exit code. -/
def announcingMilestones (container : Option ContainerRef) (exitCode : ExitCode) :
    List Milestone :=
  if exitCode ≠ 0 then container.toList.map (.publishing · (.exitCode exitCode)) else []

/-- The milestones of telling the listeners of a bus, if there is one, about a failure. -/
def tellingMilestones (container : Option ContainerRef) (bus : Option LifecycleBus)
    (failure : Failure) : List Milestone :=
  (bus.map (·.tellingMilestones container failure)).getD []

variable (application : Application)

/-- Announcing an exit code comes to the milestones that say so. -/
theorem announceExitCode_quiet (container : Option ContainerRef) (exitCode : ExitCode) :
    (announceExitCode container exitCode).Quiet fun milestones _ =>
      milestones = announcingMilestones container exitCode := by
  unfold announceExitCode announcingMilestones
  cases container with
  | none => exact .ofPure (by simp)
  | some ref =>
    dsimp only
    split
    · refine Quiet.bind (.ofAsk rfl) ?_
      rintro _ (_ | _) rfl
      · exact (Quiet.ofAsk rfl).mono fun _ _ same => by rw [same]; rfl
      · exact .ofPure rfl
    · exact .ofPure rfl

/-- Telling whatever listeners there are about a failure comes to the milestones that say so. -/
theorem notifyListeners_quiet (container : Option ContainerRef) (bus : Option LifecycleBus)
    (cause : LaunchError) :
    (notifyListeners container bus cause).Quiet fun milestones _ =>
      milestones = tellingMilestones container bus cause.toFailure := by
  cases bus with
  | none => exact .ofPure rfl
  | some bus =>
    refine (bus.tellFailed_quiet _ _).bind ?_
    rintro _ ⟨_ | _, _, _⟩ rfl
    · exact (Quiet.ofAsk rfl).mono fun _ _ same => by
        rw [same]
        exact List.append_nil _
    · exact .ofPure (List.append_nil _)

/-- Consulting the reporters is reporting and nothing else. -/
theorem consultReporters_quiet (failure : Failure) (reporters : List ExceptionReporter) :
    (consultReporters failure reporters).Quiet fun milestones _ => Reports milestones := by
  induction reporters with
  | nil => exact .ofPure .nil
  | cons reporter rest ih =>
    refine Quiet.bind (.ofAsk rfl) ?_
    rintro _ claimed rfl
    have asked : Reports [.reporting] := by simp [Reports]
    split
    · exact .ofPure asked
    · exact ih.mono fun _ _ reports => asked.append reports

/-- Reporting a failure, with or without reporters, is reporting and nothing else. -/
theorem reportFailure_quiet (container : Option ContainerRef) (cause : LaunchError) :
    (application.reportFailure container cause).Quiet fun milestones _ => Reports milestones := by
  have available : (application.availableReporters container).Quiet
      fun milestones _ => Reports milestones := by
    refine (application.catalog.reportersFor_quiet container).bind ?_
    rintro built (_ | _) reports
    · refine Quiet.bind (.ofAsk rfl) ?_
      rintro _ _ rfl
      exact .ofPure (reports.append .nil)
    · exact .ofPure (reports.append .nil)
  refine available.bind fun built reporters reports => ?_
  refine (consultReporters_quiet _ _).bind ?_
  rintro asked (_ | _) consulted
  · refine Quiet.bind (.ofAsk rfl) ?_
    rintro _ _ rfl
    exact .ofPure (reports.append (consulted.append .nil))
  · exact .ofPure (reports.append (consulted.append .nil))

/-- Closing the container, if there is one, is its own milestone. -/
theorem closeContainer_quiet (container : Option ContainerRef) :
    (closeContainer container).Quiet fun milestones _ =>
      milestones = container.toList.map .closing := by
  cases container with
  | none => exact .ofPure rfl
  | some ref =>
    refine Quiet.bind (.ofAsk rfl) ?_
    rintro _ (_ | _) rfl
    · exact (Quiet.ofAsk rfl).mono fun _ _ same => by rw [same]; rfl
    · exact .ofPure rfl

/-- The milestones once the exit code is known. -/
structure Settles (container : Option ContainerRef) (bus : Option LifecycleBus)
    (failure : RunFailure) (milestones : List Milestone) : Prop where
  inOrder : ∃ reports, Reports reports ∧ milestones =
    announcingMilestones container failure.exitCode ++
      tellingMilestones container bus failure.cause.toFailure ++ reports ++
      container.toList.map .closing

/-- Once its exit code is known, a failure is settled by announcing the code, telling the listeners,
reporting and closing, and it keeps its cause and its code. -/
theorem settleFailure_quiet (container : Option ContainerRef) (bus : Option LifecycleBus)
    (cause : LaunchError) (exitCode : ExitCode) :
    (application.settleFailure container bus cause exitCode).Quiet fun milestones failure =>
      failure.cause = cause ∧ failure.exitCode = exitCode ∧
        Settles container bus failure milestones := by
  refine (announceExitCode_quiet _ _).bind ?_
  rintro _ _ rfl
  refine (notifyListeners_quiet _ _ _).bind ?_
  rintro _ _ rfl
  refine (application.reportFailure_quiet _ _).bind fun reports reportedBy reported => ?_
  refine (closeContainer_quiet _).bind ?_
  rintro _ _ rfl
  exact .ofPure ⟨rfl, rfl, reports, reported, by simp⟩

/-- What follows a failure makes no call of the order and keeps the cause. -/
theorem handleFailure_quiet (container : Option ContainerRef) (bus : Option LifecycleBus)
    (cause : LaunchError) :
    (application.handleFailure container bus cause).Quiet fun _ failure =>
      failure.cause = cause := by
  refine Quiet.bind (.ofAsk rfl) ?_
  rintro _ exitCode rfl
  exact (application.settleFailure_quiet _ _ _ _).mono fun _ _ ⟨same, _⟩ => same

/-- What follows a failure begins with its exit code. -/
theorem path_handleFailure {container : Option ContainerRef} {bus : Option LifecycleBus}
    {cause : LaunchError} {replies : List Reply} {failure : RunFailure}
    (path : (application.handleFailure container bus cause).Path replies (some failure)) :
    failure.cause = cause ∧ ∃ rest,
      replies = ⟨.resolveExitCode container cause.toFailure, .ok failure.exitCode⟩ :: rest ∧
        visitsOf rest = [] ∧ Settles container bus failure (milestonesOf rest) := by
  obtain ⟨exitCode, before, after, early, late, rfl⟩ := path_bind_some_iff.1 path
  obtain rfl := path_ask_some_iff.1 early
  have quiet := application.settleFailure_quiet container bus cause exitCode
  obtain ⟨sameCause, rfl, settles⟩ := quiet.leaves late
  exact ⟨sameCause, after, rfl, quiet.silent late, settles⟩

/-- A run that fails at startup handles its failure last. -/
theorem path_failStartup {launch : Option Launch} {cause : LaunchError} {replies : List Reply}
    {outcome : Outcome}
    (path : (application.failStartup launch cause).Path replies (some outcome)) :
    ∃ failure : RunFailure, failure.cause = cause ∧
      outcome = {
        result := .error { stage := .startup, failure }
        settings := (launch.map (·.settings)).getD application.settings } ∧
      (application.handleFailure (launch.bind (·.created)) (launch.map (·.bus)) cause).Path replies
        (some failure) := by
  obtain ⟨failure, _, _, handled, last, rfl⟩ := path_bind_some_iff.1 path
  obtain ⟨rfl, same⟩ := path_pure_iff.1 last
  cases same
  rw [List.append_nil]
  exact ⟨failure, (application.path_handleFailure handled).1, rfl, handled⟩

/-- A run whose listeners are told that it is running is done, or handles the failure of one. -/
theorem path_announceRunning {container : ContainerRef} {launch : Launch} {replies : List Reply}
    {outcome : Outcome}
    (path : (application.announceRunning container launch).Path replies (some outcome)) :
    ∃ dispatched telling rest, replies = telling ++ rest ∧
      (launch.bus.give (.running container)).Path telling (some dispatched) ∧
      ((dispatched.result = .ok () ∧ rest = [] ∧
          outcome = { result := .ok container, settings := launch.settings }) ∨
        ∃ failure : RunFailure, dispatched.result = .error failure.cause ∧
          outcome = {
            result := .error { stage := .running, failure }, settings := launch.settings } ∧
          (application.handleFailure (some container) none failure.cause).Path rest
            (some failure)) := by
  obtain ⟨dispatched, telling, rest, told, settling, rfl⟩ := path_bind_some_iff.1 path
  refine ⟨dispatched, telling, rest, rfl, told, ?_⟩
  cases ended : dispatched.result with
  | ok =>
    rw [ended] at settling
    obtain ⟨rfl, same⟩ := path_pure_iff.1 settling
    cases same
    exact .inl ⟨rfl, rfl, rfl⟩
  | error cause =>
    rw [ended] at settling
    obtain ⟨failure, _, _, handled, last, rfl⟩ := path_bind_some_iff.1 settling
    obtain ⟨rfl, same⟩ := path_pure_iff.1 last
    cases same
    obtain ⟨rfl, -⟩ := application.path_handleFailure handled
    rw [List.append_nil]
    exact .inr ⟨failure, rfl, rfl, handled⟩

/-- The milestones of telling the listeners about the failure of a run whose course is known. If the
run failed at startup and its bus was built, every listener is told, and otherwise none is. -/
inductive Tells (application : Application) (given : List String) (stage : RunStage)
    (visits : List Visit) (failure : Failure) : List Milestone → Prop where
  | built {gathered : Gathered application} (startup : stage = .startup)
      (built : BusBuilt given gathered visits) :
      Tells application given stage visits failure (.failing ::
        (gatheredBus gathered).listeners.map (.telling · (createdIn visits) (some failure)))
  | unbuilt (reason : stage = .running ∨
      ∀ gathered : Gathered application, ¬ BusBuilt given gathered visits) :
      Tells application given stage visits failure []

/-- How the replies of a failed run fall into its course, the resolution of the exit code, and the
rest of what follows the failure. -/
structure FailedPath (application : Application) (given : List String) (error : RunError)
    (course rest : List Reply) : Prop where
  walk : ∃ found : Found application,
    Walk (itinerary given found) (visitsOf course) (.failed error.failure.cause)
  noEarlierMilestone : milestonesOf course = []
  noLaterVisit : visitsOf rest = []
  settles : ∃ told reports,
    Tells application given error.stage (visitsOf course) error.failure.cause.toFailure told ∧
    Reports reports ∧
    milestonesOf rest =
      announcingMilestones (createdIn (visitsOf course)) error.failure.exitCode ++ told ++
        reports ++ (createdIn (visitsOf course)).toList.map .closing

/-- The reply in which the exit code of a failed run is resolved. -/
def resolution (error : RunError) (course : List Reply) : Reply :=
  ⟨.resolveExitCode (createdIn (visitsOf course)) error.failure.cause.toFailure,
    .ok error.failure.exitCode⟩

variable {application : Application} {given : List String}

/-- Whatever was gathered, the itinerary goes on from there. -/
theorem exists_found (given : List String) (gathered : Gathered application) :
    ∃ found : Found application, found.toGathered = gathered := by
  let start : Launch := { bus := gatheredBus gathered, settings := application.settings }
  have fresh : start.bus.phase = none := rfl
  obtain ⟨_, _, _, _, -, -, -, found, same, -⟩ :=
    Plan.Follows.possible (launch_follows fresh gathered given)
  exact ⟨found, same⟩

/-- A run that fails before it has a bus. -/
theorem failedPath_of_makeReady {cause : LaunchError} {course after : List Reply}
    {outcome : Outcome}
    (ready : ((application.makeReady given).run.run ()).Path course (some (.error cause, ())))
    (failing : (application.failStartup none cause).Path after (some outcome)) :
    ∃ error rest, outcome.result = .error error ∧ after = resolution error course :: rest ∧
      FailedPath application given error course rest := by
  obtain ⟨failure, rfl, rfl, handled⟩ := application.path_failStartup failing
  obtain ⟨-, rest, rfl, silent, reports, reported, settled⟩ :=
    application.path_handleFailure handled
  obtain ⟨_, _, ⟨_, _, -, gathered, -, rfl⟩, walk⟩ :=
    Plan.Follows.fails (application.makeReady_follows given) ready rfl
  have plain := application.makeReady_plain given () _ _ ready
  have noContainer := (visitsOf_of_isPlain plain).2
  refine ⟨_, rest, rfl, by simp [resolution, noContainer], ?_, milestonesOf_of_isPlain plain,
    silent, [], reports, .unbuilt (.inr fun other built => ?_), reported, ?_⟩
  · obtain ⟨found, rfl⟩ := exists_found given gathered
    refine ⟨found, ?_⟩
    rw [itinerary, List.append_assoc]
    exact walk.extend nofun
  · exact walk.not_prefix_of_failed (length_readyStops given other gathered) built
  · simpa [noContainer, tellingMilestones] using settled

/-- A run that failed after its bus was built has entered a phase that `failed` may follow. -/
theorem failed_canFollow_lastPhase {replies : List Reply} {found : Found application}
    {listeners : List RunListener} {error : LaunchError}
    (walk : Walk (launchStops given listeners found) (visitsOf replies) (.failed error)) :
    LifecyclePhase.failed.canFollow (lastPhase (visitsOf replies)) = true := by
  have starts : Walk ({ station := .phase .starting } :: _) (visitsOf replies) (.failed error) :=
    walk
  obtain ⟨visit, rest, visits, at_starting⟩ := starts.first_of_failed
  have first : visit.phase? = some .starting := by
    rw [Visit.phase?, at_starting]
    rfl
  cases last : lastPhase (visitsOf replies) with
  | none =>
    rw [lastPhase, visits, List.filterMap_cons, first] at last
    simp at last
  | some phase =>
    obtain ⟨other, among, same⟩ := List.mem_filterMap.1 (List.mem_of_getLast? last)
    have regular := phase?_ne_failed among
    rw [same] at regular
    cases phase <;> first | rfl | exact absurd rfl regular

/-- The replies of a run up to the moment at which it has its bus. -/
structure Readied (application : Application) (given : List String)
    (gathered : Gathered application) (replies : List Reply) : Prop where
  walk : Walk (readyStops given gathered) (visitsOf replies) .completed
  plain : ∀ reply ∈ replies, reply.errand.isPlain = true

namespace Readied

variable {gathered : Gathered application} {before course : List Reply}

/-- A run that has its bus shows so in what it visits, whatever comes next. -/
theorem built (ready : Readied application given gathered before) :
    BusBuilt given gathered (visitsOf (before ++ course)) := by
  rw [BusBuilt, visitsOf_append, Walk.completed_iff.1 ready.walk]
  exact List.prefix_append _ _

/-- Before a run has its bus it makes no container. -/
theorem created (ready : Readied application given gathered before) :
    createdIn (visitsOf (before ++ course)) = createdIn (visitsOf course) := by
  rw [visitsOf_append, createdIn_append, (visitsOf_of_isPlain ready.plain).2, Option.or_none]

/-- Before a run has its bus it passes no milestone. -/
theorem milestones (ready : Readied application given gathered before) :
    milestonesOf (before ++ course) = milestonesOf course := by
  rw [milestonesOf_append, milestonesOf_of_isPlain ready.plain]
  rfl

end Readied

/-- The state of a run that has its bus and has dispatched nothing. -/
def launchOf (gathered : Gathered application) : Launch where
  bus := gatheredBus gathered
  settings := application.settings

/-- What a run has created on its way is the container that it has. -/
theorem Readied.created_of_launch {gathered : Gathered application} {before course : List Reply}
    {ended : Except LaunchError ContainerRef} {reached : Launch}
    (ready : Readied application given gathered before)
    (launched : ((application.launch gathered.store given).run.run (launchOf gathered)).Path course
      (some (ended, reached))) : createdIn (visitsOf (before ++ course)) = reached.created := by
  obtain ⟨-, tracked⟩ := application.launch_tracks _ given _ _ _ launched
  rw [ready.created, (tracked _ _ rfl).created]
  exact Option.or_none.symm

/-- Nothing is created while the listeners are told that the application is running. -/
theorem Readied.created_of_running {gathered : Gathered application}
    {before course telling : List Reply} {container : ContainerRef} {reached : Launch}
    {dispatched : LifecycleBus.Dispatched Unit} (ready : Readied application given gathered before)
    (launched : ((application.launch gathered.store given).run.run (launchOf gathered)).Path course
      (some (.ok container, reached)))
    (told : (reached.bus.give (.running container)).Path telling (some dispatched)) :
    createdIn (visitsOf (before ++ course ++ telling)) = some container := by
  obtain ⟨-, toldTracked⟩ := give_tracks (.running container) _ _ _ (LaunchM.path_dispatch told)
  have stays : reached.created = (createdIn (visitsOf telling)).or reached.created :=
    (toldTracked _ _ rfl).created
  obtain ⟨_, ⟨_, _, same, -, left, -⟩, -⟩ :=
    Plan.Follows.completes (launch_follows rfl gathered given) launched rfl
  cases same
  rw [visitsOf_append, createdIn_append, ready.created_of_launch launched, ← stays, left]

/-- A run that fails on the way from `starting` to the last runner. -/
theorem failedPath_of_launch {gathered : Gathered application} {reached : Launch}
    {cause : LaunchError} {before course after : List Reply} {outcome : Outcome}
    (ready : Readied application given gathered before)
    (launched : ((application.launch gathered.store given).run.run (launchOf gathered)).Path course
      (some (.error cause, reached)))
    (failing : (application.failStartup (some reached) cause).Path after (some outcome)) :
    ∃ error rest, outcome.result = .error error ∧
      after = resolution error (before ++ course) :: rest ∧
      FailedPath application given error (before ++ course) rest := by
  obtain ⟨failure, rfl, rfl, handled⟩ := application.path_failStartup failing
  obtain ⟨-, rest, rfl, silent, reports, reported, settled⟩ :=
    application.path_handleFailure handled
  obtain ⟨noMilestone, tracked⟩ := application.launch_tracks _ given _ _ _ launched
  have track := tracked _ _ rfl
  obtain ⟨_, _, ⟨_, _, -, -, -, found, rfl, -, -, rfl⟩, walk⟩ :=
    Plan.Follows.fails (launch_follows rfl gathered given) launched rfl
  have created := ready.created_of_launch launched
  have accepts : LifecyclePhase.failed.canFollow reached.bus.phase = true := by
    have phase : reached.bus.phase = (lastPhase (visitsOf course)).or none := track.phase
    rw [phase, Option.or_none]
    exact failed_canFollow_lastPhase walk
  refine ⟨_, rest, rfl, by rw [resolution, created]; rfl, ?_⟩
  refine ⟨⟨found, ?_⟩, ready.milestones.trans noMilestone, silent, _, reports,
    .built rfl ready.built, reported, ?_⟩
  · rw [itinerary, visitsOf_append]
    exact (ready.walk.append walk).extend nofun
  · rw [settled, created]
    simp [tellingMilestones, LifecycleBus.tellingMilestones, accepts, track.listeners, launchOf]

/-- A run that fails while its listeners are told that it is running. -/
theorem failedPath_of_running {gathered : Gathered application} {reached : Launch}
    {container : ContainerRef} {before course after : List Reply} {outcome : Outcome}
    {error : RunError} (ready : Readied application given gathered before)
    (launched : ((application.launch gathered.store given).run.run (launchOf gathered)).Path course
      (some (.ok container, reached)))
    (running : (application.announceRunning container reached).Path after (some outcome))
    (failed : outcome.result = .error error) :
    ∃ telling rest, after = telling ++ resolution error (before ++ course ++ telling) :: rest ∧
      FailedPath application given error (before ++ course ++ telling) rest := by
  obtain ⟨dispatched, telling, _, rfl, told, ⟨-, -, rfl⟩ | ⟨failure, ended, rfl, handled⟩⟩ :=
    application.path_announceRunning running
  · cases failed
  cases failed
  obtain ⟨-, rest, rfl, silent, reports, reported, settled⟩ :=
    application.path_handleFailure handled
  obtain ⟨noMilestone, tracked⟩ := application.launch_tracks _ given _ _ _ launched
  have track := tracked _ _ rfl
  have created := ready.created_of_running launched told
  obtain ⟨_, ⟨_, _, same, started, -, found, rfl, rfl, -, rfl⟩, walk⟩ :=
    Plan.Follows.completes (launch_follows rfl gathered given) launched rfl
  cases same
  obtain ⟨noneTelling, -⟩ :=
    give_tracks (.running found.container) _ _ _ (LaunchM.path_dispatch told)
  have walkTelling : Walk (noticeStops reached.bus.listeners (.running found.container))
      (visitsOf telling) (.failed failure.cause) := by
    obtain ⟨_, _, ⟨-, -, rfl⟩, walk⟩ := Plan.Follows.fails
      (LifecycleBus.give_follows (by rw [started]; rfl)) told (by rw [ended]; rfl)
    exact walk
  -- Being started, the run is past its startup, so no listener is told of the failure.
  refine ⟨telling, rest, by rw [resolution, created], ⟨found, ?_⟩, ?_, silent, [],
    reports, .unbuilt (.inl rfl), reported, ?_⟩
  · rw [visitsOf_append, visitsOf_append]
    have bus : reached.bus.listeners = (gatheredBus found.toGathered).listeners :=
      track.listeners
    rw [bus] at walkTelling
    exact (ready.walk.append walk).append walkTelling
  · rw [List.append_assoc, ready.milestones, milestonesOf_append, noMilestone, noneTelling]
    rfl
  · rw [created]
    simpa [tellingMilestones] using settled

/-- Every failed run falls into a course along its itinerary, up to the failed call, and what
follows the failure. -/
theorem failedPath_of_plan {replies : List Reply} {outcome : Outcome} {error : RunError}
    (path : (application.plan given).Path replies (some outcome))
    (failed : outcome.result = .error error) :
    ∃ course rest, replies = course ++ resolution error course :: rest ∧
      FailedPath application given error course rest := by
  obtain ⟨⟨cause | ⟨store, bus⟩, _⟩, before, after, ready, onward, rfl⟩ :=
    path_bind_some_iff.1 path
  · obtain ⟨reached, rest, same, rfl, failedPath⟩ := failedPath_of_makeReady ready onward
    rw [failed] at same
    cases same
    exact ⟨before, rest, rfl, failedPath⟩
  · obtain ⟨_, ⟨_, _, same, gathered, rfl, rfl⟩, walk⟩ :=
      Plan.Follows.completes (application.makeReady_follows given) ready rfl
    cases same
    have readied : Readied application given gathered before :=
      ⟨walk, application.makeReady_plain given () _ _ ready⟩
    obtain ⟨⟨cause | container, reached⟩, course, _, launched, ending, rfl⟩ :=
      path_bind_some_iff.1 onward
    · obtain ⟨_, rest, same, rfl, failedPath⟩ := failedPath_of_launch readied launched ending
      rw [failed] at same
      cases same
      exact ⟨before ++ course, rest, by simp, failedPath⟩
    · obtain ⟨telling, rest, rfl, failedPath⟩ :=
        failedPath_of_running readied launched ending failed
      exact ⟨before ++ course ++ telling, rest, by simp, failedPath⟩

/-- A run that succeeds does nothing that belongs to a failure. -/
theorem milestonesOf_of_ok {replies : List Reply} {outcome : Outcome} {container : ContainerRef}
    (path : (application.plan given).Path replies (some outcome))
    (succeeded : outcome.result = .ok container) : milestonesOf replies = [] := by
  obtain ⟨⟨cause | ⟨store, bus⟩, _⟩, before, after, ready, onward, rfl⟩ :=
    path_bind_some_iff.1 path
  · obtain ⟨failure, -, rfl, -⟩ := application.path_failStartup onward
    cases succeeded
  · have plain := application.makeReady_plain given () _ _ ready
    obtain ⟨⟨cause | container, reached⟩, course, _, launched, ending, rfl⟩ :=
      path_bind_some_iff.1 onward
    · obtain ⟨failure, -, rfl, -⟩ := application.path_failStartup ending
      cases succeeded
    · obtain ⟨noMilestone, -⟩ := application.launch_tracks _ given _ _ _ launched
      obtain ⟨dispatched, telling, _, rfl, told, ⟨-, rfl, -⟩ | ⟨failure, -, rfl, -⟩⟩ :=
        application.path_announceRunning ending
      · obtain ⟨noneTelling, -⟩ :=
          give_tracks (.running container) _ _ _ (LaunchM.path_dispatch told)
        simp [milestonesOf_of_isPlain plain, noMilestone, noneTelling]
      · cases succeeded

/-- The execution of a run. -/
def execution (invoke : Invoker) (application : Application) (given : List String)
    (world : World) : Execution Outcome :=
  (application.plan given).execution invoke world

/-- A run ends as its execution does. -/
theorem run_eq_execution (invoke : Invoker) (application : Application) (given : List String)
    (world : World) :
    (application.run invoke given).run.run world =
      ((application.execution invoke given world).result,
        (application.execution invoke given world).world) :=
  run_carryOut invoke (application.plan given) world

/-- The record of a failed run: its course, which ends with the call that failed; the exit code,
which is resolved for the error of that call in the world that the course left; and what follows.
There the exit code is announced on the container that was created, unless it is zero; each listener
is told if the run failed at startup and had its bus; the failure is reported; and the container is
closed. Under the behaviour of participants every errand on the way holds its dialogue, and no other
call is made. -/
theorem failed_run_settles {invoke : Invoker} {application : Application} {given : List String}
    {world : World} {error : RunError}
    (failed : ((application.run invoke given).run.run world).1.map (·.result) =
      .ok (.error error)) :
    ∃ (course rest : List Performed) (failedAt resolved : World),
      let visits := visitsOf (course.map (·.reply))
      let created := createdIn visits
      let cause := error.failure.cause
      let exitCode := error.failure.exitCode
      (application.execution invoke given world).record =
        course ++ ⟨failedAt, ⟨.resolveExitCode created cause.toFailure, .ok exitCode⟩, resolved⟩ ::
          rest ∧
      Performed.Chain invoke world course failedAt ∧
      Performed.Chain invoke resolved rest (application.execution invoke given world).world ∧
      (∀ (behaviour : Behaviour) (limit depth : Nat),
        invoke = behaviour.invoker (limit + 1) depth →
        Performed.Converse depth (application.execution invoke given world).record world
          (application.execution invoke given world).world) ∧
      (∃ (passed : List Stop) (station : Station),
        visits = passed.map .passed ++ [.failed station cause]) ∧
      (Container.resolveExitCode invoke created cause.toFailure).run.run failedAt =
        (.ok exitCode, resolved) ∧
      milestonesOf (course.map (·.reply)) = [] ∧
      ∃ told reports,
        Tells application given error.stage visits cause.toFailure told ∧ Reports reports ∧
        milestonesOf (rest.map (·.reply)) =
          (if exitCode ≠ 0 then created.toList.map (.publishing · (.exitCode exitCode)) else []) ++
            told ++ reports ++ created.toList.map .closing := by
  rw [run_eq_execution] at failed
  have path := path_execution invoke (application.plan given) world
  have chain := chain_execution invoke (application.plan given) world
  change Path _ (application.execution invoke given world).replies _ at path
  change Performed.Chain invoke world (application.execution invoke given world).record _ at chain
  cases ended : (application.execution invoke given world).result with
  | error abort =>
    rw [ended] at failed
    cases failed
  | ok outcome =>
    rw [ended] at failed
    change ((application.plan given).execution invoke world).result = _ at ended
    rw [ended] at path
    -- The path of the plan names the replies; the chain says in which world each of them was given.
    obtain ⟨courseReplies, restReplies, split, failedPath⟩ :=
      failedPath_of_plan path (Except.ok.inj failed)
    obtain ⟨course, others, record, rfl, same⟩ := List.map_eq_append_iff.1 split
    obtain ⟨performed, rest, rfl, resolution, rfl⟩ := List.map_eq_cons_iff.1 same
    have converses : ∀ (behaviour : Behaviour) (limit depth : Nat),
        invoke = behaviour.invoker (limit + 1) depth →
        Performed.Converse depth (application.execution invoke given world).record world
          (application.execution invoke given world).world := by
      rintro behaviour limit depth rfl
      exact chain.converse
    rw [record] at chain
    obtain ⟨failedAt, courseChain, found, carried, restChain⟩ := chain.split
    obtain ⟨before, reply, resolved⟩ := performed
    cases found
    cases resolution
    obtain ⟨_, walk⟩ := failedPath.walk
    obtain ⟨told, reports, tells, reported, settled⟩ := failedPath.settles
    exact ⟨course, rest, before, resolved, record, courseChain, restChain, converses,
      walk.visits_of_failed, carried, failedPath.noEarlierMilestone, told, reports, tells, reported,
      settled⟩

/-- An application without sources, with the listener that is declared by default. -/
def sourceless : Application where
  primarySources := []
  settings := { bannerMode := .off }
  catalog := .withDefaults
  coordinator := ⟨0⟩

/-- The error of a run without sources. -/
def sourcelessError : RunError where
  stage := .startup
  failure := { exitCode := 0, reportedBy := .log, cause := LaunchFault.noSources.alone }

/-- A run without sources fails, and its failure is settled. -/
theorem failed_run_settles_sourceless :
    ((sourceless.run (fun _ => throw .exhausted) []).run.run {}).1.map (·.result) =
      .ok (.error sourcelessError) ∧
    ∃ (course rest : List Performed) (failedAt resolved : World),
      (sourceless.execution (fun _ => throw .exhausted) [] {}).record =
        course ++ ⟨failedAt, resolution sourcelessError (course.map (·.reply)), resolved⟩ ::
          rest := by
  have failed : ((sourceless.run (fun _ => throw .exhausted) []).run.run {}).1.map (·.result) =
      .ok (.error sourcelessError) := by decide +kernel
  obtain ⟨course, rest, failedAt, resolved, record, -⟩ := failed_run_settles failed
  exact ⟨failed, course, rest, failedAt, resolved, record⟩

end Application

end Launchpad
