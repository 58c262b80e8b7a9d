import Launchpad.Command
import Launchpad.Proofs.Catalog.Precedence
import Launchpad.Proofs.Launch.Preparation

/-!
# How the failure of a run is reported

A failed run reports its failure once. The factories of the reporters are called in the order of
their declaration. If all of them build a reporter, the reporters are asked by precedence, up to the
first that claims the failure. If none claims it, or if a factory fails, the failure is logged
instead, with the messages of everything that caused it. By then the exit code is resolved and the
cause is known, and whatever the reporters do changes neither.
-/

namespace Launchpad

open Plan

namespace ExceptionReporter

/-- The reply of a reporter that was asked about a failure. -/
def reply (failure : Failure) (claims : Bool) (reporter : ExceptionReporter) : Reply :=
  ⟨.report reporter.reporting failure, .ok claims⟩

/-- Factories that were called one after the other for a run with this container, and the reporters
that they built. -/
inductive Built (container : Option ContainerRef) :
    List (String × Participant) → List ExceptionReporter → List Reply → Prop where
  | nil : Built container [] [] []
  | cons {name : String} {factory : Participant} {entries : List (String × Participant)}
      {reporter : ExceptionReporter} {reporters : List ExceptionReporter} {replies : List Reply}
      (rest : Built container entries reporters replies) :
      Built container ((name, factory) :: entries) (reporter :: reporters)
        (⟨.buildReporter name factory container, .ok (.ok reporter)⟩ :: replies)

/-- What came of calling factories: either all of them built a reporter, or one of them failed, and
those behind it were not called. -/
inductive Attempted (container : Option ContainerRef) (entries : List (String × Participant)) :
    Except PluginError (List ExceptionReporter) → List Reply → Prop where
  | built {reporters : List ExceptionReporter} {building : List Reply}
      (builds : Built container entries reporters building) :
      Attempted container entries (.ok reporters) building
  | failed {earlier later : List (String × Participant)} {name : String} {factory : Participant}
      {reporters : List ExceptionReporter} {building : List Reply} {cause : Failure}
      (split : entries = earlier ++ (name, factory) :: later)
      (builds : Built container earlier reporters building) :
      Attempted container entries
        (.error { capability := Catalog.reporterCapability, name, cause })
        (building ++ [⟨.buildReporter name factory container, .ok (.error cause)⟩])

/-- A factory that built a reporter is followed by the others. -/
theorem Attempted.cons {container : Option ContainerRef} {entries : List (String × Participant)}
    {attempted : Except PluginError (List ExceptionReporter)} {replies : List Reply}
    (rest : Attempted container entries attempted replies) (name : String) (factory : Participant)
    (reporter : ExceptionReporter) :
    Attempted container ((name, factory) :: entries) (attempted.map (reporter :: ·))
      (⟨.buildReporter name factory container, .ok (.ok reporter)⟩ :: replies) := by
  cases rest with
  | built builds => exact .built builds.cons
  | @failed earlier _ _ _ _ _ _ split builds =>
    have longer : (name, factory) :: entries = ((name, factory) :: earlier) ++ _ :=
      congrArg _ split
    exact .failed longer builds.cons

/-- Building reporters goes through their factories up to the first that fails. -/
theorem attempted_of_path {container : Option ContainerRef} {entries : List (String × Participant)}
    {attempted : Except PluginError (List ExceptionReporter)} {replies : List Reply}
    (path : (Declarations.buildAll Catalog.reporterCapability
      (fun entry : String × Participant => Plan.ask (.buildReporter entry.1 entry.2 container))
      (entries.map fun entry => (entry.1, entry))).Path replies (some attempted)) :
    Attempted container entries attempted replies := by
  induction entries generalizing replies attempted with
  | nil =>
    obtain ⟨rfl, same⟩ := path_pure_iff.1 path
    cases same
    exact .built .nil
  | cons entry rest ih =>
    obtain ⟨name, factory⟩ := entry
    obtain ⟨answer, _, _, called, onward, rfl⟩ := path_bind_some_iff.1 path
    obtain rfl := path_ask_some_iff.1 called
    cases answer with
    | error cause =>
      obtain ⟨rfl, same⟩ := path_pure_iff.1 onward
      cases same
      exact .failed rfl .nil
    | ok reporter =>
      obtain ⟨others, _, _, building, done, rfl⟩ := path_bind_some_iff.1 onward
      have attempt := (ih building).cons name factory reporter
      cases others <;>
      · obtain ⟨rfl, same⟩ := path_pure_iff.1 done
        cases same
        rw [List.append_nil]
        exact attempt

/-- What came of asking reporters about a failure: either the first that claims it was the last that
was asked, or all of them declined. -/
inductive Consulted (failure : Failure) (reporters : List ExceptionReporter) :
    Option String → List Reply → Prop where
  | claimed {declining others : List ExceptionReporter} {claimant : ExceptionReporter}
      (split : reporters = declining ++ claimant :: others) :
      Consulted failure reporters (some claimant.name)
        (declining.map (·.reply failure false) ++ [claimant.reply failure true])
  | declined : Consulted failure reporters none (reporters.map (·.reply failure false))

/-- A reporter that declines is followed by the others. -/
theorem Consulted.cons {failure : Failure} {reporters : List ExceptionReporter}
    {claimed : Option String} {replies : List Reply}
    (rest : Consulted failure reporters claimed replies) (reporter : ExceptionReporter) :
    Consulted failure (reporter :: reporters) claimed
      (reporter.reply failure false :: replies) := by
  cases rest with
  | @claimed declining _ _ split =>
    have before : reporter :: reporters = (reporter :: declining) ++ _ := congrArg _ split
    exact .claimed before
  | declined => exact .declined

/-- Consulting reporters goes through them up to the first that claims the failure. -/
theorem consulted_of_path {failure : Failure} {reporters : List ExceptionReporter}
    {claimed : Option String} {replies : List Reply}
    (path : (Application.consultReporters failure reporters).Path replies (some claimed)) :
    Consulted failure reporters claimed replies := by
  induction reporters generalizing replies with
  | nil =>
    obtain ⟨rfl, same⟩ := path_pure_iff.1 path
    cases same
    exact .declined
  | cons reporter rest ih =>
    obtain ⟨claims, _, _, asked, onward, rfl⟩ := path_bind_some_iff.1 path
    obtain rfl := path_ask_some_iff.1 asked
    cases claims with
    | true =>
      obtain ⟨rfl, same⟩ := path_pure_iff.1 onward
      cases same
      exact .claimed (List.nil_append _).symm
    | false => exact (ih onward).cons reporter

end ExceptionReporter

open ExceptionReporter

/-- The default record of a failure: the application, the message of the failure, and the messages
of everything that caused it, outermost first. -/
def failureRecord (application : Application) (cause : LaunchError) : Reply :=
  ⟨.log .error "Application run failed" [
    ("application", application.name), ("error", cause.message),
    ("causes", Text.quotedList (cause.causes.map Fault.message))], .ok ()⟩

/-- The record that there are no reporters because the factory of one of them failed. -/
def unavailableRecord (error : PluginError) : Reply :=
  ⟨.log .warn "Exception reporters unavailable, falling back to log"
    [("error", error.toFailure.message)], .ok ()⟩

/-- How a failure is reported: by whom, and what is performed for it. -/
inductive Reported (application : Application) (container : Option ContainerRef)
    (cause : LaunchError) : ReportedBy → List Reply → Prop where
  /-- All factories build a reporter, and one of the reporters claims the failure. -/
  | claimed {reporters ranked : List ExceptionReporter} {name : String}
      {building asking : List Reply}
      (builds : Built container application.catalog.reporters.entries reporters building)
      (ranks : Ranked ExceptionReporter.order reporters ranked)
      (claims : Consulted cause.toFailure ranked (some name) asking) :
      Reported application container cause (.reporter name) (building ++ asking)
  /-- All factories build a reporter, and all reporters decline. -/
  | unclaimed {reporters ranked : List ExceptionReporter} {building asking : List Reply}
      (builds : Built container application.catalog.reporters.entries reporters building)
      (ranks : Ranked ExceptionReporter.order reporters ranked)
      (declines : Consulted cause.toFailure ranked none asking) :
      Reported application container cause .log
        (building ++ asking ++ [failureRecord application cause])
  /-- A factory fails, and no reporter is asked. -/
  | unavailable {error : PluginError} {building : List Reply}
      (fails : Attempted container application.catalog.reporters.entries (.error error) building) :
      Reported application container cause .log
        (building ++ [unavailableRecord error, failureRecord application cause])

namespace Application

variable {application : Application} {container : Option ContainerRef} {cause : LaunchError}
  {replies : List Reply}

/-- The reporters of a catalog come by precedence. -/
theorem attempted_of_reportersFor {catalog : Catalog}
    {available : Except PluginError (List ExceptionReporter)}
    (path : (catalog.reportersFor container).Path replies (some available)) :
    ∃ attempted, Attempted container catalog.reporters.entries attempted replies ∧
      available = attempted.map (byPrecedence ExceptionReporter.order) := by
  obtain ⟨attempted, _, _, building, done, rfl⟩ := path_bind_some_iff.1 path
  have attempt := attempted_of_path building
  cases attempted <;>
  · obtain ⟨rfl, same⟩ := path_pure_iff.1 done
    cases same
    exact ⟨_, by simpa using attempt, rfl⟩

/-- Once there are reporters they are asked, and the failure is logged if none of them claims it. -/
theorem reported_of_consultation {reporters : List ExceptionReporter} {reportedBy : ReportedBy}
    (path : (do
      match ← consultReporters cause.toFailure reporters with
      | some name => return .reporter name
      | none =>
        Plan.ask (.log .error "Application run failed" [
          ("application", application.name), ("error", cause.message),
          ("causes", Text.quotedList cause.causeMessages)])
        return .log : Plan ReportedBy).Path replies (some reportedBy)) :
    ∃ claimed asking, Consulted cause.toFailure reporters claimed asking ∧
      ((∃ name, claimed = some name ∧ reportedBy = .reporter name ∧ replies = asking) ∨
        claimed = none ∧ reportedBy = .log ∧
          replies = asking ++ [failureRecord application cause]) := by
  obtain ⟨claimed, asking, _, consulting, done, rfl⟩ := path_bind_some_iff.1 path
  refine ⟨claimed, asking, consulted_of_path consulting, ?_⟩
  cases claimed with
  | some name =>
    obtain ⟨rfl, same⟩ := path_pure_iff.1 done
    cases same
    exact .inl ⟨name, rfl, rfl, List.append_nil _⟩
  | none =>
    obtain ⟨_, _, _, logged, ends, rfl⟩ := path_bind_some_iff.1 done
    obtain rfl := path_ask_some_iff.1 logged
    obtain ⟨rfl, same⟩ := path_pure_iff.1 ends
    cases same
    exact .inr ⟨rfl, rfl, rfl⟩

/-- What is performed for a failure reports it. -/
theorem reported_of_path {reportedBy : ReportedBy}
    (path : (application.reportFailure container cause).Path replies (some reportedBy)) :
    Reported application container cause reportedBy replies := by
  obtain ⟨reporters, _, _, gathering, onward, rfl⟩ := path_bind_some_iff.1 path
  obtain ⟨available, building, _, gathered, handing, rfl⟩ := path_bind_some_iff.1 gathering
  obtain ⟨attempted, attempt, rfl⟩ := attempted_of_reportersFor gathered
  obtain ⟨claimed, asking, consulted, outcome⟩ := reported_of_consultation onward
  cases attempted with
  | ok built =>
    obtain ⟨rfl, same⟩ := path_pure_iff.1 handing
    cases same
    cases attempt with
    | built builds =>
      have ranks := byPrecedence_ranked ExceptionReporter.order built
      rw [List.append_nil]
      obtain ⟨name, rfl, rfl, rfl⟩ | ⟨rfl, rfl, rfl⟩ := outcome
      · exact .claimed builds ranks consulted
      · rw [← List.append_assoc]
        exact .unclaimed builds ranks consulted
  | error error =>
    obtain ⟨_, _, _, warned, done, rfl⟩ := path_bind_some_iff.1 handing
    obtain rfl := path_ask_some_iff.1 warned
    obtain ⟨rfl, same⟩ := path_pure_iff.1 done
    cases same
    -- Nobody is left to claim the failure.
    cases consulted with
    | claimed split => simp at split
    | declined =>
      obtain ⟨_, impossible, -⟩ | ⟨-, rfl, rfl⟩ := outcome
      · cases impossible
      · simpa [unavailableRecord] using Reported.unavailable attempt

/-! ## Nothing else reports -/

section Apart

open StepM.Within

variable (application : Application)

/-- A change of the state of a run makes no errand. -/
theorem setLaunch_apart (change : Launch → Launch) :
    StepM.Within Errand.isApart (modify change : LaunchM Unit) :=
  ofDone fun start => ⟨(.ok (), change start), rfl⟩

/-- Binding the settings reports nothing. -/
theorem bindSettings_apart (environment : Environment) :
    StepM.Within Errand.isApart (application.bindSettings environment) :=
  .bind (getLaunch_ordinary.mono Errand.isApart_of_isOrdinary) fun _ => .bind (ofAsk rfl) fun _ =>
    .bind (setLaunch_apart _) fun _ => ofCheck (.ofPure _)

/-- Preparing the environment reports nothing. -/
theorem prepareEnvironment_apart (store : StoreRef) (arguments : Arguments) :
    StepM.Within Errand.isApart (application.prepareEnvironment store arguments) := by
  have reading := getLaunch_ordinary.mono Errand.isApart_of_isOrdinary
  refine .bind reading fun _ => .bind (ofAsk rfl) fun _ => .bind ?_ fun _ => ?_
  · exact LaunchM.dispatch_within fun _ => LifecycleBus.dispatch_within rfl (fun _ _ _ => rfl)
      (fun _ => rfl) fun _ _ => .ofAsk rfl
  · exact .bind (ofCheck (.ofAsk rfl)) fun _ => .bind (application.bindSettings_apart _) fun _ =>
      .bind reading fun _ => ofPure _

/-- Creating the container reports nothing. -/
theorem createContainer_apart : StepM.Within Errand.isApart application.createContainer :=
  .bind (getLaunch_ordinary.mono Errand.isApart_of_isOrdinary) fun _ =>
    .bind (ofCheck (.ofAsk rfl)) fun _ => .bind (setLaunch_apart _) fun _ => ofPure _

/-- Preparing the container reports nothing. -/
theorem prepareContainer_apart (store : StoreRef) (container : ContainerRef)
    (environment : Environment) (arguments : Arguments) (banner : Option PrintedBanner) :
    StepM.Within Errand.isApart
      (application.prepareContainer store container environment arguments banner) :=
  .bind (ofAsk rfl) fun _ =>
    (application.fillContainer_ordinary _ _ _ _ _).mono Errand.isApart_of_isOrdinary

/-- On its way to the last runner a run reports nothing. -/
theorem launch_apart (store : StoreRef) (given : List String) :
    StepM.Within Errand.isApart (application.launch store given) := by
  refine .bind ((give_ordinary _).mono Errand.isApart_of_isOrdinary) fun _ => ?_
  refine .bind (ofCheck (.ofAsk rfl)) fun arguments => ?_
  refine .bind (application.prepareEnvironment_apart _ _) fun environment => ?_
  refine .bind ((application.printBanner_ordinary _).mono Errand.isApart_of_isOrdinary) fun _ => ?_
  refine .bind application.createContainer_apart fun container => .bind (ofAsk rfl) fun _ => ?_
  refine .bind (application.prepareContainer_apart _ _ _ _ _) fun _ => ?_
  exact (application.startContainer_ordinary _ _).mono Errand.isApart_of_isOrdinary

/-- Before it has a bus a run reports nothing. -/
theorem makeReady_apart (given : List String) :
    StepM.Within Errand.isApart (application.makeReady given) :=
  (application.makeReady_ordinary given).mono Errand.isApart_of_isOrdinary

end Apart

/-! ## Failed runs -/

variable {given : List String} {error : RunError}

/-- A failed run goes some way on which it reports nothing, and then handles its failure with the
container that it has created. -/
structure Handled (application : Application) (error : RunError) (course handling : List Reply) :
    Prop where
  apart : ∀ reply ∈ course, reply.errand.isApart = true
  handled : ∃ bus : Option LifecycleBus,
    (application.handleFailure (createdIn (visitsOf course)) bus error.failure.cause).Path handling
      (some error.failure)

/-- A run that fails goes through its course, and then handles the error. -/
theorem handled_of_plan {outcome : Outcome}
    (path : (application.plan given).Path replies (some outcome))
    (failed : outcome.result = .error error) :
    ∃ course handling, replies = course ++ handling ∧
      Handled application error course handling := by
  obtain ⟨⟨cause | ⟨store, bus⟩, _⟩, before, after, ready, onward, rfl⟩ :=
    path_bind_some_iff.1 path
  · have noContainer := (visitsOf_of_isPlain (application.makeReady_plain given () _ _ ready)).2
    obtain ⟨failure, rfl, rfl, handled⟩ := application.path_failStartup onward
    cases failed
    refine ⟨before, after, rfl, application.makeReady_apart given _ _ _ ready, none, ?_⟩
    rw [noContainer]
    exact handled
  · obtain ⟨_, ⟨_, _, same, gathered, rfl, rfl⟩, walk⟩ :=
      Plan.Follows.completes (application.makeReady_follows given) ready rfl
    cases same
    have readied : Readied application given gathered before :=
      ⟨walk, application.makeReady_plain given () _ _ ready⟩
    obtain ⟨⟨cause | container, reached⟩, course, ending, launched, ends, rfl⟩ :=
      path_bind_some_iff.1 onward
    all_goals
      have apart := List.forall_mem_append.2 ⟨application.makeReady_apart given _ _ _ ready,
        application.launch_apart _ _ _ _ _ launched⟩
    · obtain ⟨failure, rfl, rfl, handled⟩ := application.path_failStartup ends
      cases failed
      refine ⟨before ++ course, ending, by rw [List.append_assoc], apart, some reached.bus, ?_⟩
      rw [readied.created_of_launch launched]
      exact handled
    · obtain ⟨dispatched, telling, handling, rfl, told,
        ⟨-, -, rfl⟩ | ⟨failure, -, rfl, handled⟩⟩ := application.path_announceRunning ends
      · cases failed
      cases failed
      have further := List.forall_mem_append.2
        ⟨apart, (reached.bus.give_ordinary _).mono Errand.isApart_of_isOrdinary _ _ told⟩
      refine ⟨before ++ course ++ telling, handling, by simp only [List.append_assoc], further,
        none, ?_⟩
      rw [readied.created_of_running launched told]
      exact handled

/-- A failure is reported after its exit code was resolved, and nothing else that is done about it
reports it. -/
theorem reported_of_handleFailure {bus : Option LifecycleBus} {failure : RunFailure}
    (path : (application.handleFailure container bus failure.cause).Path replies (some failure)) :
    ∃ before reporting after, replies = before ++ reporting ++ after ∧
      Reported application container failure.cause failure.reportedBy reporting ∧
      (∀ reply ∈ before ++ after, reply.errand.isApart = true) ∧
      ⟨.resolveExitCode container failure.cause.toFailure, .ok failure.exitCode⟩ ∈ before := by
  obtain ⟨exitCode, resolving, _, resolved, settled, rfl⟩ := path_bind_some_iff.1 path
  obtain ⟨_, announcing, _, announced, notifies, rfl⟩ := path_bind_some_iff.1 settled
  obtain ⟨_, telling, _, told, reports, rfl⟩ := path_bind_some_iff.1 notifies
  obtain ⟨reportedBy, reporting, _, reported, closes, rfl⟩ := path_bind_some_iff.1 reports
  obtain ⟨_, closing, _, closed, done, rfl⟩ := path_bind_some_iff.1 closes
  obtain ⟨rfl, same⟩ := path_pure_iff.1 done
  have code : failure.exitCode = exitCode := congrArg (·.exitCode) (Option.some.inj same)
  have reporter : failure.reportedBy = reportedBy :=
    congrArg (·.reportedBy) (Option.some.inj same)
  refine ⟨resolving ++ announcing ++ telling, reporting, closing, by simp, ?_, ?_, ?_⟩
  · rw [reporter]
    exact reported_of_path reported
  · have resolves : ∀ reply ∈ resolving, reply.errand.isApart = true :=
      Within.ofAsk rfl _ _ resolved
    have announces :=
      (announceExitCode_ordinary _ _).mono Errand.isApart_of_isOrdinary _ _ announced
    have tells := (notifyListeners_ordinary _ _ _).mono Errand.isApart_of_isOrdinary _ _ told
    have closes := (closeContainer_ordinary _).mono Errand.isApart_of_isOrdinary _ _ closed
    simp only [List.forall_mem_append]
    exact ⟨⟨⟨resolves, announces⟩, tells⟩, closes⟩
  · rw [code, path_ask_some_iff.1 resolved]
    simp

/-- Every failed run is reported once: whatever the catalog declares and however its participants
behave, its record has one part in which the failure is reported as `Reported` says, and nowhere
else is a reporter built or asked or an error logged. Before that part the run has met its cause and
resolved its exit code, and these are what it fails with. -/
theorem failed_run_is_reported_once {invoke : Invoker} {application : Application}
    {given : List String} {world : World} {error : RunError}
    (failed : ((application.run invoke given).run.run world).1.map (·.result) =
      .ok (.error error)) :
    ∃ (earlier reporting later : List Reply) (passed : List Stop) (station : Station),
      let container := createdIn (visitsOf earlier)
      let failure := error.failure
      (application.execution invoke given world).replies = earlier ++ reporting ++ later ∧
      Reported application container failure.cause failure.reportedBy reporting ∧
      (∀ reply ∈ earlier ++ later, reply.errand.isOfReport = false) ∧
      visitsOf earlier = passed.map .passed ++ [.failed station failure.cause] ∧
      ⟨.resolveExitCode container failure.cause.toFailure, .ok failure.exitCode⟩ ∈ earlier := by
  rw [run_eq_execution] at failed
  cases ended : (application.execution invoke given world).result with
  | error abort =>
    rw [ended] at failed
    cases failed
  | ok outcome =>
    rw [ended] at failed
    have fails : outcome.result = .error error := Except.ok.inj failed
    obtain ⟨course, handling, split, apart, bus, handled⟩ :=
      handled_of_plan (path_of_result ended) fails
    have silent := (application.handleFailure_quiet _ _ _).silent handled
    obtain ⟨before, reporting, after, rfl, reported, quiet, resolved⟩ :=
      reported_of_handleFailure handled
    obtain ⟨_, walk⟩ := walk_of_result ended
    have failing : courseOf (.ok outcome) = .failed error.failure.cause := by
      simp [courseOf, Outcome.error?, fails]
    obtain ⟨passed, station, visits⟩ := (failing ▸ walk).visits_of_failed
    -- What the run has visited it has visited before it handles its failure.
    rw [Execution.visits, split, visitsOf_append, silent, List.append_nil] at visits
    rw [visitsOf_append, visitsOf_append, List.append_eq_nil_iff, List.append_eq_nil_iff] at silent
    have same : visitsOf (course ++ before) = visitsOf course := by
      rw [visitsOf_append, silent.1.1, List.append_nil]
    refine ⟨course ++ before, reporting, after, passed, station, ?_⟩
    dsimp only
    rw [same]
    refine ⟨by simp [split], reported, ?_, visits, List.mem_append_right _ resolved⟩
    rw [List.append_assoc]
    intro reply among
    simpa [Errand.isApart] using List.forall_mem_append.2 ⟨apart, quiet⟩ reply among

/-- An application without sources and with a reporter. -/
def overseen : Application :=
  { sourceless with
    catalog := { Catalog.withDefaults with
      reporters := Declarations.declare {} "console" { name := "console" } } }

/-- The reporter of an application claims every failure. -/
def consoleClaims : Behaviour
  | .buildReporter participant _ =>
    .done (.ok { name := participant.name, reporting := .custom participant })
  | .report .. => .done true
  | _ => .panic "unexpected call"

/-- The error of a run without sources that its reporter has claimed. -/
def claimedError : RunError where
  stage := .startup
  failure := {
    exitCode := 0, reportedBy := .reporter "console", cause := LaunchFault.noSources.alone }

/-- A run whose failure is claimed by a reporter on the console. -/
theorem failed_run_is_reported_once_overseen :
    ((overseen.run (consoleClaims.invoker 1 0) []).run.run {}).1.map (·.result) =
      .ok (.error claimedError) ∧
    ∃ earlier reporting later : List Reply,
      (overseen.execution (consoleClaims.invoker 1 0) [] {}).replies =
        earlier ++ reporting ++ later ∧
      Reported overseen (createdIn (visitsOf earlier)) LaunchFault.noSources.alone
        (.reporter "console") reporting ∧
      ∀ reply ∈ earlier ++ later, reply.errand.isOfReport = false := by
  have failed : ((overseen.run (consoleClaims.invoker 1 0) []).run.run {}).1.map (·.result) =
      .ok (.error claimedError) := by decide +kernel
  obtain ⟨earlier, reporting, later, _, _, record, reported, quiet, -⟩ :=
    failed_run_is_reported_once failed
  exact ⟨failed, earlier, reporting, later, record, reported, quiet⟩

end Application

end Launchpad
