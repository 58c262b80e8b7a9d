import Launchpad.Proofs.Launch.Order
import Launchpad.Proofs.Operation.Framing

/-!
# Going through the record of a run

The record of an execution holds every errand with the world that it found and the world that it
left. What holds at the start and is kept by every errand holds at the end; the record of a failed
run falls into the course up to the failed call, the resolution of the exit code, and what follows.
-/

namespace Launchpad

/-- Every errand of a plan that came to its end has answered. -/
theorem Plan.Path.answered_of_some {α : Type} {plan : Plan α} {replies : List Reply} {result : α}
    (path : plan.Path replies (some result)) :
    ∀ reply ∈ replies, ∃ answer, reply.answer = .ok answer := by
  generalize reached : some result = ending at path
  induction path with
  | done => exact fun _ among => absurd among List.not_mem_nil
  | answered _ ih =>
    intro reply among
    obtain rfl | later := List.mem_cons.1 among
    · exact ⟨_, rfl⟩
    · exact ih reached reply later
  | stopped => cases reached

/-- The reply of an errand that has answered. -/
theorem Reply.eq_of_answered {reply : Reply} {errand : Errand} (same : reply.errand = errand)
    (answered : ∃ answer, reply.answer = .ok answer) :
    ∃ answer : errand.Answer, reply = ⟨errand, .ok answer⟩ := by
  subst same
  obtain ⟨answer, answers⟩ := answered
  exact ⟨answer, by rw [← answers]⟩

namespace Performed

variable {invoke : Invoker}

/-- An errand that answered has been carried out to its end. -/
theorem Ran.answered {performed : Performed} (ran : performed.Ran invoke) {errand : Errand}
    (same : performed.reply.errand = errand)
    (answered : ∃ answer, performed.reply.answer = .ok answer) :
    ∃ answer, (errand.carryOut invoke).result performed.before = (.ok answer, performed.after) := by
  subst same
  obtain ⟨answer, answers⟩ := answered
  rw [Ran, answers] at ran
  exact ⟨answer, ran⟩

/-- What an errand did whose answer is known. -/
theorem Ran.replied {performed : Performed} (ran : performed.Ran invoke) {errand : Errand}
    {answer : Except Abort errand.Answer} (replied : performed.reply = ⟨errand, answer⟩) :
    (errand.carryOut invoke).result performed.before = (answer, performed.after) := by
  obtain ⟨before, reply, after⟩ := performed
  subst replied
  exact ran

/-- What holds of the beginning of a record and the world reached there, and is kept by every
errand, holds of the whole record. -/
theorem Chain.invariant (holds : List Performed → World → Prop) {record : List Performed}
    {world last : World} (chain : Chain invoke world record last) (start : holds [] world)
    (step : ∀ (earlier : List Performed) (performed : Performed) (later : List Performed),
      record = earlier ++ performed :: later → holds earlier performed.before →
      performed.Ran invoke → holds (earlier ++ [performed]) performed.after) :
    holds record last := by
  have onward : ∀ (rest earlier : List Performed) (world : World), record = earlier ++ rest →
      holds earlier world → Chain invoke world rest last → holds record last := by
    intro rest
    induction rest with
    | nil =>
      rintro earlier world whole reached rfl
      rwa [whole, List.append_nil]
    | cons performed rest ih =>
      rintro earlier world whole reached ⟨rfl, carried, chain⟩
      exact ih (earlier ++ [performed]) _ (by simp [whole])
        (step earlier performed rest whole reached carried) chain
  exact onward record [] world rfl start chain

/-- A record of which the last thing that is read off it is known falls into what came before, the
errand where that is read, and errands that show nothing. -/
theorem split_last {β : Type} {read : Reply → Option β} {record : List Performed} {reads : List β}
    {last : β} (shown : (record.map (·.reply)).filterMap read = reads ++ [last]) :
    ∃ (earlier : List Performed) (showing : Performed) (later : List Performed),
      record = earlier ++ showing :: later ∧
      (earlier.map (·.reply)).filterMap read = reads ∧ read showing.reply = some last ∧
      (later.map (·.reply)).filterMap read = [] := by
  rw [List.filterMap_map] at shown
  obtain ⟨before, after, rfl, early, late⟩ := List.filterMap_eq_append_iff.1 shown
  obtain ⟨silent, showing, later, rfl, none, reading, rest⟩ := List.filterMap_eq_cons_iff.1 late
  refine ⟨before ++ silent, showing, later, by simp, ?_, reading, ?_⟩
  · rw [List.filterMap_map, List.filterMap_append, early, List.filterMap_eq_nil_iff.2 none,
      List.append_nil]
  · rw [List.filterMap_map, rest]

end Performed

/-- The visits of an execution fall apart as its record does. -/
theorem Execution.visits_of_record {α : Type} {execution : Execution α}
    {earlier later : List Performed} (record : execution.record = earlier ++ later) :
    execution.visits = visitsOf (earlier.map (·.reply)) ++ visitsOf (later.map (·.reply)) := by
  rw [visits, replies, record, List.map_append, visitsOf_append]

/-- Only closing is the milestone of a close. -/
theorem Errand.eq_close {errand : Errand} {container : ContainerRef}
    (closes : errand.milestone? = some (.closing container)) : errand = .close container := by
  cases errand with
  | close => cases closes; rfl
  | enterPhase _ phase => cases phase <;> cases closes
  | _ => cases closes

namespace Application

variable {invoke : Invoker} {application : Application} {given : List String} {world : World}

/-- The path of a run that came to its end. -/
theorem path_of_result {outcome : Outcome}
    (ended : (application.execution invoke given world).result = .ok outcome) :
    (application.plan given).Path (application.execution invoke given world).replies
      (some outcome) := by
  have path := Plan.path_execution invoke (application.plan given) world
  change Plan.Path _ (application.execution invoke given world).replies
    (application.execution invoke given world).result.toOption at path
  rwa [ended] at path

/-- The walk of a run that came to its end. -/
theorem walk_of_result {outcome : Outcome}
    (ended : (application.execution invoke given world).result = .ok outcome) :
    ∃ found : Found application, Walk (itinerary given found)
      (application.execution invoke given world).visits (courseOf (.ok outcome)) :=
  application.walk_of_path (path_of_result ended)

/-- The record of a run leads from the world in which it began to the one that it left. -/
theorem chain_execution (invoke : Invoker) (application : Application) (given : List String)
    (world : World) :
    Performed.Chain invoke world (application.execution invoke given world).record
      (application.execution invoke given world).world :=
  Plan.chain_execution invoke (application.plan given) world

/-- The record of a failed run is its course, the resolution of its exit code, and what follows from
that. -/
theorem record_of_failed {outcome : Outcome} {error : RunError}
    (ended : (application.execution invoke given world).result = .ok outcome)
    (failed : outcome.result = .error error) :
    ∃ (course : List Performed) (resolved : Performed) (rest : List Performed),
      (application.execution invoke given world).record = course ++ resolved :: rest ∧
      resolved.reply = resolution error (course.map (·.reply)) ∧
      FailedPath application given error (course.map (·.reply)) (rest.map (·.reply)) := by
  obtain ⟨courseReplies, restReplies, split, failedPath⟩ :=
    failedPath_of_plan (path_of_result ended) failed
  obtain ⟨course, others, record, rfl, same⟩ := List.map_eq_append_iff.1 split
  obtain ⟨resolved, rest, rfl, resolution, rfl⟩ := List.map_eq_cons_iff.1 same
  exact ⟨course, resolved, rest, record, resolution, failedPath⟩

/-- Of all that follows a failure only the close closes the container. -/
theorem not_closing {given : List String} {stage : RunStage} {visits : List Visit}
    {failure : Failure} {told reports : List Milestone}
    (tells : Tells application given stage visits failure told) (reported : Reports reports)
    (container : Option ContainerRef) (exitCode : ExitCode) :
    ∀ milestone ∈ announcingMilestones container exitCode ++ told ++ reports,
      ∀ closed, milestone ≠ .closing closed := by
  rintro milestone among closed rfl
  obtain among | report := List.mem_append.1 among
  · obtain announcing | telling := List.mem_append.1 among
    · unfold announcingMilestones at announcing
      split at announcing <;> simp at announcing
    · cases tells with
      | built => simp at telling
      | unbuilt => simp at telling
  · cases reported _ report

/-- What follows a failure ends with the close of the container, if there is one. -/
theorem ending_of_failed {error : RunError} {course : List Reply} {rest : List Performed}
    (failedPath : FailedPath application given error course (rest.map (·.reply))) :
    ∃ (told reports : List Milestone) (between ending : List Performed),
      Tells application given error.stage (visitsOf course) error.failure.cause.toFailure told ∧
      Reports reports ∧ rest = between ++ ending ∧
      milestonesOf (between.map (·.reply)) =
        announcingMilestones (createdIn (visitsOf course)) error.failure.exitCode ++ told ++
          reports ∧
      ((createdIn (visitsOf course) = none ∧ ending = []) ∨
        ∃ (container : ContainerRef) (closing : Performed) (later : List Performed),
          createdIn (visitsOf course) = some container ∧ ending = closing :: later ∧
          closing.reply.errand = .close container ∧ milestonesOf (later.map (·.reply)) = []) := by
  obtain ⟨told, reports, tells, reported, settled⟩ := failedPath.settles
  cases created : createdIn (visitsOf course) with
  | none =>
    rw [created, Option.toList_none, List.map_nil, List.append_nil] at settled
    exact ⟨told, reports, rest, [], tells, reported, (List.append_nil _).symm, settled,
      .inl ⟨rfl, rfl⟩⟩
  | some container =>
    rw [created] at settled
    obtain ⟨between, closing, later, rfl, before, closes, after⟩ := Performed.split_last settled
    exact ⟨told, reports, between, closing :: later, tells, reported, rfl, before,
      .inr ⟨container, closing, later, rfl, rfl, Errand.eq_close closes, after⟩⟩

/-- The visits of a failed run are those of its course. -/
theorem visits_of_failed {error : RunError} {course : List Performed} {resolved : Performed}
    {rest : List Performed}
    (record : (application.execution invoke given world).record = course ++ resolved :: rest)
    (resolution : resolved.reply = resolution error (course.map (·.reply)))
    (failedPath : FailedPath application given error (course.map (·.reply)) (rest.map (·.reply))) :
    (application.execution invoke given world).visits = visitsOf (course.map (·.reply)) := by
  have silent : visitsOf (resolved.reply :: rest.map (·.reply)) = [] := by
    rw [resolution]
    exact failedPath.noLaterVisit
  rw [Execution.visits_of_record record, List.map_cons, silent, List.append_nil]

/-- A failed run closes the container that it has made, once, after everything else, and closes
nothing if it has made none. -/
theorem closing_of_failed {outcome : Outcome} {error : RunError}
    (ended : (application.execution invoke given world).result = .ok outcome)
    (failed : outcome.result = .error error) :
    (createdIn (application.execution invoke given world).visits = none ∧
      ∀ performed ∈ (application.execution invoke given world).record,
        ∀ container, performed.reply.errand ≠ .close container) ∨
    ∃ (container : ContainerRef) (first : List Performed) (closing : Performed)
      (later : List Performed),
      createdIn (application.execution invoke given world).visits = some container ∧
      (application.execution invoke given world).record = first ++ closing :: later ∧
      (∀ performed ∈ first, ∀ other, performed.reply.errand ≠ .close other) ∧
      closing.reply.errand = .close container ∧
      visitsOf (first.map (·.reply)) = (application.execution invoke given world).visits ∧
      milestonesOf (later.map (·.reply)) = [] ∧ visitsOf (later.map (·.reply)) = [] := by
  obtain ⟨course, resolved, rest, record, resolution, failedPath⟩ := record_of_failed ended failed
  obtain ⟨told, reports, between, ending, tells, reported, rfl, milestones, closes⟩ :=
    ending_of_failed failedPath
  have visits := visits_of_failed record resolution failedPath
  have silent : visitsOf (between.map (·.reply)) = [] ∧ visitsOf (ending.map (·.reply)) = [] := by
    have silent := failedPath.noLaterVisit
    rwa [List.map_append, visitsOf_append, List.append_eq_nil_iff] at silent
  have beginning : visitsOf ((course ++ resolved :: between).map (·.reply)) =
      visitsOf (course.map (·.reply)) := by
    have resolves : resolved.reply.visit? = none := by
      rw [resolution]
      rfl
    rw [List.map_append, List.map_cons, List.append_cons, visitsOf_append, visitsOf_append,
      silent.1, visitsOf_singleton, resolves]
    simp
  -- None of the three parts before the end closes anything, each for a reason of its own.
  have opens : ∀ performed ∈ course ++ resolved :: between, ∀ other,
      performed.reply.errand ≠ .close other := by
    intro performed among other same
    have closing : performed.reply.errand.milestone? = some (.closing other) := by rw [same]; rfl
    obtain early | here | late := by simpa using among
    · have quiet := List.filterMap_eq_nil_iff.1 failedPath.noEarlierMilestone _
        (List.mem_map_of_mem early)
      rw [closing] at quiet
      cases quiet
    · rw [here, resolution] at same
      cases same
    · have listed : .closing other ∈ milestonesOf (between.map (·.reply)) :=
        List.mem_filterMap.2 ⟨_, List.mem_map_of_mem late, closing⟩
      rw [milestones] at listed
      exact not_closing tells reported _ _ _ listed other rfl
  rw [visits]
  obtain ⟨uncreated, rfl⟩ | ⟨container, closing, later, created, rfl, same, after⟩ := closes
  · refine .inl ⟨uncreated, ?_⟩
    rw [record, List.append_nil]
    exact opens
  · refine .inr ⟨container, course ++ resolved :: between, closing, later, created,
      by simp [record], opens, same, beginning, after, ?_⟩
    have later := silent.2
    rw [List.map_cons, ← List.singleton_append, visitsOf_append, List.append_eq_nil_iff] at later
    exact later.2

/-- A run that succeeds closes nothing. -/
theorem not_close_of_ok {outcome : Outcome} {container : ContainerRef}
    (ended : (application.execution invoke given world).result = .ok outcome)
    (succeeded : outcome.result = .ok container) :
    ∀ performed ∈ (application.execution invoke given world).record,
      ∀ other, performed.reply.errand ≠ .close other := by
  intro performed among other same
  have quiet := List.filterMap_eq_nil_iff.1
    (milestonesOf_of_ok (path_of_result ended) succeeded) _ (List.mem_map_of_mem among)
  rw [same] at quiet
  cases quiet

/-- All calls of the order are made before anything is closed. -/
theorem beginning_of_execution {outcome : Outcome}
    (ended : (application.execution invoke given world).result = .ok outcome) :
    ∃ (first later : List Performed) (reached : World),
      (application.execution invoke given world).record = first ++ later ∧
      Performed.Chain invoke world first reached ∧
      (∀ performed ∈ first, ∀ other, performed.reply.errand ≠ .close other) ∧
      visitsOf (first.map (·.reply)) = (application.execution invoke given world).visits := by
  have chain := chain_execution invoke application given world
  cases result : outcome.result with
  | ok container =>
    exact ⟨_, [], _, (List.append_nil _).symm, chain, not_close_of_ok ended result, rfl⟩
  | error error =>
    obtain ⟨-, closes⟩ | ⟨container, first, closing, later, -, record, closes, -, visits, -⟩ :=
      closing_of_failed ended result
    · exact ⟨_, [], _, (List.append_nil _).symm, chain, closes, rfl⟩
    · rw [record] at chain
      obtain ⟨reached, chain, -⟩ := chain.split
      exact ⟨first, closing :: later, reached, record, chain, closes, visits⟩

/-- A run that succeeds has passed its whole itinerary, and leaves the settings and the container
that it found there. -/
theorem passed_of_ok {replies : List Reply} {outcome : Outcome} {container : ContainerRef}
    (path : (application.plan given).Path replies (some outcome))
    (succeeded : outcome.result = .ok container) :
    ∃ found : Found application, found.container = container ∧ found.settings = outcome.settings ∧
      visitsOf replies = (itinerary given found).map .passed := by
  have fine : outcome.error? = none := by rw [Outcome.error?, succeeded]
  obtain ⟨_, ⟨found, ended, settings, rfl⟩, walk⟩ :=
    (application.plan_follows given).completes path fine
  rw [succeeded] at ended
  cases ended
  exact ⟨found, rfl, settings.symm, Walk.completed_iff.1 walk⟩

/-- A run that fails while its listeners are told that it is running has passed everything
before. -/
theorem passed_of_running {replies : List Reply} {outcome : Outcome} {failure : RunFailure}
    (path : (application.plan given).Path replies (some outcome))
    (running : outcome.result = .error { stage := .running, failure }) :
    ∃ found : Found application,
      (readyStops given found.toGathered ++
        launchStops given (gatheredBus found.toGathered).listeners found).map .passed <+:
        visitsOf replies := by
  have startup : ∀ {launch cause after}, ¬ (application.failStartup launch cause).Path after
      (some outcome) := by
    intro launch cause after failing
    obtain ⟨_, -, rfl, -⟩ := application.path_failStartup failing
    cases running
  obtain ⟨⟨cause | ⟨store, bus⟩, _⟩, before, after, ready, onward, rfl⟩ :=
    Plan.path_bind_some_iff.1 path
  · exact absurd onward startup
  · obtain ⟨_, ⟨_, _, same, gathered, rfl, rfl⟩, early⟩ :=
      Plan.Follows.completes (application.makeReady_follows given) ready rfl
    cases same
    obtain ⟨⟨cause | container, reached⟩, course, telling, launched, ending, rfl⟩ :=
      Plan.path_bind_some_iff.1 onward
    · exact absurd ending startup
    · obtain ⟨_, ⟨_, _, -, -, -, found, rfl, -, -, rfl⟩, late⟩ :=
        Plan.Follows.completes (launch_follows rfl gathered given) launched rfl
      refine ⟨found, ?_⟩
      rw [visitsOf_append, visitsOf_append, Walk.completed_iff.1 early,
        Walk.completed_iff.1 late, List.map_append, ← List.append_assoc]
      exact List.prefix_append _ _

end Application

end Launchpad
