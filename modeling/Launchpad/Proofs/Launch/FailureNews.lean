import Launchpad.Proofs.Launch.Arrangement

/-!
# How listeners learn that a run failed

A run that failed before its container ran tells its application listeners so exactly once, by the
publishing listener. Everything else that a run does itself tells nobody of a failure, whatever the
participants answer. Without an active container all listeners are told, in order, also behind one
that fails; an active container tells its own listeners, up to the first that fails.
-/

namespace Launchpad

/-- Who is told by a call that a run failed, and the event. -/
def Call.failureNews? : Call → Option (Participant × ApplicationEvent)
  | onEvent participant (.failed container message) =>
    some (participant, .failed container message)
  | _ => none

/-- Who was told at a depth that a run failed, in order. -/
def World.failureNews (depth : Nat) (world : World) : List (Participant × ApplicationEvent) :=
  ((world.transcript depth).filterMap JournalEntry.call?).filterMap Call.failureNews?

/-- The news of a failure for some listeners. -/
def newsFor (event : ApplicationEvent) (listeners : List ApplicationListener) :
    List (Participant × ApplicationEvent) :=
  listeners.map (·.participant, event)

/-- The lines that are written tell what there was to tell. -/
theorem World.failureNews_of_writes {depth : Nat} {lines : List JournalEntry} {before after : World}
    (written : Writes depth lines before after) :
    after.failureNews depth = before.failureNews depth ++
      (lines.filterMap JournalEntry.call?).filterMap Call.failureNews? := by
  rw [failureNews, written, List.filterMap_append, List.filterMap_append]
  rfl

/-- Listeners that hear about a failure are told about it, each once. -/
theorem failureNews_calls (container : Option String) (message : String)
    (listeners : List ApplicationListener) :
    (listeners.map (ApplicationListener.hears (.failed container message))).filterMap
      Call.failureNews? = newsFor (.failed container message) listeners := by
  rw [List.filterMap_map, newsFor, ← List.filterMap_eq_map]
  rfl

/-- Nobody was told in between that a run failed. -/
def NoNews (depth : Nat) (before after : World) : Prop :=
  after.failureNews depth = before.failureNews depth

namespace NoNews

variable {depth : Nat} {before after : World}

/-- Without a line in the journal there is no news. -/
theorem of_journal (same : after.journal = before.journal) : NoNews depth before after := by
  rw [NoNews, World.failureNews, World.failureNews, World.transcript, World.transcript, same]

/-- Other calls bring no news. -/
theorem of_callsOnly (only : CallsOnly depth (·.failureNews?.isNone) before after) :
    NoNews depth before after := by
  obtain ⟨lines, written, others⟩ := only
  rw [NoNews, World.failureNews_of_writes written, List.append_right_eq_self]
  exact List.filterMap_eq_nil_iff.2 fun call among =>
    Option.isNone_iff_eq_none.1 (others call among)

theorem framing (depth : Nat) : RegistryFraming (NoNews depth) where
  refl _ := rfl
  trans start rest := rest.trans start
  aside _ journal := of_journal journal
  make _ := of_journal rfl
  advance _ _ _ _ := of_journal rfl

end NoNews

/-- Whether an errand tells application listeners that a run failed. -/
def Errand.isFailureNews : Errand → Bool
  | tellFailed listener .. => listener.isPublisher
  | publish _ (.failed ..) => true
  | _ => false

/-- An errand that is not about a failure makes no call that brings news of one. -/
theorem Errand.carryOut_only (invoke : Invoker) {errand : Errand}
    (other : errand.isFailureNews = false) :
    errand.carryOut (Invoker.only (·.failureNews?.isNone) invoke) = errand.carryOut invoke := by
  cases errand with
  | publish container event =>
    cases event with
    | failed => cases other
    | _ => rfl
  | tellFailed listener =>
    cases listener with
    | eventPublishing => cases other
    | _ => rfl
  | tell listener notice => cases notice <;> cases listener <;> rfl
  | build name construction =>
    cases construction with
    | runListener factory => cases factory <;> rfl
    | _ => rfl
  | _ => rfl

/-- An errand that is not about a failure brings no news of one. -/
theorem Errand.noNews (behaviour : Behaviour) (limit depth : Nat) {errand : Errand}
    (other : errand.isFailureNews = false) :
    Act.Respects (NoNews depth) (errand.carryOut (behaviour.invoker (limit + 1) depth)) := by
  intro world
  rw [← Errand.carryOut_only _ other]
  exact .of_callsOnly (((CallsOnly.framing depth _).running
    (behaviour.calls_only limit depth _)).respects_errand errand world)

/-- Whether a milestone tells application listeners that a run failed. -/
def Milestone.isFailureNews : Milestone → Bool
  | telling listener .. => listener.isPublisher
  | publishing _ (.failed ..) => true
  | _ => false

/-- The news of a failure at a reply. -/
def Reply.failureNews? (reply : Reply) : Option Milestone :=
  reply.errand.milestone?.filter Milestone.isFailureNews

/-- Only telling a listener is the milestone of that. -/
theorem Errand.eq_tellFailed {errand : Errand} {listener : RunListener}
    {container : Option ContainerRef} {failure : Option Failure}
    (told : errand.milestone? = some (.telling listener container failure)) :
    errand = .tellFailed listener container failure := by
  cases errand with
  | tellFailed => cases told; rfl
  | enterPhase _ phase => cases phase <;> cases told
  | _ => cases told

/-- An errand that tells nobody of a failure is no news of one. -/
theorem Errand.not_isFailureNews {reply : Reply} (none : reply.failureNews? = none) :
    reply.errand.isFailureNews = false := by
  obtain ⟨errand, answer⟩ := reply
  cases errand with
  | publish container event =>
    cases event with
    | failed => cases none
    | _ => rfl
  | tellFailed =>
    simpa [Reply.failureNews?, milestone?, Milestone.isFailureNews, isFailureNews] using none
  | _ => rfl

namespace Application

variable {invoke : Invoker} {application : Application} {given : List String} {world : World}

/-- The errands that tell of a failure are the milestones that do. -/
theorem failureNews_replies (replies : List Reply) :
    replies.filterMap Reply.failureNews? =
      (milestonesOf replies).filter Milestone.isFailureNews := by
  rw [milestonesOf, List.filter_filterMap]
  rfl

/-- A run that failed in its startup has told the publishing listener so, once. -/
theorem milestones_of_failed {outcome : Outcome} {failure : RunFailure}
    (publishes : application.PublishesOnce invoke)
    (ended : (application.execution invoke given world).result = .ok outcome)
    (failed : outcome.result = .error { stage := .startup, failure })
    (built : ∃ gathered : Gathered application,
      BusBuilt given gathered (application.execution invoke given world).visits) :
    (milestonesOf (application.execution invoke given world).replies).filter
        Milestone.isFailureNews =
      [.telling
        (.eventPublishing (application.audience (application.execution invoke given world).visits))
        (createdIn (application.execution invoke given world).visits)
        (some failure.cause.toFailure)] := by
  obtain ⟨course, resolved, rest, record, resolution, failedPath⟩ := record_of_failed ended failed
  have visits := visits_of_failed record resolution failedPath
  obtain ⟨found, walk⟩ := failedPath.walk
  obtain ⟨told, reports, tells, reported, settled⟩ := failedPath.settles
  -- Of the five kinds of milestones of a failed run only the telling is news, and one listener
  -- publishes it.
  have announcing : (announcingMilestones (createdIn (visitsOf (course.map (·.reply))))
      failure.exitCode).filter Milestone.isFailureNews = [] := by
    unfold announcingMilestones
    split
    · simp [Milestone.isFailureNews]
    · rfl
  have reporting : reports.filter Milestone.isFailureNews = [] :=
    List.filter_eq_nil_iff.2 fun milestone among => by
      simp [reported milestone among, Milestone.isFailureNews]
  have telling : told.filter Milestone.isFailureNews =
      [.telling
        (.eventPublishing (application.audience (application.execution invoke given world).visits))
        (createdIn (application.execution invoke given world).visits)
        (some failure.cause.toFailure)] := by
    rw [← visits] at tells walk
    cases tells with
    | @built gathered _ known =>
      rw [List.filter_cons_of_neg (by simp [Milestone.isFailureNews]), List.filter_map]
      change ((gatheredBus gathered).listeners.filter (·.isPublisher)).map _ = _
      rw [publishes.publishers known walk]
      rfl
    | unbuilt reason =>
      obtain running | never := reason
      · cases running
      · obtain ⟨gathered, known⟩ := built
        exact absurd known (never gathered)
  have closing : ((createdIn (visitsOf (course.map (·.reply)))).toList.map
      Milestone.closing).filter Milestone.isFailureNews = [] := by
    simp [List.filter_map, Function.comp_def, Milestone.isFailureNews]
  have resolves : (milestonesOf [resolved.reply]).filter Milestone.isFailureNews = [] := by
    rw [resolution]
    rfl
  rw [Execution.replies, record, List.map_append, List.map_cons, ← List.singleton_append,
    milestonesOf_append, milestonesOf_append, failedPath.noEarlierMilestone, settled]
  simp only [List.filter_append, resolves, announcing, telling, reporting, closing,
    List.nil_append, List.append_nil]

/-- The record of such a run falls into what came before the news, the news, and what came after;
nothing else tells anyone of a failure. -/
theorem news_of_failed {outcome : Outcome} {failure : RunFailure}
    (publishes : application.PublishesOnce invoke)
    (ended : (application.execution invoke given world).result = .ok outcome)
    (failed : outcome.result = .error { stage := .startup, failure })
    (built : ∃ gathered : Gathered application,
      BusBuilt given gathered (application.execution invoke given world).visits) :
    ∃ (earlier : List Performed) (telling : Performed) (later : List Performed),
      (application.execution invoke given world).record = earlier ++ telling :: later ∧
      telling.reply.errand = .tellFailed
        (.eventPublishing (application.audience (application.execution invoke given world).visits))
        (createdIn (application.execution invoke given world).visits)
        (some failure.cause.toFailure) ∧
      ∀ performed ∈ earlier ++ later, performed.reply.errand.isFailureNews = false := by
  have milestones := milestones_of_failed publishes ended failed built
  rw [← failureNews_replies, Execution.replies, ← List.nil_append [_]] at milestones
  obtain ⟨earlier, telling, later, record, before, shows, after⟩ :=
    Performed.split_last milestones
  obtain ⟨told, -⟩ := Option.filter_eq_some_iff.1 shows
  refine ⟨earlier, telling, later, record, Errand.eq_tellFailed told, fun performed among => ?_⟩
  apply Errand.not_isFailureNews
  obtain early | late := List.mem_append.1 among
  · exact List.filterMap_eq_nil_iff.1 before _ (List.mem_map_of_mem early)
  · exact List.filterMap_eq_nil_iff.1 after _ (List.mem_map_of_mem late)

end Application

/-- What comes of telling an audience, in the course of a run, that the run failed: who has learned
of a failure between the beginning and the end of the run, from calls that the run made itself. -/
structure NewsOfFailure (depth : Nat) (audience : List ApplicationListener)
    (created : Option ContainerRef) (cause : Option Failure) (earlier : List Performed)
    (telling : World) (answer : Except Failure Unit) (world last : World) : Prop where
  /-- Without an active container the whole audience, each once and in order, whatever any of them
  answers. -/
  direct : (∀ ref, created = some ref → (telling.container ref).isActive = false) →
    last.failureNews depth =
      world.failureNews depth ++ newsFor (failureEvent telling created cause) audience
  /-- With an active container the listeners of that, in order. Some are left out only if the last
  one that was told has failed. -/
  published : ∀ ref, created = some ref → (telling.container ref).isActive = true →
    ∃ told untold, (telling.container ref).listeners = told ++ untold ∧
      last.failureNews depth =
        world.failureNews depth ++ newsFor (failureEvent telling created cause) told ∧
      (untold ≠ [] → ∃ own, answer = .error own)
  /-- The audience is among the listeners of the container since that was loaded. -/
  attached : ∀ loading ∈ earlier, ∀ ref,
    loading.reply.errand = .tell (.eventPublishing audience) (.contextLoaded ref) →
    ref.index < loading.before.containers.length →
    (loading.before.container ref).listeners ++ audience <+: (telling.container ref).listeners

/-- What is told of a failure within one errand, put between errands that bring no news. -/
theorem NewsOfFailure.of_told {depth : Nat} {audience : List ApplicationListener}
    {created : Option ContainerRef} {cause : Option Failure} {earlier : List Performed}
    {world telling told last : World} {answer : Except Failure Unit} {lines : List JournalEntry}
    (before : NoNews depth world telling)
    (news : FailureTold depth audience created cause telling (.ok answer) lines)
    (written : Writes depth lines telling told) (after : NoNews depth told last)
    (attached : ∀ loading ∈ earlier, ∀ ref,
      loading.reply.errand = .tell (.eventPublishing audience) (.contextLoaded ref) →
      ref.index < loading.before.containers.length →
      (loading.before.container ref).listeners ++ audience <+:
        (telling.container ref).listeners) :
    NewsOfFailure depth audience created cause earlier telling answer world last := by
  have whole := after.trans ((World.failureNews_of_writes written).trans
    (congrArg (· ++ _) before))
  generalize reached : (Except.ok answer : Except Abort (Except Failure Unit)) = result at news
  cases news with
  | @directly result lines inactive called =>
    cases result with
    | error abort => cases reached
    | ok =>
      rw [called.calls_of_ok, failureEvent, failureNews_calls] at whole
      refine ⟨fun _ => whole, fun ref here active => ?_, attached⟩
      rw [inactive ref here] at active
      cases active
  | @published ref result lines here active asked =>
    subst reached
    obtain ⟨told, untold, split, calls, ends⟩ := asked.split
    rw [calls, failureEvent, failureNews_calls] at whole
    refine ⟨fun inactive => ?_, ?_, attached⟩
    · rw [inactive ref here] at active
      cases active
    · intro other same _
      rw [here] at same
      cases same
      refine ⟨told, untold, split, whole, fun more => ?_⟩
      obtain ⟨-, -, own, fails⟩ := ends more
      exact ⟨own, fails⟩

namespace Application

/-- A run that failed before its container ran, and after its bus was built, tells the audience of
its publishing listener once that it failed, with the identifier of its container, if it has made
one, and the message of what it failed with. Wherever the run failed, and whatever any listener
answers, all of them learn of it if the container is not active. An active container tells all its
listeners unless one of them fails. -/
theorem failure_told_once {behaviour : Behaviour} {limit depth : Nat} {application : Application}
    {given : List String} {world last : World} {outcome : Outcome} {failure : RunFailure}
    (publishes : application.PublishesOnce (behaviour.invoker (limit + 1) depth))
    (ran : (application.run (behaviour.invoker (limit + 1) depth) given).run.run world =
      (.ok outcome, last))
    (failed : outcome.result = .error { stage := .startup, failure })
    (built : ∃ gathered : Gathered application, BusBuilt given gathered
      (application.execution (behaviour.invoker (limit + 1) depth) given world).visits) :
    let execution := application.execution (behaviour.invoker (limit + 1) depth) given world
    let audience := application.audience execution.visits
    let created := createdIn execution.visits
    let cause := some failure.cause.toFailure
    ∃ (earlier : List Performed) (telling : Performed) (later : List Performed)
      (answer : Except Failure Unit),
      execution.record = earlier ++ telling :: later ∧
      telling.reply = ⟨.tellFailed (.eventPublishing audience) created cause, .ok answer⟩ ∧
      NewsOfFailure depth audience created cause earlier telling.before answer world last := by
  intro execution audience created cause
  rw [run_eq_execution, Prod.mk.injEq] at ran
  obtain ⟨ended, rfl⟩ := ran
  obtain ⟨earlier, telling, later, record, tells, others⟩ :=
    news_of_failed publishes ended failed built
  have chain := chain_execution (behaviour.invoker (limit + 1) depth) application given world
  have delivers := Application.delivers behaviour limit depth application given world
  have recorded : telling ∈ execution.record := by rw [record]; simp
  obtain ⟨answer, replied⟩ := Reply.eq_of_answered tells
    ((path_of_result ended).answered_of_some telling.reply (List.mem_map_of_mem recorded))
  obtain ⟨lines, news, written⟩ := delivers.failure telling recorded _ _ _ _ replied
  rw [record] at chain
  obtain ⟨_, start, rfl, carried, rest⟩ := chain.split
  have framing := (NoNews.framing depth).framing
  have before : NoNews depth world telling.before := start.respects framing fun performed among =>
    Errand.noNews behaviour limit depth (others performed (List.mem_append_left _ among))
  have after : NoNews depth telling.after execution.world := rest.respects framing
    fun performed among =>
      Errand.noNews behaviour limit depth (others performed (List.mem_append_right _ among))
  refine ⟨earlier, telling, later, answer, record, replied, .of_told before news written after ?_⟩
  intro loading among ref loads made
  obtain ⟨first, between, rfl⟩ := List.append_of_mem among
  exact delivers.attached first loading (between ++ telling :: later)
    (by rw [record, List.append_assoc]; rfl) audience ref loads made telling (by simp)

/-- An application with two listeners and a hook. -/
def announced : Application where
  primarySources := [.package "announced"]
  settings := { bannerMode := .off, registerShutdownHook := false }
  listeners := [{ participant := "first" }, { participant := "second" }]
  hooks := some "hooks"
  catalog := .withDefaults
  coordinator := ⟨0⟩

/-- The hook fails, before the refresh of the container or after it. The first listener fails when
it is told of that. -/
def hookFails (early : Bool) : Behaviour
  | .onEvent participant (.failed ..) =>
    if participant.name = "first" then .done (.error (.text "unavailable")) else .done (.ok ())
  | .onEvent .. => .done (.ok ())
  | .postProcess .. => if early then .done (.error (.text "unfinished")) else .done (.ok ())
  | .afterRefresh .. => .done (.error (.text "unfinished"))
  | _ => .panic "unexpected call"

/-- Whether a run fails in its startup. -/
def failsInStartup : Except Abort Outcome → Bool
  | .ok { result := .error { stage := .startup, failure := _ }, settings := _ } => true
  | _ => false

/-- A run fails in its startup if the test says that it does. -/
theorem failed_of_failsInStartup {result : Except Abort Outcome}
    (fails : failsInStartup result = true) :
    ∃ outcome failure, result = .ok outcome ∧
      outcome.result = .error { stage := .startup, failure } := by
  unfold failsInStartup at fails
  split at fails
  · exact ⟨_, _, rfl, rfl⟩
  · cases fails

/-- Both runs fail with a bus. The first tells both listeners so, the second only the one that
fails. -/
theorem announced_runs (early : Bool) :
    announced.PublishesOnce ((hookFails early).invoker 1 0) ∧
    ∃ outcome last failure,
      (announced.run ((hookFails early).invoker 1 0) []).run.run {} = (.ok outcome, last) ∧
      outcome.result = .error { stage := .startup, failure } ∧
      (∃ gathered : Gathered announced, BusBuilt [] gathered
        (announced.execution ((hookFails early).invoker 1 0) [] {}).visits) ∧
      last.calls.filterMap Call.failureNews? =
        if early then
          newsFor (.failed (some "application-1") "Context post-processing failed")
            announced.listeners
        else newsFor (.failed (some "application-1") "After-refresh hook failed")
          (announced.listeners.take 1) := by
  have fails : failsInStartup
      ((announced.run ((hookFails early).invoker 1 0) []).run.run {}).1 = true := by
    rw [run, plan, makeReady, makeBus_of_sorted _ rfl (by decide)]
    cases early <;> decide +kernel
  have routed : (announced.execution ((hookFails early).invoker 1 0) [] {}).visits.any
      (·.station.isRouted) = true := by
    rw [Application.execution, plan, makeReady, makeBus_of_sorted _ rfl (by decide)]
    cases early <;> decide +kernel
  have news : ((announced.run ((hookFails early).invoker 1 0) []).run.run {}).2.calls.filterMap
      Call.failureNews? =
      if early then
        newsFor (.failed (some "application-1") "Context post-processing failed")
          announced.listeners
      else newsFor (.failed (some "application-1") "After-refresh hook failed")
        (announced.listeners.take 1) := by
    rw [run, plan, makeReady, makeBus_of_sorted _ rfl (by decide)]
    cases early <;> decide +kernel
  refine ⟨⟨rfl, fun _ _ _ _ _ built => by cases built⟩, ?_⟩
  obtain ⟨outcome, failure, result, failed⟩ := failed_of_failsInStartup fails
  have ended := result
  rw [run_eq_execution] at ended
  exact ⟨outcome, _, failure, Prod.ext result rfl, failed, built_of_routed ended routed, news⟩

/-- A run fails before its container is active: every listener is told so, once. -/
theorem failure_told_once_unprepared :
    announced.PublishesOnce ((hookFails true).invoker 1 0) ∧
    ∃ outcome last failure,
      (announced.run ((hookFails true).invoker 1 0) []).run.run {} = (.ok outcome, last) ∧
      outcome.result = .error { stage := .startup, failure } ∧
      (∃ gathered : Gathered announced, BusBuilt [] gathered
        (announced.execution ((hookFails true).invoker 1 0) [] {}).visits) ∧
      last.calls.filterMap Call.failureNews? =
        newsFor (.failed (some "application-1") "Context post-processing failed")
          announced.listeners ∧
      ∃ earlier telling answer,
        NewsOfFailure 0
          (announced.audience (announced.execution ((hookFails true).invoker 1 0) [] {}).visits)
          (createdIn (announced.execution ((hookFails true).invoker 1 0) [] {}).visits)
          (some failure.cause.toFailure) earlier telling answer {} last := by
  obtain ⟨publishes, outcome, last, failure, ran, failed, built, news⟩ := announced_runs true
  obtain ⟨earlier, telling, -, answer, -, -, told⟩ := failure_told_once publishes ran failed built
  exact ⟨publishes, outcome, last, failure, ran, failed, built, news, earlier, telling.before,
    answer, told⟩

/-- A listener that fails keeps those behind it from learning that the run failed, if the container
is active. -/
theorem failure_withheld_by_failing_listener :
    announced.PublishesOnce ((hookFails false).invoker 1 0) ∧
    ∃ outcome last failure,
      (announced.run ((hookFails false).invoker 1 0) []).run.run {} = (.ok outcome, last) ∧
      outcome.result = .error { stage := .startup, failure } ∧
      (∃ gathered : Gathered announced, BusBuilt [] gathered
        (announced.execution ((hookFails false).invoker 1 0) [] {}).visits) ∧
      ∃ listener ∈ announced.listeners,
        ∀ event, (listener.participant, event) ∉ last.calls.filterMap Call.failureNews? := by
  obtain ⟨publishes, outcome, last, failure, ran, failed, built, news⟩ := announced_runs false
  refine ⟨publishes, outcome, last, failure, ran, failed, built,
    { participant := "second" }, by simp [announced], fun event => ?_⟩
  rw [news]
  simp [newsFor, announced]

end Application

end Launchpad
