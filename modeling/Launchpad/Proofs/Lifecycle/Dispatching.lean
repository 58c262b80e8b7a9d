import Launchpad.Proofs.Launch.Order
import Launchpad.Proofs.Operation.Framing
import Mathlib.Tactic.IntervalCases

/-!
# What a lifecycle bus dispatches

Whoever holds a bus may ask it for any phase at any time. It accepts the phases of a run in their
order, and once one of them was accepted, the failure of the run as the last one. What it accepts,
it measures in one step, whatever its listeners answer; what it does not accept, it does not touch
anything for.
-/

namespace Launchpad

/-- The listener that an errand tells about a phase. -/
def Errand.listener? : Errand → Option RunListener
  | tell listener _ => some listener
  | showEnvironment listener .. => some listener
  | tellFailed listener .. => some listener
  | _ => none

/-- The step of measurement that an errand ends. -/
def Errand.finishedStep? : Errand → Option (Startup × StartupStep)
  | leavePhase startup step => some (startup, step)
  | _ => none

namespace LifecycleBus

/-- A dispatch that a bus is asked for. -/
inductive Request where
  | notice (notice : Notice)
  | environment (store : StoreRef) (environment : Environment)
  | failure (container : Option ContainerRef) (failure : Option Failure)

namespace Request

/-- The phase that is to be dispatched. -/
def phase : Request → LifecyclePhase
  | notice given => given.phase
  | environment .. => .environmentPrepared
  | failure .. => .failed

/-- The tags under which the phase is measured. -/
def tags : Request → List (String × String)
  | notice given => given.tags
  | environment .. => []
  | failure _ cause => failureTags cause

/-- The step in which the phase is measured. -/
def step (request : Request) : StartupStep where
  name := request.phase.stepName
  tags := request.tags

/-- Whether listeners that fail are passed over: they are told about the failure of the run. -/
def passesOver : Request → Bool
  | failure _ cause => cause.isSome
  | _ => false

/-- What a bus does when it is asked. -/
def plan (bus : LifecycleBus) : Request → Plan (Except LaunchError Unit × LifecycleBus)
  | notice given => do
    let dispatched ← bus.give given
    return (dispatched.result, dispatched.bus)
  | environment store shown => do
    let dispatched ← bus.showEnvironment store shown
    return (dispatched.result, dispatched.bus)
  | failure container cause => do
    let dispatched ← bus.tellFailed container cause
    return (dispatched.result, dispatched.bus)

/-- A listener is told what is dispatched: what was performed for that, and what it comes to. -/
inductive Tells : Request → RunListener → List Reply → Except Failure Unit → Prop where
  | notice {given listener answer} :
      Tells (.notice given) listener [⟨.tell listener given, .ok answer⟩] answer
  | environment {store environment listener shown left answer} :
      Tells (.environment store environment) listener
        [⟨.showEnvironment listener store shown, .ok (answer, left)⟩] answer
  | failure {container cause listener answer} (heeded : cause = none ∨ answer = .ok ()) :
      Tells (.failure container cause) listener
        [⟨.tellFailed listener container cause, .ok answer⟩] answer
  /-- The failure of a listener is only logged. -/
  | passedOver {container cause listener own} :
      Tells (.failure container (some cause)) listener
        [⟨.tellFailed listener container (some cause), .ok (.error own)⟩,
          ⟨.log .warn "Error handling failed" [("error", own.message)], .ok ()⟩] (.ok ())

/-- Listeners are told in order, up to the first that fails. -/
inductive Calls (request : Request) :
    List RunListener → List Reply → Except LaunchError Unit → Prop where
  | done : Calls request [] [] (.ok ())
  | next {listener rest replies others result} (told : request.Tells listener replies (.ok ()))
      (goesOn : Calls request rest others result) :
      Calls request (listener :: rest) (replies ++ others) result
  | failed {listener rest replies} {failure : Failure}
      (told : request.Tells listener replies (.error failure)) :
      Calls request (listener :: rest) replies
        (.error ((LaunchFault.listener request.phase).dueTo failure))

end Request

namespace Request

variable {request : Request} {listener : RunListener} {listeners : List RunListener}
  {replies : List Reply} {answer : Except Failure Unit} {result : Except LaunchError Unit}

/-- The listeners that were told, in order. -/
def toldIn (replies : List Reply) : List RunListener := replies.filterMap (·.errand.listener?)

@[simp] theorem toldIn_append (replies others : List Reply) :
    toldIn (replies ++ others) = toldIn replies ++ toldIn others := List.filterMap_append

/-- Telling a listener tells that listener only. -/
theorem Tells.told (tells : request.Tells listener replies answer) :
    toldIn replies = [listener] := by
  cases tells <;> rfl

/-- Telling a listener finishes no step. -/
theorem Tells.unfinished (tells : request.Tells listener replies answer) :
    replies.filterMap (·.errand.finishedStep?) = [] := by
  cases tells <;> rfl

/-- A listener that is told about the failure of the run does not fail. -/
theorem Tells.ok_of_passesOver (tells : request.Tells listener replies answer)
    (passes : request.passesOver = true) : answer = .ok () := by
  cases tells with
  | notice | environment => cases passes
  | failure heeded =>
    obtain rfl | rfl := heeded
    · cases passes
    · rfl
  | passedOver => rfl

/-- Calling listeners finishes no step. -/
theorem Calls.unfinished (calls : request.Calls listeners replies result) :
    replies.filterMap (·.errand.finishedStep?) = [] := by
  induction calls with
  | done => rfl
  | next told goesOn ih => rw [List.filterMap_append, told.unfinished, ih, List.append_nil]
  | failed told => exact told.unfinished

/-- All listeners are told and none has failed, or the last one that was told has failed. -/
theorem Calls.told (calls : request.Calls listeners replies result) :
    (toldIn replies = listeners ∧ result = .ok ()) ∨
      ∃ before listener behind earlier last failure,
        listeners = before ++ listener :: behind ∧ toldIn replies = before ++ [listener] ∧
        replies = earlier ++ last ∧ request.Tells listener last (.error failure) ∧
        result = .error ((LaunchFault.listener request.phase).dueTo failure) := by
  induction calls with
  | done => exact .inl ⟨rfl, rfl⟩
  | @next listener rest replies others result told goesOn ih =>
    rw [toldIn_append, told.told]
    obtain ⟨all, ends⟩ | ⟨before, other, behind, earlier, last, failure, rfl, called, rfl, fails,
      ends⟩ := ih
    · exact .inl ⟨by rw [all]; rfl, ends⟩
    · refine .inr ⟨listener :: before, other, behind, replies ++ earlier, last, failure, rfl, ?_,
        ?_, fails, ends⟩
      · rw [called]
        rfl
      · rw [List.append_assoc]
  | @failed listener rest replies failure told =>
    exact .inr ⟨[], listener, rest, [], replies, failure, rfl, told.told, rfl, told, rfl⟩

/-- If failing listeners are passed over, all are told. -/
theorem Calls.told_of_passesOver (calls : request.Calls listeners replies result)
    (passes : request.passesOver = true) : toldIn replies = listeners ∧ result = .ok () := by
  obtain all | ⟨_, _, _, _, _, _, _, _, _, fails, _⟩ := calls.told
  · exact all
  · cases fails.ok_of_passesOver passes

end Request

/-- The errands that give a step its tags. -/
def taggings (startup : Startup) : StartupStep → List (String × String) → List Errand
  | _, [] => []
  | step, (key, text) :: rest =>
    .tagPhase startup step key text :: taggings startup (step.tag key text) rest

/-- The errands with which the measurement of a phase begins. -/
def openings (startup : Startup) (request : Request) : List Errand :=
  .enterPhase startup request.phase ::
    taggings startup { name := request.phase.stepName } request.tags

section

variable {σ : Type} {invoke : Invoker} {world last : World} {record : List Performed}

/-- A step begins with its name and nothing else. -/
theorem begin_answer {startup : Startup} {name : String} {step : StartupStep}
    (begun : (startup.begin invoke name).result world = (.ok step, last)) :
    step = { name } := by
  cases startup with
  | watched participant =>
    obtain ⟨_, _, _, answered⟩ := Act.result_bind_ok_iff.1 begun
    cases answered
    rfl
  | discarded | buffered =>
    cases begun
    rfl

/-- A tag is added to the step. -/
theorem tag_answer {startup : Startup} {step tagged : StartupStep} {key text : String}
    (ran : (startup.tag invoke step key text).result world = (.ok tagged, last)) :
    tagged = step.tag key text := by
  cases startup with
  | watched participant =>
    obtain ⟨_, _, _, answered⟩ := Act.result_bind_ok_iff.1 ran
    cases answered
    rfl
  | discarded | buffered =>
    cases ran
    rfl

/-- A step gets all its tags, in order. -/
theorem performs_tagAll {startup : Startup} {step tagged : StartupStep}
    {tags : List (String × String)}
    (performs : (tagAll startup step tags).Performs invoke world record tagged last) :
    record.map (·.reply.errand) = taggings startup step tags ∧
      tagged = { step with tags := step.tags ++ tags } := by
  induction tags generalizing step world record with
  | nil =>
    obtain ⟨rfl, rfl, rfl⟩ := Plan.performs_pure_iff.1 performs
    exact ⟨rfl, by simp⟩
  | cons entry rest ih =>
    obtain ⟨key, text⟩ := entry
    obtain ⟨next, between, _, second, tells, goesOn, rfl⟩ := Plan.performs_bind_iff.1 performs
    obtain ⟨rfl, ran⟩ := Plan.performs_ask_iff.1 tells
    obtain rfl := tag_answer ran
    obtain ⟨errands, rfl⟩ := ih goesOn
    exact ⟨congrArg (_ :: ·) errands, by simp [StartupStep.tag]⟩

/-- Listeners are visited in order, up to the first that fails. -/
theorem performs_visit {request : Request} {call : σ → RunListener → Plan (Except Failure Unit × σ)}
    (tells : ∀ state listener world record answer left last,
      (call state listener).Performs invoke world record (answer, left) last →
      request.Tells listener (record.map (·.reply)) answer)
    {listeners : List RunListener} {state left : σ} {answer : Except Failure Unit}
    (performs : (visit call state listeners).Performs invoke world record (answer, left) last) :
    request.Calls listeners (record.map (·.reply))
      (answer.mapError (LaunchFault.listener request.phase).dueTo) := by
  induction listeners generalizing state world record with
  | nil =>
    obtain ⟨rfl, same, rfl⟩ := Plan.performs_pure_iff.1 performs
    cases same
    exact .done
  | cons listener rest ih =>
    obtain ⟨⟨told, handed⟩, between, first, second, called, goesOn, rfl⟩ :=
      Plan.performs_bind_iff.1 performs
    have heard := tells _ _ _ _ _ _ _ called
    rw [List.map_append]
    cases told with
    | ok => exact .next heard (ih goesOn)
    | error failure =>
      obtain ⟨rfl, same, rfl⟩ := Plan.performs_pure_iff.1 goesOn
      cases same
      rw [List.map_nil, List.append_nil]
      exact .failed heard

/-- A dispatch that a bus has come to the end of. -/
structure Dispatch where
  request : Request
  /-- The bus as it was asked. -/
  bus : LifecycleBus
  before : World
  record : List Performed
  result : Except LaunchError Unit
  /-- The bus as it was left. -/
  left : LifecycleBus
  after : World

namespace Dispatch

/-- The bus did what it was asked for, with the participants as they are. -/
def Ran (invoke : Invoker) (dispatch : Dispatch) : Prop :=
  (dispatch.request.plan dispatch.bus).Performs invoke dispatch.before dispatch.record
    (dispatch.result, dispatch.left) dispatch.after

/-- Whether the phase may follow the last one. -/
def accepted (dispatch : Dispatch) : Bool :=
  dispatch.request.phase.canFollow dispatch.bus.phase

/-- The replies to the errands of a dispatch. -/
def replies (dispatch : Dispatch) : List Reply := dispatch.record.map (·.reply)

/-- A dispatch that was not accepted: nothing was performed, and nothing has changed. -/
structure Rejected (dispatch : Dispatch) : Prop where
  record : dispatch.record = []
  result : dispatch.result =
    .error (LaunchFault.phaseOrder dispatch.bus.phase dispatch.request.phase).alone
  left : dispatch.left = dispatch.bus
  after : dispatch.after = dispatch.before

/-- What a dispatch has performed that was accepted: its measurement began, the listeners were told,
and its measurement ended. -/
structure Measured (invoke : Invoker) (dispatch : Dispatch) (opening calls : List Performed)
    (closing : Performed) : Prop where
  record : dispatch.record = opening ++ calls ++ [closing]
  opens : opening.map (·.reply.errand) = openings dispatch.bus.startup dispatch.request
  tells : dispatch.request.Calls dispatch.bus.listeners (calls.map (·.reply)) dispatch.result
  ends : closing.reply = ⟨.leavePhase dispatch.bus.startup dispatch.request.step, .ok ()⟩
  after : closing.after = dispatch.after
  finishes : (dispatch.bus.startup.finish invoke dispatch.request.step).result closing.before =
    (.ok (), dispatch.after)
  left : dispatch.left = { dispatch.bus with phase := some dispatch.request.phase }

end Dispatch

/-- A phase is dispatched: it is rejected, or the bus enters it. -/
theorem settle_dispatch {request : Request} {bus left : LifecycleBus} {state : σ}
    {call : σ → RunListener → Plan (Except Failure Unit × σ)} {result : Except LaunchError Unit}
    (tells : ∀ state listener world record answer handed last,
      (call state listener).Performs invoke world record (answer, handed) last →
      request.Tells listener (record.map (·.reply)) answer)
    (whole : (do
      let dispatched ← bus.dispatch request.phase request.tags state call
      return (dispatched.result, dispatched.bus)).Performs invoke world record (result, left)
        last) :
    let dispatch : Dispatch := ⟨request, bus, world, record, result, left, last⟩
    (dispatch.accepted = false ∧ dispatch.Rejected) ∨
      (dispatch.accepted = true ∧ ∃ opening calls closing,
        dispatch.Measured invoke opening calls closing) := by
  intro dispatch
  obtain ⟨dispatched, reached, record, _, performs, answers, rfl⟩ := Plan.performs_bind_iff.1 whole
  obtain ⟨rfl, same, rfl⟩ := Plan.performs_pure_iff.1 answers
  obtain ⟨rfl, rfl⟩ := Prod.mk.inj same
  unfold LifecycleBus.dispatch at performs
  split at performs
  · rename_i accepted
    obtain ⟨step, begun, _, _, enters, begins, rfl⟩ := Plan.performs_bind_iff.1 performs
    obtain ⟨rfl, ran⟩ := Plan.performs_ask_iff.1 enters
    obtain rfl := begin_answer ran
    obtain ⟨tagged, opened, first, _, tags, goesOn, rfl⟩ := Plan.performs_bind_iff.1 begins
    obtain ⟨errands, labelled⟩ := performs_tagAll tags
    obtain rfl : tagged = request.step := labelled
    obtain ⟨⟨answer, handed⟩, called, calls, _, visits, ends, rfl⟩ :=
      Plan.performs_bind_iff.1 goesOn
    obtain ⟨⟨⟩, closed, _, _, leaves, settles, rfl⟩ := Plan.performs_bind_iff.1 ends
    obtain ⟨rfl, finishes⟩ := Plan.performs_ask_iff.1 leaves
    obtain ⟨rfl, rfl, rfl⟩ := Plan.performs_pure_iff.1 settles
    have heard := performs_visit tells visits
    let entering : Performed :=
      ⟨world, ⟨.enterPhase bus.startup request.phase, .ok { name := request.phase.stepName }⟩,
        begun⟩
    let closing : Performed := ⟨called, ⟨.leavePhase bus.startup request.step, .ok ()⟩, last⟩
    refine .inr ⟨accepted, entering :: first, calls, closing, ?_⟩
    exact {
      record := by simp [dispatch, entering, closing]
      opens := congrArg (_ :: ·) errands
      tells := heard
      ends := rfl
      after := rfl
      finishes
      left := rfl }
  · rename_i refused
    obtain ⟨rfl, rfl, rfl⟩ := Plan.performs_pure_iff.1 performs
    exact .inl ⟨Bool.eq_false_iff.2 refused, rfl, rfl, rfl, rfl⟩

/-- Telling a listener that the run failed. -/
theorem performs_notifyFailed {container : Option ContainerRef} {cause : Option Failure}
    {listener : RunListener} {answer : Except Failure Unit}
    (performs : (notifyFailed container cause listener).Performs invoke world record answer last) :
    (Request.failure container cause).Tells listener (record.map (·.reply)) answer := by
  obtain ⟨told, between, _, second, asks, goesOn, rfl⟩ := Plan.performs_bind_iff.1 performs
  obtain ⟨rfl, -⟩ := Plan.performs_ask_iff.1 asks
  cases cause with
  | none =>
    have answers : (pure told : Plan (Except Failure Unit)).Performs invoke between second answer
        last := by cases told <;> exact goesOn
    obtain ⟨rfl, rfl, rfl⟩ := Plan.performs_pure_iff.1 answers
    exact .failure (.inl rfl)
  | some cause =>
    cases told with
    | ok =>
      obtain ⟨rfl, rfl, rfl⟩ := Plan.performs_pure_iff.1 goesOn
      exact .failure (.inr rfl)
    | error own =>
      obtain ⟨⟨⟩, _, _, _, logs, answers, rfl⟩ := Plan.performs_bind_iff.1 goesOn
      obtain ⟨rfl, -⟩ := Plan.performs_ask_iff.1 logs
      obtain ⟨rfl, rfl, rfl⟩ := Plan.performs_pure_iff.1 answers
      exact .passedOver

end

namespace Dispatch

variable {invoke : Invoker} {dispatch : Dispatch}

/-- A dispatch is rejected and changes nothing, or it is accepted and measured. -/
theorem rejected_or_measured (ran : dispatch.Ran invoke) :
    (dispatch.accepted = false ∧ dispatch.Rejected) ∨
      (dispatch.accepted = true ∧ ∃ opening calls closing,
        dispatch.Measured invoke opening calls closing) := by
  obtain ⟨request, bus, before, record, result, left, after⟩ := dispatch
  cases request with
  | notice given =>
    refine settle_dispatch ?_ ran
    intro _ listener world record answer _ last performs
    obtain ⟨told, _, _, _, asks, answers, rfl⟩ := Plan.performs_bind_iff.1 performs
    obtain ⟨rfl, -⟩ := Plan.performs_ask_iff.1 asks
    obtain ⟨rfl, same, rfl⟩ := Plan.performs_pure_iff.1 answers
    cases same
    exact .notice
  | environment store environment =>
    refine settle_dispatch ?_ ran
    intro shown listener world record answer handed last performs
    obtain ⟨rfl, -⟩ := Plan.performs_ask_iff.1 performs
    exact .environment
  | failure container cause =>
    refine settle_dispatch ?_ ran
    intro _ listener world record answer _ last performs
    obtain ⟨told, _, _, _, notifies, answers, rfl⟩ := Plan.performs_bind_iff.1 performs
    obtain ⟨rfl, same, rfl⟩ := Plan.performs_pure_iff.1 answers
    cases same
    rw [List.append_nil]
    exact performs_notifyFailed notifies

/-- The listeners that a dispatch has told, in order. -/
def told (dispatch : Dispatch) : List RunListener := Request.toldIn dispatch.replies

/-- The steps of measurement that a dispatch has finished, and where. -/
def finished (dispatch : Dispatch) : List (Startup × StartupStep) :=
  dispatch.replies.filterMap (·.errand.finishedStep?)

/-- What a bus does that accepts a dispatch. -/
structure Accepted (invoke : Invoker) (dispatch : Dispatch) : Prop where
  /-- The phase counts, whatever the listeners answered. -/
  left : dispatch.left = { dispatch.bus with phase := some dispatch.request.phase }
  /-- The listeners were told in order, each what was asked for, as long as none failed. -/
  calls : ∃ calls, calls <:+: dispatch.replies ∧
    dispatch.request.Calls dispatch.bus.listeners calls dispatch.result
  /-- All listeners were told, or those up to the first that failed, whose failure is the error. -/
  untilFailure : (dispatch.told = dispatch.bus.listeners ∧ dispatch.result = .ok ()) ∨
    ∃ before listener behind failure, dispatch.bus.listeners = before ++ listener :: behind ∧
      dispatch.told = before ++ [listener] ∧
      (∃ replies, replies <:+: dispatch.replies ∧
        dispatch.request.Tells listener replies (.error failure)) ∧
      dispatch.result = .error ((LaunchFault.listener dispatch.request.phase).dueTo failure)
  /-- Listeners that are told about the failure of the run cannot keep it from the others. -/
  toAll : dispatch.request.passesOver = true →
    dispatch.told = dispatch.bus.listeners ∧ dispatch.result = .ok ()
  /-- One step was finished, the one of the phase. -/
  finished : dispatch.finished = [(dispatch.bus.startup, dispatch.request.step)]
  /-- That was the last thing that was done. -/
  handed : ∃ earlier before, dispatch.record =
      earlier ++ [⟨before, ⟨.leavePhase dispatch.bus.startup dispatch.request.step, .ok ()⟩,
        dispatch.after⟩] ∧
    (dispatch.bus.startup.finish invoke dispatch.request.step).result before =
      (.ok (), dispatch.after)

/-- The beginning of a measurement tells nobody and finishes nothing. -/
theorem quiet_openings {opening : List Performed} {startup : Startup} {request : Request}
    (opens : opening.map (·.reply.errand) = openings startup request) :
    Request.toldIn (opening.map (·.reply)) = [] ∧
      (opening.map (·.reply)).filterMap (·.errand.finishedStep?) = [] := by
  have quiet : ∀ errand ∈ openings startup request,
      errand.listener? = none ∧ errand.finishedStep? = none := by
    have tagged : ∀ (tags : List (String × String)) (step : StartupStep),
        ∀ errand ∈ taggings startup step tags,
          errand.listener? = none ∧ errand.finishedStep? = none := by
      intro tags
      induction tags with
      | nil => exact fun _ _ among => absurd among List.not_mem_nil
      | cons entry rest ih =>
        rintro step errand (_ | ⟨_, among⟩)
        · exact ⟨rfl, rfl⟩
        · exact ih _ errand among
    rintro errand (_ | ⟨_, among⟩)
    · exact ⟨rfl, rfl⟩
    · exact tagged _ _ errand among
  have known : ∀ reply ∈ opening.map (·.reply),
      reply.errand.listener? = none ∧ reply.errand.finishedStep? = none := by
    intro reply among
    apply quiet
    rw [← opens]
    obtain ⟨performed, here, rfl⟩ := List.mem_map.1 among
    exact List.mem_map.2 ⟨performed, here, rfl⟩
  exact ⟨List.filterMap_eq_nil_iff.2 fun reply among => (known reply among).1,
    List.filterMap_eq_nil_iff.2 fun reply among => (known reply among).2⟩

/-- A dispatch that is measured was accepted. -/
theorem Measured.accepted {opening calls : List Performed} {closing : Performed}
    (measured : dispatch.Measured invoke opening calls closing) : dispatch.Accepted invoke := by
  obtain ⟨record, opens, tells, ends, after, finishes, left⟩ := measured
  obtain ⟨silent, unfinished⟩ := quiet_openings opens
  have replies : dispatch.replies =
      opening.map (·.reply) ++ calls.map (·.reply) ++ [closing.reply] := by
    simp [Dispatch.replies, record]
  have told : dispatch.told = Request.toldIn (calls.map (·.reply)) := by
    rw [Dispatch.told, replies, Request.toldIn_append, Request.toldIn_append, silent, ends]
    simp [Request.toldIn, Errand.listener?]
  have finished : dispatch.finished = [(dispatch.bus.startup, dispatch.request.step)] := by
    rw [Dispatch.finished, replies, List.filterMap_append, List.filterMap_append, unfinished,
      tells.unfinished, ends]
    rfl
  refine ⟨left, ⟨calls.map (·.reply), ?_, tells⟩, ?_, ?_, finished, ?_⟩
  · rw [replies]
    exact ⟨opening.map (·.reply), [closing.reply], rfl⟩
  · rw [told]
    obtain all | ⟨before, listener, behind, earlier, last, failure, split, called, parts, fails,
      result⟩ := tells.told
    · exact .inl all
    · refine .inr ⟨before, listener, behind, failure, split, called, ⟨last, ?_, fails⟩, result⟩
      rw [replies, parts]
      exact ⟨opening.map (·.reply) ++ earlier, [closing.reply], by simp⟩
  · rw [told]
    exact tells.told_of_passesOver
  · obtain ⟨before, reply, last⟩ := closing
    dsimp only at ends after
    subst ends after
    exact ⟨opening ++ calls, before, record, finishes⟩

/-- A dispatch that is rejected tells nobody and finishes no step. -/
theorem Rejected.silent (rejected : dispatch.Rejected) :
    dispatch.told = [] ∧ dispatch.finished = [] := by
  simp [told, finished, replies, rejected.record, Request.toldIn]

end Dispatch

/-- A bus is asked for dispatches, one after the other. In between anything may happen to the
world. -/
inductive Dispatches (invoke : Invoker) (start : LifecycleBus) :
    List Dispatch → LifecycleBus → Prop where
  | nil : Dispatches invoke start [] start
  | snoc {earlier last} (prior : Dispatches invoke start earlier last) (dispatch : Dispatch)
      (asked : dispatch.bus = last) (ran : dispatch.Ran invoke) :
      Dispatches invoke start (earlier ++ [dispatch]) dispatch.left

/-- The dispatches that were accepted. -/
def acceptedOf (history : List Dispatch) : List Dispatch := history.filter (·.accepted)

/-- The phases that were accepted. -/
def phasesOf (history : List Dispatch) : List LifecyclePhase :=
  (acceptedOf history).map (·.request.phase)

/-- Phases come in the order of a run, which a failure may end at any point but the first. -/
def InOrder (phases : List LifecyclePhase) : Prop :=
  phases <+: Application.runPhases ∨
    ∃ passed, passed ≠ [] ∧ passed <+: Application.runPhases ∧ phases = passed ++ [.failed]

/-- After some phases of a run comes the next one, or the failure of a run that has begun. -/
theorem next_of_canFollow {phases : List LifecyclePhase} {phase : LifecyclePhase}
    (begun : phases <+: Application.runPhases)
    (follows : phase.canFollow phases.getLast? = true) :
    phases ++ [phase] <+: Application.runPhases ∨ phases ≠ [] ∧ phase = .failed := by
  have short : phases.length ≤ 6 := begun.length_le
  rw [List.prefix_iff_eq_take.1 begun] at follows ⊢
  generalize phases.length = count at short follows ⊢
  interval_cases count <;> cases phase <;> revert follows <;> decide

/-- A phase that can follow the last one keeps the phases in order. -/
theorem InOrder.snoc {phases : List LifecyclePhase} {phase : LifecyclePhase}
    (inOrder : InOrder phases) (follows : phase.canFollow phases.getLast? = true) :
    InOrder (phases ++ [phase]) := by
  obtain begun | ⟨passed, _, _, rfl⟩ := inOrder
  · obtain goesOn | ⟨some, rfl⟩ := next_of_canFollow begun follows
    · exact .inl goesOn
    · exact .inr ⟨phases, some, begun, rfl⟩
  · rw [List.getLast?_append] at follows
    cases follows

/-- What holds of a history of dispatches on a new bus. -/
structure Lawful (invoke : Invoker) (start : LifecycleBus) (history : List Dispatch)
    (last : LifecycleBus) : Prop where
  /-- The phases that were accepted come in order. -/
  inOrder : InOrder (phasesOf history)
  /-- The last of them is where the bus is, which keeps its listeners. -/
  bus : last = { start with phase := (phasesOf history).getLast? }
  /-- Whatever was not accepted has called nobody, measured nothing and changed nothing. -/
  rejected : ∀ dispatch ∈ history, dispatch.accepted = false →
    dispatch.Rejected ∧ dispatch.told = [] ∧ dispatch.finished = []
  /-- Whatever was accepted has told the listeners of the bus and was measured. -/
  accepted : ∀ dispatch ∈ history, dispatch.accepted = true →
    dispatch.bus.listeners = start.listeners ∧ dispatch.Accepted invoke
  /-- The startup was handed one step for each. -/
  steps : history.flatMap Dispatch.finished =
    (acceptedOf history).map fun dispatch => (start.startup, dispatch.request.step)

variable {invoke : Invoker} {start last : LifecycleBus} {history : List Dispatch}

/-- One more dispatch, of the bus that the others have left, obeys the laws too. -/
theorem Lawful.snoc (lawful : Lawful invoke start history last) {dispatch : Dispatch}
    (asked : dispatch.bus = last) (ran : dispatch.Ran invoke) :
    Lawful invoke start (history ++ [dispatch]) dispatch.left := by
  obtain ⟨inOrder, lastBus, rejected, accepted, steps⟩ := lawful
  have bus := asked.trans lastBus
  -- A dispatch that is rejected adds nothing to what the laws are about; an accepted one adds its
  -- phase and one finished step.
  obtain ⟨refused, unchanged⟩ | ⟨taken, opening, calls, closing, measured⟩ :=
    dispatch.rejected_or_measured ran
  · have same : acceptedOf (history ++ [dispatch]) = acceptedOf history := by
      simp [acceptedOf, refused]
    have phases : phasesOf (history ++ [dispatch]) = phasesOf history := by
      rw [phasesOf, same, phasesOf]
    refine ⟨by rwa [phases], by rw [phases, unchanged.left, bus], ?_, ?_, ?_⟩
    · intro other among declined
      obtain before | here := List.mem_append.1 among
      · exact rejected other before declined
      · obtain rfl := List.mem_singleton.1 here
        exact ⟨unchanged, unchanged.silent⟩
    · intro other among approved
      obtain before | here := List.mem_append.1 among
      · exact accepted other before approved
      · obtain rfl := List.mem_singleton.1 here
        rw [refused] at approved
        cases approved
    · rw [same, List.flatMap_append, steps]
      simp [unchanged.silent.2]
  · have more : acceptedOf (history ++ [dispatch]) = acceptedOf history ++ [dispatch] := by
      simp [acceptedOf, taken]
    have phases : phasesOf (history ++ [dispatch]) =
        phasesOf history ++ [dispatch.request.phase] := by
      rw [phasesOf, more, List.map_append, phasesOf]
      rfl
    have follows : dispatch.request.phase.canFollow (phasesOf history).getLast? = true := by
      have entered := taken
      rw [Dispatch.accepted, bus] at entered
      exact entered
    have right := measured.accepted
    refine ⟨?_, ?_, ?_, ?_, ?_⟩
    · rw [phases]
      exact inOrder.snoc follows
    · rw [phases, right.left, bus, List.getLast?_append]
      rfl
    · intro other among declined
      obtain before | here := List.mem_append.1 among
      · exact rejected other before declined
      · obtain rfl := List.mem_singleton.1 here
        rw [taken] at declined
        cases declined
    · intro other among approved
      obtain before | here := List.mem_append.1 among
      · exact accepted other before approved
      · obtain rfl := List.mem_singleton.1 here
        exact ⟨by rw [bus], right⟩
    · rw [more, List.flatMap_append, steps]
      simp [right.finished, bus]

/-- A bus that has dispatched nothing yet accepts the phases of a run in their order, with a failure
as the last one once any was accepted, however it is asked. Every dispatch comes to its end unless a
participant does not. -/
theorem bus_dispatches_in_order (new : start.phase = none)
    (dispatches : Dispatches invoke start history last) :
    Lawful invoke start history last ∧
      ∀ (request : Request) (world : World),
        (∃ dispatch : Dispatch, dispatch.request = request ∧ dispatch.before = world ∧
          Dispatches invoke start (history ++ [dispatch]) dispatch.left) ∨
        ∃ performed ∈ ((request.plan last).execution invoke world).record, ∃ errand abort,
          performed.reply = ⟨errand, .error abort⟩ := by
  constructor
  · induction dispatches with
    | nil =>
      have fresh : start = { start with phase := none } := by rw [← new]
      exact {
        inOrder := .inl List.nil_prefix
        bus := fresh
        rejected := by simp
        accepted := by simp
        steps := rfl }
    | snoc prior dispatch asked ran ih => exact ih.snoc asked ran
  · intro request world
    obtain ⟨record, ⟨result, left⟩, after, performs⟩ | broken :=
      Plan.performs_or_breaks invoke (request.plan last) world
    · exact .inl ⟨⟨request, last, world, record, result, left, after⟩, rfl, rfl,
        dispatches.snoc _ rfl performs⟩
    · exact .inr broken

/-- A dispatch that is carried out to its end. -/
theorem Dispatch.ran_of_carryOut {request : Request} {bus left : LifecycleBus}
    {before after : World} {result : Except LaunchError Unit}
    (ended : ((request.plan bus).carryOut invoke).run.run before = (.ok (result, left), after)) :
    ∃ record, Dispatch.Ran invoke ⟨request, bus, before, record, result, left, after⟩ :=
  ⟨_, Plan.performs_of_carryOut ended⟩

/-- A bus with two listeners that record, the first of which fails when the run has failed. -/
def recording : LifecycleBus where
  listeners := [.recorder (some .failed) none, .recorder none none]
  startup := .buffered ⟨0⟩

/-- Participants that never answer, which a bus that records has no need of. -/
def unanswering : Invoker := fun _ => throw .exhausted

/-- The recording bus is asked to start, to go on too far, and to tell of a failure. -/
theorem bus_dispatches_in_order_recording :
    recording.phase = none ∧ ∃ history last, Dispatches unanswering recording history last ∧
      phasesOf history = [.starting, .failed] ∧ history.length = 3 ∧
      Lawful unanswering recording history last := by
  obtain ⟨_, starts⟩ : ∃ after,
      (((Request.notice (.starting ⟨0⟩ none)).plan recording).carryOut unanswering).run.run {} =
        (.ok (.ok (), { recording with phase := some .starting }), after) := ⟨_, rfl⟩
  obtain ⟨_, refuses⟩ : ∃ after,
      (((Request.notice (.started ⟨0⟩)).plan { recording with phase := some .starting }).carryOut
        unanswering).run.run {} =
        (.ok (.error (LaunchFault.phaseOrder (some .starting) .started).alone,
          { recording with phase := some .starting }), after) := ⟨_, rfl⟩
  obtain ⟨_, fails⟩ : ∃ after,
      (((Request.failure none (some (.text "down"))).plan
        { recording with phase := some .starting }).carryOut unanswering).run.run {} =
        (.ok (.ok (), { recording with phase := some .failed }), after) := ⟨_, rfl⟩
  obtain ⟨_, starts⟩ := Dispatch.ran_of_carryOut starts
  obtain ⟨_, refuses⟩ := Dispatch.ran_of_carryOut refuses
  obtain ⟨_, fails⟩ := Dispatch.ran_of_carryOut fails
  have dispatches := ((Dispatches.nil.snoc _ rfl starts).snoc _ rfl refuses).snoc _ rfl fails
  exact ⟨rfl, _, _, dispatches, rfl, rfl, (bus_dispatches_in_order rfl dispatches).1⟩

end LifecycleBus

end Launchpad
