import Launchpad.Proofs.Launch.Runners
import Launchpad.Proofs.Lifecycle.Delivery
import Launchpad.Proofs.Operation.Closing

/-!
# Whom an errand calls

What an errand means for its participants is a `Dialogue`: the calls that it makes, in their order,
and whether it stops at the first that fails. `Errand.dialogue` reads the dialogue off the errand
and the world that it finds. The record of calls shows that every errand of a run holds its dialogue
and makes no other call, and that its answer is what its calls came to.
-/

namespace Launchpad

/-- The calls that an operation makes, in their order. -/
inductive Dialogue where
  /-- One after the other, up to the first that fails; its failure is handed on. -/
  | heeding (calls : List Call)
  /-- Some up to the first that fails, and then all of the others, whatever anyone answers. -/
  | parting (heeded told : List Call)

/-- Calls are made in order, up to the first that fails or does not come to its end. -/
abbrev CallsHeeded (depth : Nat) (calls : List Call) (ending : Except Abort (Except Failure Unit))
    (lines : List JournalEntry) : Prop :=
  Asked depth (fun call : Call => call) (fun _ own => own) calls ending lines

/-- Calls are made in order, whatever is answered, as long as each comes to its end. -/
abbrev CallsMade (depth : Nat) (calls : List Call) (ending : Except Abort Unit)
    (lines : List JournalEntry) : Prop :=
  Told depth (fun call : Call => call) calls ending lines

/-- How a dialogue comes to its end, and the lines that it leaves in the record of calls. -/
inductive Dialogue.Ends (depth : Nat) :
    Dialogue → Except Abort (Except Failure Unit) → List JournalEntry → Prop where
  | heeding {calls ending lines}
      (asked : CallsHeeded depth calls ending lines) :
      Ends depth (.heeding calls) ending lines
  /-- What the calls that were heeded came to does not count. -/
  | parting {heeded told verdict ending lines others}
      (asked : CallsHeeded depth heeded (.ok verdict) lines)
      (goesOn : CallsMade depth told ending others) :
      Ends depth (.parting heeded told) (ending.map .ok) (lines ++ others)
  | cut {heeded told abort lines}
      (asked : CallsHeeded depth heeded (.error abort) lines) :
      Ends depth (.parting heeded told) (.error abort) lines

/-- What an operation answers after its calls: nothing if one of them did not come to its end, the
failure that was heeded, and otherwise whatever the operation finds by itself. -/
inductive Concludes {α : Type} (failure? : α → Option Failure) :
    Except Abort (Except Failure Unit) → Except Abort α → Prop where
  | broken (abort : Abort) : Concludes failure? (.error abort) (.error abort)
  | failed {failure answer} (handedOn : failure? answer = some failure) :
      Concludes failure? (.ok (.error failure)) (.ok answer)
  | done (answer : α) : Concludes failure? (.ok (.ok ())) (.ok answer)

section

variable {α : Type} {depth : Nat}

/-- Calling items is making the calls to them. -/
theorem Asked.calls {call : α → Call} {items : List α} {ending : Except Abort (Except Failure Unit)}
    {lines : List JournalEntry} (asked : Asked depth call (fun _ own => own) items ending lines) :
    CallsHeeded depth (items.map call) ending lines := by
  induction asked with
  | done => exact .done
  | next _ ih => exact .next ih
  | failed failure => exact .failed failure
  | broken abort => exact .broken abort

/-- Telling items is making the calls to them. -/
theorem Told.calls {call : α → Call} {items : List α} {ending : Except Abort Unit}
    {lines : List JournalEntry} (told : Told depth call items ending lines) :
    CallsMade depth (items.map call) ending lines := by
  induction told with
  | done => exact .done
  | next failure _ ih => exact .next failure ih
  | broken abort => exact .broken abort

variable {calls others : List Call} {ending : Except Abort (Except Failure Unit)}
  {lines : List JournalEntry}

/-- Calls that all succeed are followed by the others. -/
theorem Asked.append {rest : List JournalEntry}
    (first : CallsHeeded depth calls (.ok (.ok ())) lines)
    (second : CallsHeeded depth others ending rest) :
    CallsHeeded depth (calls ++ others) ending (lines ++ rest) := by
  generalize reached : (Except.ok (Except.ok ()) : Except Abort (Except Failure Unit)) = early
    at first
  induction first with
  | done => exact second
  | next _ ih => exact .next (ih reached)
  | failed | broken => cases reached

/-- Nothing follows calls of which one failed or did not come to its end. -/
theorem Asked.cut_short (asked : CallsHeeded depth calls ending lines)
    (ends : ending ≠ .ok (.ok ())) (others : List Call) :
    CallsHeeded depth (calls ++ others) ending lines := by
  induction asked with
  | done => exact absurd rfl ends
  | next _ ih => exact .next (ih ends)
  | failed failure => exact .failed failure
  | broken abort => exact .broken abort

/-- The failure that somebody answered is the one that is handed on. -/
theorem Asked.ending_of_answered {own : Failure}
    (asked : CallsHeeded depth calls ending lines)
    (answered : .answered depth (some own) ∈ lines) : ending = .ok (.error own) := by
  induction asked with
  | done => cases answered
  | next _ ih => exact ih (by simpa using answered)
  | failed failure =>
    have same : own = failure := by simpa using answered
    rw [same]
  | broken abort => simp at answered

/-- An operation that comes to its end and writes nothing into the record of calls. -/
def Act.Silent (act : Act α) : Prop :=
  ∀ world, ∃ answer later, act.result world = (.ok answer, later) ∧ later.journal = world.journal

namespace Act.Silent

variable {β : Type}

/-- Answering at once calls nobody. -/
theorem of_pure (answer : α) : Silent (pure answer : Act α) :=
  fun world => ⟨answer, world, rfl, rfl⟩

/-- A change of the world that leaves the record of calls. -/
theorem of_modify {change : World → World}
    (journal : ∀ world, (change world).journal = world.journal) :
    Silent (modify change : Act PUnit) := fun world => ⟨(), change world, rfl, journal world⟩

/-- Silent operations one after the other are silent. -/
theorem bind {act : Act α} {next : α → Act β} (first : Silent act)
    (rest : ∀ answer, Silent (next answer)) : Silent (act >>= next) := by
  intro world
  obtain ⟨answer, between, ran, journal⟩ := first world
  obtain ⟨reply, later, goesOn, same⟩ := rest answer between
  exact ⟨reply, later, Act.result_bind_ok_iff.2 ⟨answer, between, ran, goesOn⟩, same.trans journal⟩

/-- A look at the world, and a silent operation after it. -/
theorem look {act : Act α} {next : α → Act β}
    (looks : ∀ world, ∃ answer, act.result world = (.ok answer, world))
    (rest : ∀ answer, Silent (next answer)) : Silent (act >>= next) :=
  bind (fun world => (looks world).imp fun _ ran => ⟨world, ran, rfl⟩) rest

end Act.Silent

/-- Removing a container from a coordinator when it closes calls nobody. -/
theorem Container.runCallback_silent (invoke : Invoker) (ref : ContainerRef)
    (coordinator : CoordinatorRef) : (runCallback invoke ref (.deregister coordinator)).Silent := by
  refine .look (fun world => ⟨_, rfl⟩) fun held => ?_
  split
  · exact .of_pure ()
  · exact .of_modify fun _ => rfl

/-- An operation holds a dialogue, makes no other call, and answers what its calls came to. -/
def Act.Holds (depth : Nat) (dialogue : Dialogue) (failure? : α → Option Failure) (act : Act α)
    (world : World) : Prop :=
  ∃ ending lines, dialogue.Ends depth ending lines ∧
    Concludes failure? ending (act.result world).1 ∧
    Writes depth lines world (act.result world).2

namespace Act.Holds

variable {β : Type} {act : Act α} {next : α → Act β} {world : World}
  {failure? : α → Option Failure} {further? : β → Option Failure}

/-- An operation that calls nobody holds the dialogue without calls. -/
theorem silent {answer : α} {later : World} (ran : act.result world = (.ok answer, later))
    (journal : later.journal = world.journal) : Holds depth (.heeding []) failure? act world := by
  refine ⟨_, [], .heeding .done, ?_, ?_⟩
  · rw [ran]
    exact .done answer
  · rw [ran]
    exact .of_journal journal

/-- A call holds the dialogue of that call, however the participant answers. -/
theorem of_call (behaviour : Behaviour) (limit : Nat) (call : Call) (world : World) :
    Holds depth (.heeding [call]) call.failure?
      (behaviour.invoker (limit + 1) depth call) world := by
  have written := behaviour.writes_call limit depth call world
  unfold Holds
  generalize (behaviour.invoker (limit + 1) depth call).result world = reached at written ⊢
  obtain ⟨abort | answer, later⟩ := reached
  · exact ⟨_, _, .heeding (.broken abort), .broken abort, written⟩
  · cases own : call.failure? answer with
    | none =>
      simp only [Except.map, Call.lines, own] at written
      exact ⟨_, _, .heeding (.next .done), .done answer, written⟩
    | some failure =>
      simp only [Except.map, Call.lines, own] at written
      exact ⟨_, _, .heeding (.failed failure), .failed own, written⟩

/-- An operation that asks items in order. -/
theorem of_asked {Item : Type} {call : Item → Call} {items : List Item}
    {asking : Act (Except Failure Unit)}
    (asks : ∃ lines, Asked depth call (fun _ own => own) items (asking.result world).1 lines ∧
      Writes depth lines world (asking.result world).2) :
    Holds depth (.heeding (items.map call)) Call.failure?.errorOf asking world := by
  obtain ⟨lines, asked, written⟩ := asks
  refine ⟨_, lines, .heeding asked.calls, ?_, written⟩
  rcases (asking.result world).1 with abort | failure | ⟨⟩
  · exact .broken abort
  · exact .failed rfl
  · exact .done _

/-- Operations that do the same in a world hold the same dialogue there. -/
theorem congr {dialogue : Dialogue} {other : Act α} (same : act.result world = other.result world)
    (holds : Holds depth dialogue failure? other world) :
    Holds depth dialogue failure? act world := by
  rwa [Holds, same]

/-- What fails in one way of reading an answer may be read in another. -/
theorem reading {dialogue : Dialogue} {other? : α → Option Failure}
    (holds : Holds depth dialogue failure? act world)
    (reads : ∀ answer failure, failure? answer = some failure → other? answer = some failure) :
    Holds depth dialogue other? act world := by
  obtain ⟨ending, lines, ends, concludes, written⟩ := holds
  refine ⟨ending, lines, ends, ?_, written⟩
  generalize (act.result world).1 = answer at concludes ⊢
  cases concludes with
  | broken abort => exact .broken abort
  | failed handedOn => exact .failed (reads _ _ handedOn)
  | done answer => exact .done answer

/-- What hands on the failure of a call fails with it. -/
theorem handing_on {γ : Type} {calling : Act (Except Failure γ)} {dialogue : Dialogue}
    {own? : Except Failure γ → Option Failure}
    (holds : Holds depth dialogue Call.failure?.errorOf calling world)
    (own : ∀ failure, own? (.error failure) = some failure) :
    Holds depth dialogue own? calling world :=
  holds.reading fun answer failure same => by
    cases answer with
    | error => cases same; exact own failure
    | ok => cases same

/-- An operation that begins by calling nobody. -/
theorem begin {answer : α} {between : World} {dialogue : Dialogue}
    (ran : act.result world = (.ok answer, between)) (journal : between.journal = world.journal)
    (rest : Holds depth dialogue further? (next answer) between) :
    Holds depth dialogue further? (act >>= next) world := by
  obtain ⟨ending, lines, ends, concludes, written⟩ := rest
  refine ⟨ending, lines, ends, ?_⟩
  rw [Act.result_bind, ran]
  exact ⟨concludes, (Writes.of_journal journal).trans written⟩

/-- An operation that ends by calling nobody, and hands on the failure that there was. -/
theorem finish {dialogue : Dialogue} (holds : Holds depth dialogue failure? act world)
    (rest : ∀ answer between, ∃ reply later, (next answer).result between = (.ok reply, later) ∧
      later.journal = between.journal ∧
      ∀ failure, failure? answer = some failure → further? reply = some failure) :
    Holds depth dialogue further? (act >>= next) world := by
  obtain ⟨ending, lines, ends, concludes, written⟩ := holds
  refine ⟨ending, lines, ends, ?_⟩
  rw [Act.result_bind]
  generalize act.result world = reached at concludes written ⊢
  obtain ⟨abort | answer, between⟩ := reached
  · cases concludes
    exact ⟨.broken abort, written⟩
  · obtain ⟨reply, later, ran, journal, handsOn⟩ := rest answer between
    dsimp only
    rw [ran]
    have whole : Writes depth lines world later := by
      simpa using written.trans (.of_journal journal)
    cases concludes with
    | failed handedOn => exact ⟨.failed (handsOn _ handedOn), whole⟩
    | done => exact ⟨.done reply, whole⟩

/-- Calls that cannot fail are followed by others. -/
theorem follow (first : Holds depth (.heeding calls) (fun _ => none) act world)
    (rest : ∀ answer between, act.result world = (.ok answer, between) →
      Holds depth (.heeding others) further? (next answer) between) :
    Holds depth (.heeding (calls ++ others)) further? (act >>= next) world := by
  obtain ⟨ending, lines, ends, concludes, written⟩ := first
  unfold Holds
  rw [Act.result_bind]
  generalize act.result world = reached at concludes written rest ⊢
  obtain ⟨abort | answer, between⟩ := reached
  · cases concludes
    cases ends with
    | heeding asked => exact ⟨_, lines, .heeding (asked.cut_short nofun _), .broken abort, written⟩
  · cases concludes with
    | failed handedOn => cases handedOn
    | done =>
      cases ends with
      | heeding asked =>
        obtain ⟨_, more, ⟨goesOn⟩, concludes, later⟩ := rest answer between rfl
        exact ⟨_, lines ++ more, .heeding (asked.append goesOn), concludes, written.trans later⟩

/-- Whatever the calls that are heeded come to, the others are made. -/
theorem part (first : Holds depth (.heeding calls) failure? act world)
    (rest : ∀ answer between, act.result world = (.ok answer, between) →
      ∃ lines, CallsMade depth others (((next answer).result between).1.map fun _ => ()) lines ∧
        Writes depth lines between ((next answer).result between).2) :
    Holds depth (.parting calls others) further? (act >>= next) world := by
  obtain ⟨ending, lines, ⟨asked⟩, concludes, written⟩ := first
  unfold Holds
  rw [Act.result_bind]
  generalize act.result world = reached at concludes written rest ⊢
  obtain ⟨abort | answer, between⟩ := reached
  · cases concludes
    exact ⟨_, lines, .cut asked, .broken abort, written⟩
  · obtain ⟨verdict, rfl⟩ : ∃ verdict, ending = .ok verdict := by cases concludes <;> exact ⟨_, rfl⟩
    obtain ⟨more, made, later⟩ := rest answer between rfl
    refine ⟨_, lines ++ more, .parting asked made, ?_, written.trans later⟩
    dsimp only
    generalize ((next answer).result between).1 = reply
    cases reply with
    | error abort => exact .broken abort
    | ok reply => exact .done reply

end Act.Holds

end

/-! ## The dialogue of an errand -/

/-- The calls with which listeners are told about an event. -/
def ApplicationEvent.callsTo (event : ApplicationEvent) (listeners : List ApplicationListener) :
    List Call :=
  listeners.map (ApplicationListener.hears event)

/-- The calls with which a watching participant is told about a step. -/
def Startup.callsOn (startup : Startup) (notice : StartupNotice) : List Call :=
  match startup with
  | .watched participant => [.startupNotice participant notice]
  | _ => []

/-- The step under which the refresh of a container is measured. -/
def Container.refreshMeasured (container : Container) : StartupStep :=
  ({ name := refreshStep } : StartupStep).tag "context" container.id

/-- The calls of a refresh: the one who watches the startup is told that it begins, which container
it is about and that it has ended, and then the listeners that there are by then. A refresh that is
refused calls nobody. -/
def Container.refreshCalls (container : Container) (attached : List ApplicationListener) :
    List Call :=
  if container.refusal?.isSome then [] else
    container.startup.callsOn (.begun { name := refreshStep }) ++
      container.startup.callsOn (.tagged container.refreshMeasured) ++
      container.startup.callsOn (.ended container.refreshMeasured) ++
      (ApplicationEvent.contextRefreshed container.id).callsTo (container.listeners ++ attached)

/-- The call that a close callback is. -/
def CloseCallback.call? : CloseCallback → Option Call
  | custom participant => some (.containerClosed participant)
  | deregister _ => none

/-- The dialogue of a close: the listeners of a container that was active hear of it, and every
callback is called whatever they answer. A container that is closed already calls nobody. -/
def Container.closeDialogue (container : Container) : Dialogue :=
  if container.isClosed then .heeding [] else
    .parting
      (if container.isActive then
        (ApplicationEvent.contextClosed container.id).callsTo container.listeners else [])
      (container.closeCallbacks.filterMap CloseCallback.call?)

/-- The calls with which a factory is asked. -/
def Construction.calls : Construction → List Call
  | bootstrapInitializer factory => [.buildBootstrapInitializer factory]
  | applicationListener factory => [.buildApplicationListener factory]
  | runListener .eventPublishing _ => []
  | runListener (.custom factory) arguments => [.buildRunListener factory arguments]
  | contextInitializer factory => [.buildContextInitializer factory]

/-- The call that gives a notice to a participant. -/
def Notice.callTo (participant : Participant) : Notice → Call
  | starting store _ => .starting participant store
  | contextPrepared container => .containerPhase participant .contextPrepared container
  | contextLoaded container => .containerPhase participant .contextLoaded container
  | started container => .containerPhase participant .started container
  | running container => .containerPhase participant .running container

/-- The calls with which a run listener passes on a notice. -/
def Notice.calls (world : World) (notice : Notice) : RunListener → List Call
  | .eventPublishing audience => (notice.event world).callsTo (notice.hearers audience world)
  | .recorder .. => []
  | .custom participant _ => [notice.callTo participant]

/-- The calls with which a run listener is shown the environment. -/
def RunListener.callsOnEnvironment (store : StoreRef) (environment : Environment) :
    RunListener → List Call
  | eventPublishing audience =>
    (ApplicationEvent.environmentPrepared environment.activeProfiles).callsTo audience
  | recorder .. => []
  | custom participant _ => [.environmentPrepared participant store environment]

/-- The dialogue in which a run listener is told that the run failed: an active container tells the
listeners that it has, up to the first that fails; otherwise the whole audience is told directly. -/
def RunListener.failureDialogue (world : World) (container : Option ContainerRef)
    (failure : Option Failure) : RunListener → Dialogue
  | eventPublishing audience =>
    match container.filter fun ref => (world.container ref).isActive with
    | some ref =>
      .heeding ((failureEvent world container failure).callsTo (world.container ref).listeners)
    | none => .parting [] ((failureEvent world container failure).callsTo audience)
  | recorder .. => .heeding []
  | custom participant _ => .heeding [.failed participant container failure]

/-- The calls of a close action of a store. An instance that was never made is not handed over. -/
def CloseAction.calls (world : World) (store : StoreRef) (container : ContainerRef) :
    CloseAction → List Call
  | handOver type participant =>
    (((world.store store).kept? type).map fun held => .handOver participant held container).toList
  | listener participant => [.bootstrapClosing participant store container]

/-- The calls with which sources are loaded: the configurations of each, up to the first source that
stands for nothing. -/
def SourceLoader.calls (loader : SourceLoader) (container : ContainerRef) : List Source → List Call
  | [] => []
  | source :: rest =>
    match loader.resolve source with
    | .error _ => []
    | .ok configurations =>
      configurations.map (.configure ·.participant container) ++ loader.calls container rest

/-- The calls with which a banner is rendered: a banner of its own renders itself, unless banners
are off or the environment names a file. -/
def Banner.calls (mode : BannerMode) (environment : Environment) (own : Option Banner)
    (mainSource : Option String) : List Call :=
  if mode = .off ∨ (environment.get? locationProperty).isSome then [] else
    match own with
    | some (.custom participant) => [.renderBanner participant environment mainSource]
    | _ => []

/-- The mappers that are asked for the exit code of a failure: those of an active container. -/
def World.mappersOf (world : World) (container : Option ContainerRef) : List Participant :=
  match container with
  | none => []
  | some ref =>
    if (world.container ref).isActive then (world.container ref).mappers else []

namespace Errand

/-- The dialogue that an errand holds in the world that it finds. A refresh also tells the listeners
that the one who watches it attaches in the meantime. -/
def dialogue (world : World) (attached : List ApplicationListener) : Errand → Dialogue
  | enterPhase startup phase => .heeding (startup.callsOn (.begun { name := phase.stepName }))
  | tagPhase startup step key text => .heeding (startup.callsOn (.tagged (step.tag key text)))
  | leavePhase startup step => .heeding (startup.callsOn (.ended step))
  | build _ construction => .heeding construction.calls
  | applyBootstrapInitializer participant store =>
    .heeding [.applyBootstrapInitializer participant store]
  | tell listener notice => .heeding (notice.calls world listener)
  | showEnvironment listener store environment =>
    .heeding (listener.callsOnEnvironment store environment)
  | bindSettings (.custom participant) environment settings =>
    .heeding [.bindSettings participant environment Binding.mainRoot settings]
  | printBanner mode environment own mainSource =>
    .heeding (Banner.calls mode environment own mainSource)
  | createContainer (.custom participant) kind => .heeding [.createContainer participant kind]
  | postProcess hooks container => .heeding [.postProcess hooks container]
  | applyContextInitializer initializer container =>
    .heeding [.applyContextInitializer initializer.participant container]
  | runCloseAction store container action => .heeding (action.calls world store container)
  | load (.custom participant) container sources =>
    .heeding [.loadSources participant container sources]
  | load (.sources loader) container sources => .heeding (loader.calls container sources)
  | refresh container => .heeding ((world.container container).refreshCalls attached)
  | afterRefresh hooks container arguments => .heeding [.afterRefresh hooks container arguments]
  | callRunner runner arguments => .heeding [runner.call arguments]
  | resolveExitCode container failure =>
    .heeding ((world.mappersOf container).map (.mapFailure · failure))
  | publish container event => .heeding (event.callsTo (world.container container).listeners)
  | tellFailed listener container failure => listener.failureDialogue world container failure
  | buildReporter _ factory container => .heeding [.buildReporter factory container]
  | report (.custom participant) failure => .heeding [.report participant failure]
  | close container => (world.container container).closeDialogue
  | _ => .heeding []

/-- Whether an errand is a refresh that somebody watches. -/
def isWatched (world : World) : Errand → Bool
  | refresh container =>
    match (world.container container).startup with
    | .watched _ => true
    | _ => false
  | _ => false

/-- The failure of a participant or of the container in an answer. -/
def failure? : (errand : Errand) → errand.Answer → Option Failure
  | applyBootstrapInitializer .., .error failure => some failure
  | build .., .error failure => some failure
  | tell .., .error failure => some failure
  | showEnvironment .., (.error failure, _) => some failure
  | bindSettings .., (.error failure, _) => some failure
  | printBanner .., .error failure => some failure
  | createContainer .., .error failure => some failure
  | postProcess .., .error failure => some failure
  | applyContextInitializer .., .error failure => some failure
  | runCloseAction .., .error failure => some failure
  | load .., .error failure => some failure
  | refresh _, .error failure => some failure
  | afterRefresh .., .error failure => some failure
  | callRunner .., .error failure => some failure
  | publish .., .error failure => some failure
  | tellFailed .., .error failure => some failure
  | buildReporter .., .error failure => some failure
  | close _, .error failure => some failure
  | _, _ => none

end Errand

section

variable (behaviour : Behaviour) (limit depth : Nat) (world : World)

namespace Startup

/-- The one who watches a startup is told that a step begins. -/
theorem holds_begin (startup : Startup) (name : String) :
    Act.Holds depth (.heeding (startup.callsOn (.begun { name }))) (fun _ => none)
      (startup.begin (behaviour.invoker (limit + 1) depth) name) world := by
  cases startup with
  | watched participant =>
    exact (Act.Holds.of_call behaviour limit _ world).finish fun _ between =>
      ⟨_, between, rfl, rfl, nofun⟩
  | discarded | buffered => exact .silent rfl rfl

/-- The one who watches a startup is told that a step gets a tag. -/
theorem holds_tag (startup : Startup) (step : StartupStep) (key text : String) :
    Act.Holds depth (.heeding (startup.callsOn (.tagged (step.tag key text)))) (fun _ => none)
      (startup.tag (behaviour.invoker (limit + 1) depth) step key text) world := by
  cases startup with
  | watched participant =>
    exact (Act.Holds.of_call behaviour limit _ world).finish fun _ between =>
      ⟨_, between, rfl, rfl, nofun⟩
  | discarded | buffered => exact .silent rfl rfl

/-- The one who watches a startup is told that a step ends. -/
theorem holds_finish (startup : Startup) (step : StartupStep) :
    Act.Holds depth (.heeding (startup.callsOn (.ended step))) (fun _ => none)
      (startup.finish (behaviour.invoker (limit + 1) depth) step) world := by
  cases startup with
  | watched participant => exact .of_call behaviour limit _ world
  | discarded | buffered => exact .silent rfl rfl

/-- The step that a startup begins has the name that was asked for and no tags. -/
theorem answer_of_begin {invoke : Invoker} {startup : Startup} {name : String} {step : StartupStep}
    {before after : World} (ran : (startup.begin invoke name).result before = (.ok step, after)) :
    step = { name } := by
  cases startup with
  | watched participant =>
    obtain ⟨_, _, _, ends⟩ := Act.result_bind_ok_iff.1 ran
    cases ends
    rfl
  | discarded | buffered => cases ran; rfl

/-- A startup that tags a step answers it with the tag added. -/
theorem answer_of_tag {invoke : Invoker} {startup : Startup} {step tagged : StartupStep}
    {key text : String} {before after : World}
    (ran : (startup.tag invoke step key text).result before = (.ok tagged, after)) :
    tagged = step.tag key text := by
  cases startup with
  | watched participant =>
    obtain ⟨_, _, _, ends⟩ := Act.result_bind_ok_iff.1 ran
    cases ends
    rfl
  | discarded | buffered => cases ran; rfl

end Startup

namespace Container

/-- The announcement of a refresh answers the step under which it is measured. -/
theorem answer_of_announceRefresh {invoke : Invoker} {startup : Startup} {id : String}
    {step : StartupStep} {before after : World}
    (ran : (announceRefresh invoke startup id).result before = (.ok step, after)) :
    step = ({ name := refreshStep } : StartupStep).tag "context" id := by
  obtain ⟨_, _, begins, tags⟩ := Act.result_bind_ok_iff.1 ran
  obtain rfl := Startup.answer_of_begin begins
  exact Startup.answer_of_tag tags

/-- A refresh that begins is announced to the one who watches it. -/
theorem holds_announceRefresh (startup : Startup) (id : String) :
    Act.Holds depth
      (.heeding (startup.callsOn (.begun { name := refreshStep }) ++
        startup.callsOn (.tagged (({ name := refreshStep } : StartupStep).tag "context" id))))
      (fun _ => none) (announceRefresh (behaviour.invoker (limit + 1) depth) startup id) world := by
  refine (startup.holds_begin behaviour limit depth world refreshStep).follow
    fun step between begins => ?_
  obtain rfl := Startup.answer_of_begin begins
  exact startup.holds_tag behaviour limit depth between _ _ _

/-- A refresh that is recorded ends its step. -/
theorem holds_recordRefresh (ref : ContainerRef) (startup : Startup) (step : StartupStep) :
    Act.Holds depth (.heeding (startup.callsOn (.ended step))) (fun _ => none)
      (recordRefresh (behaviour.invoker (limit + 1) depth) ref startup step) world :=
  .begin rfl rfl (.begin rfl rfl (startup.holds_finish behaviour limit depth _ step))

/-- A publication tells the listeners that the container has. -/
theorem holds_publish (ref : ContainerRef) (event : ApplicationEvent) :
    Act.Holds depth (.heeding (event.callsTo (world.container ref).listeners))
      Call.failure?.errorOf (publish (behaviour.invoker (limit + 1) depth) ref event) world :=
  .of_asked (asks_publish behaviour limit depth ref event world)

/-- What a refresh does before its listeners hear of it. -/
def openRefresh (invoke : Invoker) (ref : ContainerRef) (container : Container) : Act Unit := do
  let step ← announceRefresh invoke container.startup container.id
  Act.modifyContainer ref markActive
  recordRefresh invoke ref container.startup step

/-- A container keeps its listeners when it is changed in another respect. -/
theorem listeners_modifyContainer (ref : ContainerRef) {change : Container → Container}
    (kept : (change (world.container ref)).listeners = (world.container ref).listeners) :
    ((world.modifyContainer ref change).container ref).listeners =
      (world.container ref).listeners := by
  by_cases made : ref.index < world.containers.length
  · rwa [World.container_modifyContainer_self _ _ _ made]
  · have unmade : ¬ ref.index < (world.modifyContainer ref change).containers.length := by
      simpa [World.modifyContainer] using made
    rw [World.listeners_of_unmade made, World.listeners_of_unmade unmade]

/-- Before the listeners of a refresh hear of it, only the one who watches it can attach others. -/
theorem attached_of_openRefresh (ref : ContainerRef) :
    ∃ attached, ((((openRefresh (behaviour.invoker limit depth) ref (world.container ref)).result
        world).2).container ref).listeners = (world.container ref).listeners ++ attached ∧
      (attached ≠ [] → ∃ participant, (world.container ref).startup = .watched participant) := by
  cases watch : (world.container ref).startup with
  | watched participant =>
    have stays := behaviour.listenersStay ref limit depth
    have framing := ListenersStay.framing ref
    have opens : Act.Respects (ListenersStay ref)
        (openRefresh (behaviour.invoker limit depth) ref (world.container ref)) := by
      refine .bind framing (.bind framing (Startup.respects_begin framing (fun _ _ => stays _) _ _)
        fun _ => Startup.respects_tag framing (fun _ _ => stays _) _ _ _ _) fun _ => ?_
      refine .bind framing (.of_modify fun _ => .modifyContainer _ List.prefix_rfl) fun _ => ?_
      refine .look framing (fun _ => rfl) fun _ => ?_
      exact .bind framing (.log framing _ _ _) fun _ =>
        Startup.respects_finish framing (fun _ _ => stays _) _ _
    obtain ⟨attached, same⟩ := opens world
    exact ⟨attached, same.symm, fun _ => ⟨participant, rfl⟩⟩
  | discarded | buffered =>
    refine ⟨[], ?_, fun more => absurd rfl more⟩
    rw [openRefresh, watch, List.append_nil]
    exact listeners_modifyContainer world ref rfl

/-- A refresh tells the one who watches it, and then the listeners that there are by then. -/
theorem holds_refresh (ref : ContainerRef) :
    ∃ attached,
      (attached ≠ [] → ∃ participant, (world.container ref).startup = .watched participant) ∧
      Act.Holds depth (.heeding ((world.container ref).refreshCalls attached))
        Call.failure?.errorOf (refresh (behaviour.invoker (limit + 1) depth) ref) world := by
  cases verdict : (world.container ref).refusal? with
  | some failure =>
    refine ⟨[], fun more => absurd rfl more, ?_⟩
    rw [refreshCalls, verdict]
    exact .silent (refresh_of_refused verdict) rfl
  | none =>
    obtain ⟨attached, listeners, watched⟩ :=
      attached_of_openRefresh behaviour (limit + 1) depth world ref
    refine ⟨attached, watched, ?_⟩
    rw [refreshCalls, verdict]
    have same : (refresh (behaviour.invoker (limit + 1) depth) ref).result world =
        (openRefresh (behaviour.invoker (limit + 1) depth) ref (world.container ref) >>= fun _ =>
          publish (behaviour.invoker (limit + 1) depth) ref
            (.contextRefreshed (world.container ref).id)).result world := by
      rw [refresh_of_accepted verdict]
      simp only [openRefresh, bind_assoc]
    refine .congr same (.follow ?_ fun _ between opened => ?_)
    · refine (holds_announceRefresh behaviour limit depth world _ _).follow
        fun step announced announces => ?_
      obtain rfl := answer_of_announceRefresh announces
      exact .begin rfl rfl (holds_recordRefresh behaviour limit depth _ ref _ _)
    · rw [opened] at listeners
      rw [← listeners]
      exact holds_publish behaviour limit depth between ref _

/-- The close callbacks are called one after the other; only those of participants are calls. -/
theorem tells_callbacks (ref : ContainerRef) (callbacks : List CloseCallback) :
    ∃ lines, CallsMade depth (callbacks.filterMap CloseCallback.call?)
        ((Act.forEach (runCallback (behaviour.invoker (limit + 1) depth) ref) callbacks).result
          world).1 lines ∧
      Writes depth lines world
        ((Act.forEach (runCallback (behaviour.invoker (limit + 1) depth) ref) callbacks).result
          world).2 := by
  induction callbacks generalizing world with
  | nil => exact ⟨[], .done, .refl world⟩
  | cons callback rest ih =>
    rw [Act.forEach, Act.result_bind]
    cases callback with
    | custom participant =>
      have written := behaviour.writes_call limit depth (.containerClosed participant) world
      change ∃ lines, CallsMade depth (.containerClosed participant :: _) _ lines ∧ _
      rw [runCallback]
      generalize (behaviour.invoker (limit + 1) depth (.containerClosed participant)).result world =
        reached at written ⊢
      obtain ⟨abort | answer, between⟩ := reached
      · exact ⟨_, .broken abort, written⟩
      · obtain ⟨lines, told, later⟩ := ih between
        exact ⟨_, .next none told, Writes.trans written later⟩
    | deregister coordinator =>
      obtain ⟨_, between, ran, journal⟩ :=
        runCallback_silent (behaviour.invoker (limit + 1) depth) ref coordinator world
      rw [ran]
      obtain ⟨lines, told, later⟩ := ih between
      exact ⟨lines, told, (Writes.of_journal journal).trans later⟩

/-- What is left of a close once the listeners have heard of it: the callbacks run, and the close is
logged. -/
theorem tells_unwinding (ref : ContainerRef) (callbacks : List CloseCallback) (id : String)
    {quiet : Act Unit} (silent : quiet.Silent) :
    let unwinding := do
      quiet
      Act.forEach (runCallback (behaviour.invoker (limit + 1) depth) ref) callbacks
      Act.log .info "Context closed" [("context", id)]
    ∃ lines, CallsMade depth (callbacks.filterMap CloseCallback.call?)
        ((unwinding.result world).1.map fun _ => ()) lines ∧
      Writes depth lines world (unwinding.result world).2 := by
  obtain ⟨_, between, ran, journal⟩ := silent world
  obtain ⟨lines, made, written⟩ := tells_callbacks behaviour limit depth between ref callbacks
  dsimp only
  refine ⟨lines, ?_⟩
  rw [Act.result_bind, ran]
  dsimp only
  rw [Act.result_bind]
  generalize (Act.forEach _ callbacks).result between = reached at made written ⊢
  have whole := (Writes.of_journal journal).trans written
  obtain ⟨abort | ⟨⟩, later⟩ := reached
  · exact ⟨made, whole⟩
  · refine ⟨made, ?_⟩
    rw [← List.append_nil lines]
    exact whole.trans (.of_journal rfl)

/-- A close tells the listeners of a container that was active, and runs its callbacks. -/
theorem holds_closeOnce (ref : ContainerRef) :
    Act.Holds depth (world.container ref).closeDialogue (fun _ => none)
      (closeOnce (behaviour.invoker (limit + 1) depth) ref) world := by
  unfold closeDialogue
  cases closed : (world.container ref).isClosed with
  | true => exact .silent (closeOnce_of_closed closed) rfl
  | false =>
    refine .congr (closeOnce_of_open closed) (.begin rfl rfl ?_)
    rw [if_neg Bool.false_ne_true, announceClose]
    cases active : (world.container ref).isActive with
    | true =>
      have kept : ((world.modifyContainer ref fun _ => (world.container ref).shut).container
          ref).listeners = (world.container ref).listeners :=
        listeners_modifyContainer world ref rfl
      simp only [if_true, bind_assoc]
      rw [← kept]
      refine .part (holds_publish behaviour limit depth _ ref _) fun told between _ => ?_
      refine tells_unwinding behaviour limit depth between ref _ _ ?_
      cases told with
      | ok => exact .of_pure ()
      | error failure => exact .of_modify fun _ => rfl
    | false =>
      have nobody (world : World) :
          Act.Holds depth (.heeding []) (fun _ => none) (pure () : Act Unit) world :=
        .silent rfl rfl
      refine (nobody _).part fun _ between _ => ?_
      exact tells_unwinding behaviour limit depth between ref _ _ (.of_pure ())

/-- The dialogue of a close does not depend on how often the container was closed. -/
theorem closeDialogue_countClose (ref : ContainerRef) :
    ((world.modifyContainer ref countClose).container ref).closeDialogue =
      (world.container ref).closeDialogue := by
  by_cases made : ref.index < world.containers.length
  · rw [World.container_modifyContainer_self _ _ _ made]
    rfl
  · have unmade : ¬ ref.index < (world.modifyContainer ref countClose).containers.length := by
      simpa [World.modifyContainer] using made
    rw [World.container_of_unmade made, World.container_of_unmade unmade]

/-- A close holds its dialogue, whatever failure it reports in the end. -/
theorem holds_close (ref : ContainerRef) :
    Act.Holds depth (world.container ref).closeDialogue Call.failure?.errorOf
      (close (behaviour.invoker (limit + 1) depth) ref) world := by
  rw [← closeDialogue_countClose]
  refine .begin rfl rfl ((holds_closeOnce behaviour limit depth _ ref).finish fun _ between => ?_)
  have looks : (Act.container ref).result between = (.ok (between.container ref), between) := rfl
  rw [Act.result_bind, looks]
  dsimp only
  split <;> exact ⟨_, _, rfl, rfl, nofun⟩

/-- The mappers are asked one after the other. -/
theorem holds_mappers (failure : Failure) (mappers : List Participant) :
    Act.Holds depth (.heeding (mappers.map (.mapFailure · failure))) (fun _ => none)
      (mappers.mapM fun mapper => behaviour.invoker (limit + 1) depth (.mapFailure mapper failure))
      world := by
  induction mappers generalizing world with
  | nil => exact .silent rfl rfl
  | cons mapper rest ih =>
    rw [List.mapM_cons]
    refine (Act.Holds.of_call behaviour limit (.mapFailure mapper failure) world).follow
      fun code between _ => ?_
    exact (ih between).finish fun codes later => ⟨_, later, rfl, rfl, nofun⟩

/-- The exit code of a failure is asked of the mappers of an active container. -/
theorem holds_resolveExitCode (container : Option ContainerRef) (failure : Failure) :
    Act.Holds depth (.heeding ((world.mappersOf container).map (.mapFailure · failure)))
      (fun _ => none)
      (resolveExitCode (behaviour.invoker (limit + 1) depth) container failure) world := by
  have asks (mappers : List Participant) :
      Act.Holds depth (.heeding (mappers.map (.mapFailure · failure))) (fun _ => none) (do
        let mapped ← mappedCode (behaviour.invoker (limit + 1) depth) mappers failure
        return if mapped ≠ 0 then mapped else failure.exitCode?.getD 0) world :=
    have combines : Act.Holds depth (.heeding (mappers.map (.mapFailure · failure)))
        (fun _ => none) (mappedCode (behaviour.invoker (limit + 1) depth) mappers failure) world :=
      (holds_mappers behaviour limit depth world failure mappers).finish
        fun codes later => ⟨_, later, rfl, rfl, nofun⟩
    combines.finish fun mapped later => ⟨_, later, rfl, rfl, nofun⟩
  cases container with
  | none => exact asks []
  | some ref => exact asks (world.mappersOf (some ref))

/-- Configurations register one after the other, up to the first that fails. -/
theorem asks_configurations (ref : ContainerRef) (configurations : List Configuration) :
    Act.Asks depth (fun configuration => .configure configuration.participant ref)
      (fun _ own => own) configurations
      (untilFailure (fun configuration =>
        behaviour.invoker (limit + 1) depth (.configure configuration.participant ref))
        configurations) := by
  have asks (configuration : Configuration) :
      Act.Asks depth (fun configuration => .configure configuration.participant ref)
        (fun _ own => own) [configuration]
        (behaviour.invoker (limit + 1) depth (.configure configuration.participant ref)) :=
    .single (behaviour.writes_call limit depth (.configure configuration.participant ref))
  exact .untilFailure asks configurations

/-- The configurations of sources register one after the other, up to the first that fails or the
first source that stands for nothing. -/
theorem holds_loadSources (loader : SourceLoader) (ref : ContainerRef) (sources : List Source) :
    Act.Holds depth (.heeding (loader.calls ref sources)) Call.failure?.errorOf
      (untilFailure (loadSource (behaviour.invoker (limit + 1) depth) loader ref) sources)
      world := by
  induction sources generalizing world with
  | nil => exact .silent rfl rfl
  | cons source rest ih =>
    rw [SourceLoader.calls, untilFailure, loadSource]
    cases resolved : loader.resolve source with
    | error failure => exact .silent rfl rfl
    | ok configurations =>
      obtain ⟨lines, asked, written⟩ := asks_configurations behaviour limit depth ref configurations
        world
      dsimp only
      rw [bind_assoc]
      unfold Act.Holds
      rw [Act.result_bind]
      generalize Act.result (untilFailure _ configurations) world = reached at asked written ⊢
      obtain ⟨abort | failure | ⟨⟩, between⟩ := reached
      · exact ⟨_, lines, .heeding (asked.calls.cut_short (by simp) _), .broken abort, written⟩
      · exact ⟨_, lines, .heeding (asked.calls.cut_short (by simp) _), .failed rfl, written⟩
      · obtain ⟨_, others, ⟨goesOn⟩, concludes, later⟩ :=
          ih (between.modifyContainer ref (·.registerSource source.name))
        refine ⟨_, lines ++ others, .heeding (asked.calls.append goesOn), concludes, ?_⟩
        exact written.trans ((Writes.of_journal rfl).trans later)

end Container

namespace Banner

/-- What becomes of a banner that was rendered. -/
def present (mode : BannerMode) (banner : Banner) (mainSource : Option String) :
    Except Failure String → Act (Except Failure (Option PrintedBanner))
  | .error failure => return .error failure
  | .ok rendered => do
    if mode = .log then Act.log .info (Text.trimEnd rendered) else Act.print rendered
    return .ok (some { banner, mainSource })

/-- A banner that is rendered is shown, or its failure is handed on. -/
theorem present_quiet (mode : BannerMode) (banner : Banner) (mainSource : Option String)
    (rendered : Except Failure String) (between : World) :
    ∃ reply later, (present mode banner mainSource rendered).result between = (.ok reply, later) ∧
      later.journal = between.journal ∧ ∀ failure,
        Call.failure?.errorOf rendered = some failure →
          Call.failure?.errorOf reply = some failure := by
  cases rendered with
  | error failure => exact ⟨_, between, rfl, rfl, fun _ own => own⟩
  | ok text =>
    have silent : (present mode banner mainSource (.ok text)).Silent := by
      rw [present]
      dsimp only
      split <;> exact .bind (.of_modify fun _ => rfl) fun _ => .of_pure _
    obtain ⟨reply, later, ran, journal⟩ := silent between
    exact ⟨reply, later, ran, journal, nofun⟩

/-- Only a banner of a participant is rendered by a call. -/
theorem holds_present (mode : BannerMode) (environment : Environment) (mainSource : Option String)
    (banner : Banner) :
    Act.Holds depth
      (.heeding (match banner with
        | .custom participant => [.renderBanner participant environment mainSource]
        | _ => []))
      Call.failure?.errorOf
      (banner.render (behaviour.invoker (limit + 1) depth) environment mainSource >>=
        present mode banner mainSource) world := by
  cases banner with
  | custom participant =>
    exact (Act.Holds.of_call behaviour limit
      (.renderBanner participant environment mainSource) world).finish
        (present_quiet mode (.custom participant) mainSource)
  | standard | text =>
    obtain ⟨_, _, ran, journal, -⟩ := present_quiet mode _ mainSource _ world
    exact .begin rfl rfl (.silent ran journal)

/-- Printing a banner is selecting it, rendering it and presenting what was rendered. -/
theorem printSelected_eq (invoke : Invoker) (mode : BannerMode) (environment : Environment)
    (own : Option Banner) (mainSource : Option String) :
    printSelected invoke mode environment own mainSource =
      if mode = .off then pure (.ok none) else select environment own >>= fun selected =>
        match selected with
        | .error failure => return .error failure
        | .ok banner =>
          banner.render invoke environment mainSource >>= present mode banner mainSource := by
  unfold printSelected
  split
  · rfl
  · refine bind_congr fun selected => ?_
    cases selected with
    | error failure => rfl
    | ok banner => exact bind_congr fun rendered => by cases rendered <;> rfl

/-- The banner of the application is rendered unless banners are off or the environment names a
file. -/
theorem holds_printSelected (mode : BannerMode) (environment : Environment) (own : Option Banner)
    (mainSource : Option String) :
    Act.Holds depth (.heeding (Banner.calls mode environment own mainSource))
      Call.failure?.errorOf
      (printSelected (behaviour.invoker (limit + 1) depth) mode environment own mainSource)
      world := by
  rw [printSelected_eq]
  unfold Banner.calls
  by_cases off : mode = .off
  · rw [if_pos off, if_pos (.inl off)]
    exact .silent rfl rfl
  · rw [if_neg off, select]
    cases named : environment.get? locationProperty with
    | some path =>
      rw [if_pos (.inr rfl)]
      cases found : world.files.read path with
      | error fault =>
        have ran : (ofFile path).result world = (.ok (.error ⟨.file fault, []⟩), world) :=
          Act.result_bind_ok_iff.2 ⟨world, world, rfl, by rw [found]; rfl⟩
        exact .begin ran rfl (.silent rfl rfl)
      | ok content =>
        have ran : (ofFile path).result world = (.ok (.ok (.text content)), world) :=
          Act.result_bind_ok_iff.2 ⟨world, world, rfl, by rw [found]; rfl⟩
        exact .begin ran rfl
          (holds_present behaviour limit depth world mode environment mainSource (.text content))
    | none =>
      rw [if_neg (by simp [off])]
      refine .begin rfl rfl ?_
      have presents := holds_present behaviour limit depth world mode environment mainSource
        (own.getD .standard)
      rcases own with _ | standard | text | participant <;> exact presents

end Banner

/-- A close action of a store calls its participant, unless there is nothing to hand over. -/
theorem BootstrapStore.holds_runAction (store : StoreRef) (container : ContainerRef)
    (action : CloseAction) :
    Act.Holds depth (.heeding (action.calls world store container)) Call.failure?.errorOf
      (runAction (behaviour.invoker (limit + 1) depth) store container action) world := by
  cases action with
  | handOver type participant =>
    rw [runAction, CloseAction.calls]
    refine .begin rfl rfl ?_
    cases kept : (world.store store).kept? type with
    | none => exact .silent rfl rfl
    | some held => exact .of_call behaviour limit (.handOver participant held container) world
  | listener participant => exact .of_call behaviour limit (.bootstrapClosing ..) world

namespace RunListener

/-- A recording listener calls nobody. -/
theorem record_silent (failsIn : Option LifecyclePhase) (phase : LifecyclePhase) :
    (record failsIn phase).Silent := by
  refine .bind (.of_modify fun _ => rfl) fun _ => ?_
  split <;> exact .of_pure _

/-- A run listener passes on a notice. -/
theorem holds_tell (listener : RunListener) (notice : Notice) :
    Act.Holds depth (.heeding (notice.calls world listener)) Call.failure?.errorOf
      (notice.tell (behaviour.invoker (limit + 1) depth) listener) world := by
  cases listener with
  | eventPublishing audience =>
    exact .of_asked (asks_tell behaviour limit depth audience notice world)
  | recorder failsIn order =>
    obtain ⟨_, _, ran, journal⟩ := record_silent failsIn notice.phase world
    cases notice <;> exact .silent ran journal
  | custom participant order =>
    cases notice <;> exact .of_call behaviour limit _ world

/-- A run listener is shown the environment. -/
theorem holds_environmentPrepared (listener : RunListener) (store : StoreRef)
    (environment : Environment) :
    Act.Holds depth (.heeding (listener.callsOnEnvironment store environment))
      (fun answer => Call.failure?.errorOf answer.1)
      (listener.environmentPrepared (behaviour.invoker (limit + 1) depth) store environment)
      world := by
  cases listener with
  | eventPublishing audience =>
    exact (Act.Holds.of_asked
      (Container.asks_deliver behaviour limit depth _ audience world)).finish
      fun answer between => ⟨_, between, rfl, rfl, fun _ own => own⟩
  | recorder failsIn order =>
    obtain ⟨_, _, ran, journal⟩ := record_silent failsIn .environmentPrepared world
    exact .begin ran journal (.silent rfl rfl)
  | custom participant order =>
    exact .of_call behaviour limit (.environmentPrepared participant store environment) world

/-- A run listener is told that the run failed. -/
theorem holds_failed (listener : RunListener) (container : Option ContainerRef)
    (failure : Option Failure) :
    Act.Holds depth (listener.failureDialogue world container failure) Call.failure?.errorOf
      (listener.failed (behaviour.invoker (limit + 1) depth) container failure) world := by
  cases listener with
  | eventPublishing audience =>
    -- An active container publishes to its own listeners; otherwise the audience of the listener is
    -- told.
    obtain ⟨lines, told, written⟩ :=
      publishFailure_told behaviour limit depth audience container failure world
    rw [failed, failureDialogue]
    unfold Act.Holds
    generalize (publishFailure (behaviour.invoker (limit + 1) depth) container failure
      audience).result world = reached at told written ⊢
    obtain ⟨answer, later⟩ := reached
    cases told with
    | @directly ending _ inactive told =>
      have nobody : (container.filter fun ref => (world.container ref).isActive) = none := by
        cases container with
        | none => rfl
        | some ref => simp [inactive ref rfl]
      rw [nobody]
      refine ⟨_, _, .parting .done told.calls, ?_, written⟩
      cases ending with
      | error abort => exact .broken abort
      | ok => exact .done _
    | @published ref _ _ created active asked =>
      subst created
      have somebody : ((some ref).filter fun ref => (world.container ref).isActive) = some ref := by
        simp [active]
      rw [somebody]
      refine ⟨_, _, .heeding asked.calls, ?_, written⟩
      rcases answer with abort | own | ⟨⟩
      · exact .broken abort
      · exact .failed rfl
      · exact .done _
  | recorder failsIn order =>
    obtain ⟨_, _, ran, journal⟩ := record_silent failsIn .failed world
    exact .silent ran journal
  | custom participant order =>
    exact .of_call behaviour limit (.failed participant container failure) world

end RunListener

/-- Registering a container at a coordinator calls nobody. -/
theorem ShutdownCoordinator.registerContainer_silent (invoke : Invoker) (ref : CoordinatorRef)
    (container : ContainerRef) : (registerContainer invoke ref container).Silent := by
  have keeps : (Container.onClose invoke container (.deregister ref)).Silent := by
    refine .look (fun world => ⟨_, rfl⟩) fun held => ?_
    split
    · exact Container.runCallback_silent invoke container ref
    · exact .of_modify fun _ => rfl
  refine .look (fun world => ⟨_, rfl⟩) fun coordinator => ?_
  split
  · exact .of_pure _
  · exact .of_pure _
  · refine .bind (.of_modify fun _ => rfl) fun _ => .bind keeps fun _ => ?_
    split
    · exact .bind (.of_modify fun _ => rfl) fun _ => .of_pure _
    · exact .of_pure _

/-- A factory is asked, unless it is the one that builds the publishing listener. -/
theorem Construction.holds (construction : Construction) :
    Act.Holds depth (.heeding construction.calls) Call.failure?.errorOf
      (construction.carryOut (behaviour.invoker (limit + 1) depth)) world := by
  rcases construction with factory | factory | ⟨⟨⟩ | factory, arguments⟩ | factory
  · exact .of_call behaviour limit (.buildBootstrapInitializer factory) world
  · exact .of_call behaviour limit (.buildApplicationListener factory) world
  · exact .silent rfl rfl
  · exact .of_call behaviour limit (.buildRunListener factory arguments) world
  · exact .of_call behaviour limit (.buildContextInitializer factory) world

namespace Errand

/-- Every errand but a refresh holds the dialogue that can be read off the world that it finds. -/
theorem holds_of_not_refresh (errand : Errand) (other : ∀ container, errand ≠ .refresh container) :
    Act.Holds depth (errand.dialogue world []) errand.failure?
      (errand.carryOut (behaviour.invoker (limit + 1) depth)) world := by
  cases errand with
  | refresh container => exact absurd rfl (other container)
  | makeStore | setHeadless | readVariables | log | readArguments | check | inspect | equip
  | runners => exact .silent rfl rfl
  -- The measures of a startup call the one who watches it, if there is one.
  | enterPhase startup phase => exact startup.holds_begin behaviour limit depth world _
  | tagPhase startup step key text => exact startup.holds_tag behaviour limit depth world _ _ _
  | leavePhase startup step => exact startup.holds_finish behaviour limit depth world _
  -- The others make one call, or those of a loop, and hand on what comes of them.
  | build name construction =>
    exact (construction.holds behaviour limit depth world).handing_on fun _ => rfl
  | applyBootstrapInitializer participant store =>
    exact (Act.Holds.of_call behaviour limit
      (.applyBootstrapInitializer participant store) world).handing_on fun _ => rfl
  | tell listener notice =>
    exact (listener.holds_tell behaviour limit depth world notice).handing_on fun _ => rfl
  | showEnvironment listener store environment =>
    refine (listener.holds_environmentPrepared behaviour limit depth world store
      environment).reading ?_
    rintro ⟨_ | _, _⟩ _ ⟨⟩
    rfl
  | bindSettings binder environment settings =>
    cases binder with
    | standard =>
      rw [carryOut, SettingsBinder.bind]
      split <;> exact .silent rfl rfl
    | custom participant =>
      refine (Act.Holds.of_call behaviour limit
        (.bindSettings participant environment Binding.mainRoot settings) world).reading ?_
      rintro ⟨_ | _, _⟩ _ ⟨⟩
      rfl
  | printBanner mode environment own mainSource =>
    exact (Banner.holds_printSelected behaviour limit depth world mode environment own
      mainSource).handing_on fun _ => rfl
  | createContainer factory kind =>
    cases factory with
    | custom participant =>
      exact (Act.Holds.of_call behaviour limit (.createContainer participant kind)
        world).handing_on fun _ => rfl
    | standard | tracking => exact .silent rfl rfl
  | postProcess hooks container =>
    exact (Act.Holds.of_call behaviour limit (.postProcess hooks container) world).handing_on
      fun _ => rfl
  | applyContextInitializer initializer container =>
    exact (Act.Holds.of_call behaviour limit
      (.applyContextInitializer initializer.participant container) world).handing_on fun _ => rfl
  | beginCloseStore store =>
    rw [carryOut, BootstrapStore.begin]
    refine .begin rfl rfl ?_
    split <;> exact .silent rfl rfl
  | runCloseAction store container action =>
    exact (BootstrapStore.holds_runAction behaviour limit depth world store container
      action).handing_on fun _ => rfl
  | registerSingleton container name value =>
    rw [carryOut, Container.register]
    refine .begin rfl rfl ?_
    split <;> exact .silent rfl rfl
  | load loader container sources =>
    cases loader with
    | sources loader =>
      exact (Container.holds_loadSources behaviour limit depth world loader container
        sources).handing_on fun _ => rfl
    | custom participant =>
      exact (Act.Holds.of_call behaviour limit (.loadSources participant container sources)
        world).handing_on fun _ => rfl
  | registerForShutdown coordinator container =>
    obtain ⟨_, _, ran, journal⟩ := ShutdownCoordinator.registerContainer_silent
      (behaviour.invoker (limit + 1) depth) coordinator container world
    exact .silent ran journal
  | afterRefresh hooks container arguments =>
    exact (Act.Holds.of_call behaviour limit (.afterRefresh hooks container arguments)
      world).handing_on fun _ => rfl
  | callRunner runner arguments =>
    obtain ⟨⟨⟩, participant, order⟩ := runner
    · exact (Act.Holds.of_call behaviour limit (.runApplication participant arguments)
        world).handing_on fun _ => rfl
    · exact (Act.Holds.of_call behaviour limit (.runCommandLine participant arguments.given)
        world).handing_on fun _ => rfl
  | resolveExitCode container failure =>
    exact Container.holds_resolveExitCode behaviour limit depth world container failure
  | publish container event =>
    exact (Container.holds_publish behaviour limit depth world container event).handing_on
      fun _ => rfl
  | tellFailed listener container failure =>
    exact (listener.holds_failed behaviour limit depth world container failure).handing_on
      fun _ => rfl
  | buildReporter name factory container =>
    exact (Act.Holds.of_call behaviour limit (.buildReporter factory container) world).handing_on
      fun _ => rfl
  | report reporting failure =>
    cases reporting with
    | fixed claims => exact .silent rfl rfl
    | custom participant => exact .of_call behaviour limit (.report participant failure) world
  | close container =>
    exact (Container.holds_close behaviour limit depth world container).handing_on fun _ => rfl

/-- Every errand holds its dialogue, makes no other call, and answers what its calls came to. -/
theorem holds (errand : Errand) :
    ∃ attached, (attached ≠ [] → errand.isWatched world = true) ∧
      Act.Holds depth (errand.dialogue world attached) errand.failure?
        (errand.carryOut (behaviour.invoker (limit + 1) depth)) world := by
  by_cases refreshes : ∃ container, errand = .refresh container
  · obtain ⟨container, rfl⟩ := refreshes
    obtain ⟨attached, watched, holds⟩ :=
      Container.holds_refresh behaviour limit depth world container
    refine ⟨attached, fun more => ?_, holds.handing_on fun _ => rfl⟩
    obtain ⟨participant, watch⟩ := watched more
    rw [isWatched, watch]
  · exact ⟨[], fun more => absurd rfl more, holds_of_not_refresh behaviour limit depth world errand
      fun container same => refreshes ⟨container, same⟩⟩

end Errand

end

/-! ## What the errands of a record say -/

namespace Performed

/-- The lines that an errand left in the record of calls are those of its dialogue, and its answer
is what its calls came to. Only one who watches a refresh attaches listeners that still hear of
it. -/
def Speaks (depth : Nat) (performed : Performed) (lines : List JournalEntry) : Prop :=
  Writes depth lines performed.before performed.after ∧
    ∃ attached ending,
      (attached ≠ [] → performed.reply.errand.isWatched performed.before = true) ∧
      (performed.reply.errand.dialogue performed.before attached).Ends depth ending lines ∧
      Concludes performed.reply.errand.failure? ending performed.reply.answer

/-- Between two worlds the errands of a record held their dialogues, one after the other, and no
other call was made at their depth. -/
def Converse (depth : Nat) (record : List Performed) (world last : World) : Prop :=
  ∃ pieces, List.Forall₂ (Speaks depth) record pieces ∧ Writes depth pieces.flatten world last

variable {behaviour : Behaviour} {limit depth : Nat} {record : List Performed} {world last : World}

/-- An errand that was carried out held its dialogue. -/
theorem Ran.speaks {performed : Performed}
    (ran : performed.Ran (behaviour.invoker (limit + 1) depth)) :
    ∃ lines, performed.Speaks depth lines := by
  obtain ⟨before, ⟨errand, answer⟩, after⟩ := performed
  have carried : (errand.carryOut (behaviour.invoker (limit + 1) depth)).result before =
      (answer, after) := ran
  obtain ⟨attached, watched, ending, lines, ends, concludes, written⟩ :=
    errand.holds behaviour limit depth before
  rw [carried] at concludes written
  exact ⟨lines, written, attached, ending, watched, ends, concludes⟩

/-- The errands of a record hold their dialogues one after the other. -/
theorem Chain.converse (chain : Chain (behaviour.invoker (limit + 1) depth) world record last) :
    Converse depth record world last := by
  induction record generalizing world with
  | nil =>
    cases chain
    exact ⟨[], .nil, .refl last⟩
  | cons performed rest ih =>
    obtain ⟨rfl, carried, chain⟩ := chain
    obtain ⟨lines, speaks⟩ := Ran.speaks carried
    obtain ⟨pieces, others, written⟩ := ih chain
    exact ⟨lines :: pieces, .cons speaks others, speaks.1.trans written⟩

end Performed

end Launchpad
