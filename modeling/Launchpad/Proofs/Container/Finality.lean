import Launchpad.Proofs.Container.Announcement
import Launchpad.Proofs.Container.Life
import Launchpad.Proofs.Container.Stages

/-!
# A container ends once

Whatever a program and those it calls do with a container, over and over and inside each other, the
container is shut at most once, announces that at most once, and runs every callback that it was
given exactly once if it is shut, and not at all if it is not. Operations pass their moments,
section by section; a call to a participant passes those of the participant's program, which is an
induction on how deep the calls are nested.
-/

namespace Launchpad

open Container (Passes Sound sections_of_refresh sections_of_closeOnce closeOnce_of_closed
  closeOnce_of_close)

/-! ## What operations tell -/

variable {α β : Type} {ref : ContainerRef}

/-- An operation that comes to its end passes the given moments. -/
def Act.Tells (ref : ContainerRef) (act : Act α) (moments : World → List Moment) : Prop :=
  ∀ world answer later, Sound ref world → act.result world = (.ok answer, later) →
    ∀ due unannounced,
      Passes ref ⟨world, due, unannounced⟩ (moments world) ⟨later, due, unannounced⟩

namespace Act.Tells

/-- Nothing happens in the course of an operation that the end of the container does not depend
on. -/
theorem of_keeps {act : Act α} (keeps : Act.Keeps (Steady ref) act) :
    Tells ref act fun _ => [] := by
  intro world answer later _ ran due unannounced
  exact .of_steady (keeps world answer later ran)

/-- The moments of an operation are followed by those of the next, if it comes to that. -/
theorem bind {act : Act α} {next : α → Act β} {moments : World → List Moment}
    {rest : α → World → List Moment} (first : Tells ref act moments)
    (second : ∀ value, Tells ref (next value) (rest value)) :
    Tells ref (act >>= next) fun world => moments world ++ act.onward world rest := by
  intro world answer later sound ran due unannounced
  obtain ⟨value, between, begins, goesOn⟩ := Act.result_bind_ok_iff.1 ran
  have start := first world value between sound begins due unannounced
  dsimp only
  rw [Act.onward_of_ok begins]
  exact start.append
    (second value between answer later (start.account.sound sound) goesOn due unannounced)

/-- Nothing more happens in an operation that ends with what the container does not depend on. -/
theorem bind_steady {act : Act α} {next : α → Act β} {moments : World → List Moment}
    (first : Tells ref act moments) (second : ∀ value, Act.Keeps (Steady ref) (next value)) :
    Tells ref (act >>= next) moments := by
  intro world answer later sound ran due unannounced
  obtain ⟨value, between, begins, goesOn⟩ := Act.result_bind_ok_iff.1 ran
  rw [← List.append_nil (moments world)]
  exact (first world value between sound begins due unannounced).append
    (.of_steady (second value between answer later goesOn))

end Act.Tells

namespace Container

/-- Only a new container is not refused a refresh. -/
theorem phase_of_refusal? {container : Container} (begins : container.refusal? = none) :
    container.phase = .created := by
  unfold refusal? at begins
  split at begins
  · cases begins
  · cases begins
  · rename_i begun
    exact phase_of_beginRefresh begun

/-- A container that is open while it becomes active stays open. -/
theorem steady_markActive {world : World} (held : ContainerRef)
    (isOpen : held = ref → (world.container ref).isClosed = false) :
    Steady ref world (world.modifyContainer held markActive) := by
  apply Steady.modifyContainer
  intro here
  rw [isOpen here]
  exact ⟨rfl, rfl, rfl⟩

/-- Making a container leaves the others. -/
theorem steady_make (kind : ApplicationKind) (options : Options) :
    Act.Keeps (Steady ref) (make kind options) := by
  rintro world answer later ran
  obtain ⟨id, tracking, hidesRegistry, refreshFailure⟩ := options
  cases id <;> cases tracking <;> cases ran <;> exact .make rfl rfl

/-- Taking a container off a coordinator does nothing to containers. -/
theorem steady_deregister (invoke : Invoker) (held : ContainerRef) (coordinator : CoordinatorRef) :
    Act.Keeps (Steady ref) (runCallback invoke held (.deregister coordinator)) := by
  refine .look (Steady.framing ref) (fun _ => rfl) fun known => ?_
  split
  · exact .of_pure (Steady.framing ref) _
  · exact .of_modify fun world => .of_containers rfl rfl

end Container

/-- Whether a command operates a container, only looks at something, or keeps a record. -/
def Command.isOperation : Command → Bool
  | makeContainer .. | addListener .. | publish .. | refresh _ | close _ | onClose .. => true
  | command => command.isSlight

/-- A command is asked for, and then takes its course. -/
theorem Command.tells_asked {invoke : Invoker} {observer : Recorder Moment} {command : Command}
    (other : ∀ participant, command ≠ .onClose ref participant)
    (course : Act.Tells ref (command.carryOut invoke) (command.course invoke observer ref)) :
    Act.Tells ref (command.carryOut invoke) (command.moments invoke observer ref) := by
  intro world answer later sound ran due unannounced
  rw [Command.moments, Act.onward_of_ok ran]
  exact .step (.asked rfl ⟨invoke, ran⟩ other) (course world answer later sound ran due unannounced)

/-- The moments of calls to participants are what happens, and startups that are told of a refresh
leave the phase of the container alone. -/
structure Invoker.Observed (invoke : Invoker) (observer : Recorder Moment) (ref : ContainerRef)
    (depth : Nat) : Prop where
  calls : ∀ (call : Call) world answer later, Sound ref world →
    (invoke call).result world = (.ok answer, later) → ∀ due unannounced,
      Passes ref ⟨world.note (.called depth call), due, unannounced⟩ (observer call world)
        ⟨later, due, unannounced⟩
  notices : ∀ participant notice,
    Act.Keeps (PhaseStays ref) (invoke (.startupNotice participant notice))

section

variable {invoke : Invoker} {observer : Recorder Moment} {depth : Nat}
  (observed : invoke.Observed observer ref depth)

include observed

/-- A call tells what the participant does in it. -/
theorem Call.tells (call : Call) : Act.Tells ref (invoke call) (call.moments observer) := by
  intro world answer later sound ran due unannounced
  exact .step (.called depth call)
    (observed.calls call world answer later sound ran due unannounced)

namespace Startup

/-- Beginning a step tells what the participant does who is asked. -/
theorem tells_begin (startup : Startup) (name : String) :
    Act.Tells ref (startup.begin invoke name) (startup.moments observer (.begun { name })) := by
  cases startup with
  | watched participant =>
    exact (Call.tells observed _).bind_steady fun _ => .of_pure (Steady.framing ref) _
  | discarded | buffered => exact .of_keeps (.of_pure (Steady.framing ref) _)

/-- A tag tells what the participant does who keeps it. -/
theorem tells_tag (startup : Startup) (step : StartupStep) (key text : String) :
    Act.Tells ref (startup.tag invoke step key text)
      (startup.moments observer (.tagged (step.tag key text))) := by
  cases startup with
  | watched participant =>
    exact (Call.tells observed _).bind_steady fun _ => .of_pure (Steady.framing ref) _
  | discarded | buffered => exact .of_keeps (.of_pure (Steady.framing ref) _)

/-- The end of a step tells what the participant does who is handed it. -/
theorem tells_finish (startup : Startup) (step : StartupStep) :
    Act.Tells ref (startup.finish invoke step) (startup.moments observer (.ended step)) := by
  cases startup with
  | watched participant => exact Call.tells observed _
  | discarded => exact .of_keeps (.of_pure (Steady.framing ref) _)
  | buffered =>
    apply Act.Tells.of_keeps (.of_modify _)
    intro world
    exact (Steady.framing ref).aside rfl rfl rfl rfl

/-- Beginning a step does not refresh or close the container by itself. -/
theorem phaseStays_begin (startup : Startup) (name : String) :
    Act.Keeps (PhaseStays ref) (startup.begin invoke name) := by
  have framing := PhaseStays.framing ref
  cases startup with
  | watched participant =>
    exact .bind framing (observed.notices participant _) fun _ => .of_pure framing _
  | discarded | buffered => exact .of_pure framing _

/-- A tag does not refresh or close the container by itself. -/
theorem phaseStays_tag (startup : Startup) (step : StartupStep) (key text : String) :
    Act.Keeps (PhaseStays ref) (startup.tag invoke step key text) := by
  have framing := PhaseStays.framing ref
  cases startup with
  | watched participant =>
    exact .bind framing (observed.notices participant _) fun _ => .of_pure framing _
  | discarded | buffered => exact .of_pure framing _

end Startup

namespace Container

/-- Delivering an event tells what each listener does, up to the first that fails. -/
theorem tells_deliver (event : ApplicationEvent) (listeners : List ApplicationListener) :
    Act.Tells ref (deliver invoke event listeners)
      (deliverMoments invoke observer event listeners) := by
  induction listeners with
  | nil => exact .of_keeps (.of_pure (Steady.framing ref) _)
  | cons listener rest ih =>
    apply (Call.tells observed _).bind
    intro told
    cases told with
    | error failure => exact .of_keeps (.of_pure (Steady.framing ref) _)
    | ok => exact ih

/-- Publishing an event tells what the listeners of the container do. -/
theorem tells_publish (held : ContainerRef) (event : ApplicationEvent) :
    Act.Tells ref (publish invoke held event) (publishMoments invoke observer held event) := by
  intro world answer later sound ran
  exact tells_deliver observed event (world.container held).listeners world answer later sound ran

/-- A refresh tells of the startup, of the activation and of the listeners, unless it is refused. -/
theorem tells_refresh (held : ContainerRef) :
    Act.Tells ref (refresh invoke held) fun world =>
      match (world.container held).refusal? with
      | some _ => []
      | none => refreshMoments invoke observer held world := by
  intro world answer later sound ran due unannounced
  rcases sections_of_refresh ran with
    ⟨failure, refused, -, rfl⟩ | ⟨begins, step, announced, recorded, announces, records, publishes⟩
  · simp only [refused]
    exact .done
  · simp only [begins]
    generalize started : world.container held = container at *
    obtain ⟨begun, first, opens, tags⟩ := Act.result_bind_ok_iff.1 announces
    obtain ⟨active, between, looks, records⟩ := Act.result_bind_ok_iff.1 records
    cases looks
    obtain ⟨_, logged, logs, finishes⟩ := Act.result_bind_ok_iff.1 records
    have logs : (logRefresh held).result (announced.modifyContainer held markActive) =
      (.ok (), logged) := logs
    have opening :=
      (container.startup.tells_begin observed refreshStep) world begun first sound opens
      due unannounced
    have tagging := (container.startup.tells_tag observed begun "context" container.id) first step
      announced (opening.account.sound sound) tags due unannounced
    have steady : Steady ref announced logged := by
      have framing := Steady.framing ref
      refine (steady_markActive held ?_).trans ((Act.Keeps.look framing (fun _ => rfl) fun _ =>
        .log framing _ _ _) _ () logged logs)
      rintro rfl
      have stays :=
        (container.startup.phaseStays_begin observed refreshStep world begun first opens).trans
          (container.startup.phaseStays_tag observed begun "context" container.id first step
            announced tags)
      have created := phase_of_refusal? begins
      rw [isClosed, stays.phase sound.made, started, created]
      rfl
    have recording := (opening.append tagging).append (Passes.of_steady steady)
    have finishing := (container.startup.tells_finish observed step) logged () recorded
      (recording.account.sound sound) finishes due unannounced
    have publishing :=
      tells_publish observed held (.contextRefreshed container.id) recorded answer later
      ((recording.append finishing).account.sound sound) publishes due unannounced
    rw [refreshMoments]
    dsimp only
    rw [started, Act.onward_of_ok opens, Act.onward_of_ok tags, Act.onward_of_ok logs,
      Act.onward_of_ok finishes]
    exact opening.append (tagging.append (.quiet steady (finishing.append publishing)))

/-- A callback of a closed container that is due runs, and then it is not due any more. -/
theorem passes_runCallback {world later : World} {callback : CloseCallback}
    (sound : Sound ref world) (closed : (world.container ref).isClosed = true)
    (ran : (runCallback invoke ref callback).result world = (.ok (), later))
    (due : List CloseCallback) (unannounced : Nat) :
    Passes ref ⟨world, callback :: due, unannounced⟩
      (callbackMoments observer ref ref callback world) ⟨later, due, unannounced⟩ := by
  cases callback with
  | custom participant =>
    have nested :=
      observed.calls (.containerClosed participant) world () later sound ran due unannounced
    rw [callbackMoments, if_pos rfl]
    exact .step (.ran closed depth participant) nested
  | deregister coordinator =>
    rw [callbackMoments, if_pos rfl]
    exact .step (.tookOff closed coordinator)
      (.of_steady (steady_deregister invoke ref coordinator world () later ran))

/-- Callbacks that are due run one after the other. -/
theorem passes_runCallbacks {callbacks : List CloseCallback} {world later : World}
    (sound : Sound ref world) (closed : (world.container ref).isClosed = true)
    (ran : (Act.forEach (runCallback invoke ref) callbacks).result world = (.ok (), later))
    (due : List CloseCallback) (unannounced : Nat) :
    Passes ref ⟨world, callbacks ++ due, unannounced⟩
      (callbacksMoments invoke observer ref ref callbacks world) ⟨later, due, unannounced⟩ := by
  induction callbacks generalizing world with
  | nil =>
    cases ran
    exact .done
  | cons callback rest ih =>
    obtain ⟨_, between, runs, goesOn⟩ := Act.result_bind_ok_iff.1 ran
    have start := passes_runCallback observed sound closed runs (rest ++ due) unannounced
    rw [callbacksMoments, Act.onward_of_ok runs]
    exact start.append
      (ih (start.account.sound sound) (start.account.stays sound closed) goesOn)

/-- The callbacks of another container are calls like any other. -/
theorem tells_runCallback {held : ContainerRef} (other : held ≠ ref) (callback : CloseCallback) :
    Act.Tells ref (runCallback invoke held callback)
      (callbackMoments observer ref held callback) := by
  cases callback with
  | custom participant =>
    have called := Call.tells observed (.containerClosed participant)
    intro world answer later sound ran due unannounced
    rw [callbackMoments, if_neg other]
    exact called world answer later sound ran due unannounced
  | deregister coordinator =>
    intro world answer later sound ran due unannounced
    rw [callbackMoments, if_neg other]
    exact .of_steady (steady_deregister invoke held coordinator world answer later ran)

/-- The close of another container tells what its callbacks do. -/
theorem tells_runCallbacks {held : ContainerRef} (other : held ≠ ref)
    (callbacks : List CloseCallback) :
    Act.Tells ref (Act.forEach (runCallback invoke held) callbacks)
      (callbacksMoments invoke observer ref held callbacks) := by
  induction callbacks with
  | nil => exact .of_keeps (.of_pure (Steady.framing ref) _)
  | cons callback rest ih =>
    exact (tells_runCallback observed other callback).bind fun _ => ih

/-- What follows the announcement of a close, if it is announced. -/
theorem tells_announcement (held : ContainerRef) (event : ApplicationEvent) (id : String) :
    Act.Tells ref (do
      if let .error failure ← publish invoke held event then
        Act.log .warn "Exception thrown from listener while closing" [
          ("context", id), ("error", failure.message)])
      (publishMoments invoke observer held event) := by
  apply (tells_publish observed held event).bind_steady
  intro told
  split
  · exact .log (Steady.framing ref) _ _ _
  · exact .of_pure (Steady.framing ref) _

/-- A container that was active and is shut is announced to be closed. -/
theorem passes_announceClose {world later : World} {container : Container}
    (sound : Sound ref world) (closed : (world.container ref).isClosed = true)
    (same : container.id = (world.container ref).id)
    (ran : (announceClose invoke ref container).result world = (.ok (), later))
    (due : List CloseCallback) (unannounced : Nat) :
    Passes ref ⟨world, due, unannounced + if container.isActive then 1 else 0⟩
      (announceMoments invoke observer ref ref container world) ⟨later, due, unannounced⟩ := by
  unfold announceClose at ran
  unfold announceMoments
  split
  · rename_i active
    rw [if_pos active] at ran
    rw [if_pos rfl, same]
    rw [same] at ran
    have told := tells_announcement observed ref _ _ world () later sound ran due unannounced
    exact .step (.announced closed) told
  · rename_i inactive
    rw [if_neg inactive] at ran
    cases ran
    exact .done

/-- The close of another container tells what its listeners do. -/
theorem tells_announceClose {held : ContainerRef} (other : held ≠ ref) (container : Container) :
    Act.Tells ref (announceClose invoke held container)
      (announceMoments invoke observer ref held container) := by
  intro world answer later sound ran due unannounced
  unfold announceClose at ran
  unfold announceMoments
  split
  · rename_i active
    rw [if_pos active] at ran
    exact tells_announcement observed held _ _ world answer later sound ran due unannounced
  · rename_i inactive
    rw [if_neg inactive] at ran
    cases ran
    exact .done

/-- A close tells what it does if nobody has closed the container before. -/
theorem tells_closeOnce (held : ContainerRef) :
    Act.Tells ref (closeOnce invoke held) (closeMoments invoke observer ref held) := by
  intro world answer later sound ran due unannounced
  rw [closeMoments]
  cases closed : (world.container held).isClosed with
  | true =>
    rw [closeOnce_of_closed closed] at ran
    cases ran
    simp only [if_true]
    exact .done
  | false =>
    obtain ⟨announced, unwound, announces, unwinds, logs⟩ := sections_of_closeOnce closed ran
    have logging : Steady ref unwound later :=
      Act.Keeps.log (Steady.framing ref) _ _ _ unwound () later logs
    simp only [Bool.false_eq_true, if_false]
    rw [Act.onward_of_ok announces]
    -- The close of another container is steady in itself, but what its listeners and callbacks do
    -- may concern this one.
    by_cases here : held = ref
    · subst here
      have shuts : Step held ⟨world, due, unannounced⟩ ⟨world, .shut⟩ _ := .shut closed
      have shut := shuts.entry.sound sound
      have left := World.container_modifyContainer_self world held
        (fun _ => (world.container held).shut) sound.made
      have announcing := passes_announceClose observed shut (by rw [left]; rfl) (by rw [left]; rfl)
        announces ((world.container held).closeCallbacks ++ due) unannounced
      have running := passes_runCallbacks observed (announcing.account.sound shut)
        (announcing.account.stays shut (by rw [left]; rfl)) unwinds due unannounced
      rw [if_pos rfl]
      have ending := running.append (.of_steady logging)
      rw [List.append_nil] at ending
      exact .step shuts (announcing.append ending)
    · have shutting : Steady ref world
          (world.modifyContainer held fun _ => (world.container held).shut) :=
        .modifyContainer world held fun same => absurd same here
      have started : Passes ref ⟨world, due, unannounced⟩ [] ⟨_, due, unannounced⟩ :=
        .of_steady shutting
      have shut := started.account.sound sound
      have announcing :=
        tells_announceClose observed here (world.container held) _ () announced shut
        announces due unannounced
      have running :=
        tells_runCallbacks observed here (world.container held).closeCallbacks announced
        () unwound (announcing.account.sound shut) unwinds due unannounced
      rw [if_neg here]
      have ending := running.append (.of_steady logging)
      rw [List.append_nil] at ending
      exact .quiet shutting (announcing.append ending)

/-- A close is counted first, and then tells what it does. -/
theorem tells_close (held : ContainerRef) :
    Act.Tells ref (close invoke held) fun world =>
      closeMoments invoke observer ref held (world.modifyContainer held countClose) := by
  intro world answer later sound ran due unannounced
  have counting : Steady ref world (world.modifyContainer held countClose) :=
    .modifyContainer world held fun _ => ⟨rfl, rfl, rfl⟩
  have started : Passes ref ⟨world, due, unannounced⟩ [] ⟨_, due, unannounced⟩ :=
    .of_steady counting
  exact started.append (tells_closeOnce observed held _ () later (started.account.sound sound)
    (closeOnce_of_close ran) due unannounced)

end Container

/-- A callback tells what it does if it runs at once. -/
theorem Command.tells_onClose (held : ContainerRef) (participant : Participant) :
    Act.Tells ref ((Command.onClose held participant).carryOut invoke)
      ((Command.onClose held participant).moments invoke observer ref) := by
  intro world answer later sound ran due unannounced
  have asked := Act.onward_of_ok ran fun answer left =>
    [(⟨world, .asked ⟨.onClose held participant, world, answer, left⟩⟩ : Moment)]
  have genuine : Exchange.Genuine ⟨.onClose held participant, world, answer, later⟩ := ⟨invoke, ran⟩
  rw [Command.moments, asked]
  have looked : (Container.onClose invoke held (.custom participant)).result world =
    (if (world.container held).isClosed = true then
      Container.runCallback invoke held (.custom participant)
    else Act.modifyContainer held (·.addCallback (.custom participant))).result world := rfl
  have ran := looked.symm.trans ran
  rw [Command.course]
  cases closed : (world.container held).isClosed with
  | true =>
    rw [closed] at ran
    simp only [if_true] at ran ⊢
    by_cases here : held = ref
    · subst here
      exact .step (.passed genuine closed)
        (Container.passes_runCallback observed sound closed ran due unannounced)
    · refine .step (.asked rfl genuine fun _ same => ?_)
        (Container.tells_runCallback observed here (.custom participant) world () later sound ran
          due unannounced)
      cases same
      exact here rfl
  | false =>
    rw [closed] at ran
    simp only [Bool.false_eq_true, if_false] at ran ⊢
    cases ran
    by_cases here : held = ref
    · subst here
      exact .step (.kept genuine closed) .done
    · refine .step (.asked rfl genuine fun _ same => ?_)
        (.of_steady (.modifyContainer world held fun same => absurd same here))
      cases same
      exact here rfl

/-- An operation of containers tells its moments. -/
theorem Command.tells {command : Command} (operation : command.isOperation = true) :
    Act.Tells ref (command.carryOut invoke) (command.moments invoke observer ref) := by
  cases command with
  | onClose held participant => exact Command.tells_onClose observed held participant
  | publish held event =>
    exact Command.tells_asked (by simp) (Container.tells_publish observed held event)
  | refresh held => exact Command.tells_asked (by simp) (Container.tells_refresh observed held)
  | close held => exact Command.tells_asked (by simp) (Container.tells_close observed held)
  | makeContainer kind options =>
    exact Command.tells_asked (by simp) (.of_keeps (Container.steady_make kind options))
  | addListener held listener =>
    refine Command.tells_asked (by simp) (.of_keeps (.of_modify fun world => ?_))
    exact .modifyContainer world held fun _ => ⟨rfl, rfl, rfl⟩
  | _ =>
    refine Command.tells_asked (by simp) (.of_keeps (.of_respects ?_))
    exact Command.respects_of_slight (Steady.framing ref) operation

/-- A program whose commands are operations of containers passes its moments. -/
theorem Program.tells {program : Program α}
    (operates : program.Within fun command => command.isOperation = true) :
    Act.Tells ref (program.carryOut invoke) (program.moments invoke observer ref) := by
  induction program with
  | done answer => exact .of_keeps (.of_pure (Steady.framing ref) answer)
  | panic message => exact .of_keeps (.of_throw _)
  | perform command next ih =>
    exact (Command.tells observed operates.1).bind fun answer => ih answer (operates.2 answer)

end

/-- Participants whose commands are operations of containers are observed, if they do no more than
look or furnish a container when they are told of a startup. -/
theorem Behaviour.observed {behaviour : Behaviour}
    (operates : ∀ call, (behaviour call).Within fun command => command.isOperation = true)
    (modest : ∀ participant notice, (behaviour (.startupNotice participant notice)).Within
      fun command => command.isSlight = true)
    (ref : ContainerRef) (limit depth : Nat) :
    Invoker.Observed (behaviour.invoker limit depth) (behaviour.observer ref limit depth) ref
      depth := by
  induction limit generalizing depth with
  | zero =>
    refine ⟨?_, fun _ _ => .of_throw _⟩
    intro call world answer later _ ran
    cases ran
  | succ limit ih =>
    constructor
    · intro call world answer later sound ran due unannounced
      obtain ⟨_, noted, notes, ran⟩ := Act.result_bind_ok_iff.1 ran
      cases notes
      obtain ⟨_, carried, carries, ran⟩ := Act.result_bind_ok_iff.1 ran
      obtain ⟨_, ended, ends, ran⟩ := Act.result_bind_ok_iff.1 ran
      cases ends
      cases ran
      have known : Sound ref (world.note (.called depth call)) :=
        ⟨sound.made, sound.settled, sound.plain⟩
      have passes :=
        Program.tells (ih (depth + 1)) (operates call) _ answer carried known carries due
        unannounced
      have answered : Steady ref carried
          (carried.note (.answered depth (call.failure? answer))) := by
        have same : (carried.note (.answered depth (call.failure? answer))).containers =
          carried.containers := rfl
        refine .of_containers same ?_
        rw [World.calls_note]
        exact List.append_nil _
      have whole := passes.append (.of_steady answered)
      rwa [List.append_nil] at whole
    · intro participant notice
      have framing := PhaseStays.framing ref
      have notes (entry : JournalEntry) : Act.Keeps (PhaseStays ref) (Behaviour.note entry) :=
        .of_modify fun world => .of_containers rfl
      have carries : Act.Keeps (PhaseStays ref)
          ((behaviour (.startupNotice participant notice)).carryOut
            (behaviour.invoker limit (depth + 1))) :=
        Program.holds (Act.Keeps.composes framing)
          (fun command slight => .of_respects (Command.respects_of_slight framing slight))
          (modest participant notice)
      apply Act.Keeps.bind framing (notes _)
      intro _
      apply Act.Keeps.bind framing carries
      intro answer
      exact .bind framing (notes _) fun _ => .of_pure framing _

/-! ## The end of a container -/

/-- A command is refused, if it is one that a closed container refuses. -/
def Exchange.Refused (ref : ContainerRef) (exchange : Exchange) : Prop :=
  match exchange with
  | ⟨.registerBean held _ _, found, answer, left⟩ | ⟨.refresh held, found, answer, left⟩ =>
    held = ref → answer = .error (.container .closed) ∧ left = found
  | _ => True

namespace Container

/-- A closed container accepts no bean. -/
theorem register_of_isClosed {world : World} (closed : (world.container ref).isClosed = true)
    (name : String) (bean : Bean) :
    (register ref name bean).result world = (.ok (.error .closed), world) := by
  have looks : (Act.container ref).result world = (.ok (world.container ref), world) := rfl
  rw [register, Act.result_bind, looks]
  dsimp only
  rw [registerBean_of_isClosed closed]
  rfl

/-- A closed container is refused a refresh because it is closed. -/
theorem refusal?_of_isClosed {container : Container} (plain : container.refreshFailure = none)
    (closed : container.isClosed = true) : container.refusal? = some (.container .closed) := by
  rw [refusal?, plain, beginRefresh_of_isClosed closed]

end Container

/-- An operation on a closed container that has to be refused is refused. -/
theorem Exchange.refused_of_closed {exchange : Exchange} (genuine : exchange.Genuine)
    (plain : (exchange.found.container ref).refreshFailure = none)
    (closed : (exchange.found.container ref).isClosed = true) : exchange.Refused ref := by
  obtain ⟨command, found, answer, left⟩ := exchange
  obtain ⟨invoke, ran⟩ := genuine
  dsimp only at plain closed ran
  cases command with
  | registerBean held name bean =>
    rintro rfl
    obtain ⟨registered, between, registers, ends⟩ := Act.result_bind_ok_iff.1 ran
    rw [Container.register_of_isClosed closed] at registers
    cases registers
    cases ends
    exact ⟨rfl, rfl⟩
  | refresh held =>
    rintro rfl
    have refuses := Container.refusal?_of_isClosed plain closed
    rcases sections_of_refresh ran with ⟨failure, refused, same, unchanged⟩ | ⟨begins, -⟩
    · rw [refuses] at refused
      cases refused
      exact ⟨same, unchanged⟩
    · rw [refuses] at begins
      cases begins
  | _ => trivial

/-- The end of a container that is open in the first world and is left in the last. -/
structure Ends (ref : ContainerRef) (first : World) (moments : List Moment) (last : World) :
    Prop where
  /-- If it is closed, the callbacks that have run are those that it had or was given, each as often
  as it was given; else none has run. -/
  callbacks : if (last.container ref).isClosed then
    (moments.filterMap Moment.runs?).Perm
      ((first.container ref).closeCallbacks ++ moments.filterMap (Moment.gives? ref))
    else moments.filterMap Moment.runs? = []
  /-- A callback only runs once the container is closed. -/
  afterwards : ∀ moment ∈ moments, ∀ callback, moment.happening = .ran callback →
    (moment.world.container ref).isClosed = true
  /-- It is shut once if it is closed, and never else. -/
  shut : moments.countP Moment.isShut = if (last.container ref).isClosed then 1 else 0
  /-- The close publishes as many events as the container is shut while it is active. -/
  announced : moments.countP Moment.isAnnounced = moments.countP (Moment.isEnd ref)
  /-- What the close publishes is that the container is closed. -/
  announcement : ∀ moment ∈ moments, ∀ event, moment.happening = .announced event →
    event = .contextClosed (moment.world.container ref).id
  /-- What the close publishes is heard at once. -/
  heard : Heard ref moments
  /-- Once it is shut, every bean and every refresh is refused, and nothing changes. -/
  refused : ∀ earlier moment later, moments = earlier ++ moment :: later → moment.isShut = true →
    ∀ other ∈ later, ∀ exchange, other.happening = .asked exchange → exchange.Refused ref
  /-- The commands are those that were carried out. -/
  genuine : ∀ moment ∈ moments, ∀ exchange, moment.happening = .asked exchange →
    exchange.found = moment.world ∧ exchange.Genuine
  /-- The calls are those that were made. -/
  calls : last.calls = first.calls ++ moments.filterMap Moment.call?

namespace Container

variable {first between last : Stage} {moments : List Moment} {moment : Moment}

/-- A callback only runs when the container is closed. -/
theorem Step.closed_of_ran {callback : CloseCallback} (step : Step ref first moment last)
    (runs : moment.happening = .ran callback) : (first.world.container ref).isClosed = true := by
  cases step with
  | ran closed | tookOff closed => exact closed
  | _ => cases runs

/-- The container announces nothing but its close. -/
theorem Step.event_of_announced {event : ApplicationEvent} (step : Step ref first moment last)
    (announces : moment.happening = .announced event) :
    event = .contextClosed (first.world.container ref).id := by
  cases step with
  | announced closed =>
    cases announces
    rfl
  | _ => cases announces

/-- Whatever is asked of the container is asked of it as it is then. -/
theorem Step.genuine_of_asked {exchange : Exchange} (step : Step ref first moment last)
    (asks : moment.happening = .asked exchange) :
    exchange.found = first.world ∧ exchange.Genuine := by
  cases step with
  | asked found genuine _ =>
    cases asks
    exact ⟨found, genuine⟩
  | kept genuine _ | passed genuine _ =>
    cases asks
    exact ⟨rfl, genuine⟩
  | _ => cases asks

/-- Every moment is a step from the stage that it finds. -/
theorem Passes.step_of_mem (passes : Passes ref first moments last) (among : moment ∈ moments) :
    ∃ before after, before.world = moment.world ∧ Step ref before moment after ∧
      ∃ rest, Passes ref after rest last ∧ (Sound ref first.world → Sound ref before.world) := by
  obtain ⟨earlier, later, rfl⟩ := List.append_of_mem among
  obtain ⟨before, after, start, step, rest⟩ := passes.at_moment
  exact ⟨before, after, step.entry.found.symm, step, later, rest, start.account.sound⟩

/-- Nothing that an open container was given has run. -/
theorem Passes.runs_eq_nil (passes : Passes ref first moments last) (sound : Sound ref first.world)
    (isOpen : (last.world.container ref).isClosed = false) :
    moments.filterMap Moment.runs? = [] := by
  rw [List.filterMap_eq_nil_iff]
  intro moment among
  obtain ⟨before, after, -, step, _, rest, sound'⟩ := passes.step_of_mem among
  unfold Moment.runs?
  split
  · rename_i callback runs
    have onwards := (Passes.step step rest).account
    rw [onwards.stays (sound' sound) (step.closed_of_ran runs)] at isOpen
    cases isOpen
  · rfl

/-- Moments that leave nothing owed end the container. -/
theorem Passes.ends {world later : World}
    (passes : Passes ref ⟨world, [], 0⟩ moments ⟨later, [], 0⟩)
    (heard : Heard ref moments) (sound : Sound ref world)
    (isOpen : (world.container ref).isClosed = false) : Ends ref world moments later where
  heard
  callbacks := by
    have account := passes.account
    cases closed : (later.container ref).isClosed with
    | true =>
      have settled := (account.sound sound).settled closed
      rw [if_pos rfl, List.perm_iff_count]
      intro callback
      -- A container that is closed owes nothing, so what has run balances what was there and what
      -- was given.
      have balance := account.callbacks sound callback
      simp only [owed, settled, List.nil_append, List.count_nil, Nat.zero_add] at balance
      rw [balance, List.count_append]
    | false => exact passes.runs_eq_nil sound closed
  afterwards moment among callback runs := by
    obtain ⟨before, after, found, step, -⟩ := passes.step_of_mem among
    rw [← found]
    exact step.closed_of_ran runs
  shut := by
    have balance := passes.account.ended sound
    simp only [Container.ended, isOpen, Bool.false_eq_true, if_false, Nat.zero_add] at balance
    exact balance.symm
  announced := by
    have balance := passes.account.announced
    simpa using balance
  announcement moment among event announces := by
    obtain ⟨before, after, found, step, -⟩ := passes.step_of_mem among
    rw [← found]
    exact step.event_of_announced announces
  refused earlier moment later whole shuts other among exchange asks := by
    subst whole
    obtain ⟨known, closed⟩ := passes.closed_since sound shuts other among
    obtain ⟨before, after, found, step, -⟩ := passes.step_of_mem
      (List.mem_append_right earlier (List.mem_cons_of_mem moment among))
    obtain ⟨same, genuine⟩ := step.genuine_of_asked asks
    rw [found] at same
    rw [← same] at known closed
    exact Exchange.refused_of_closed genuine known.plain closed
  genuine moment among exchange asks := by
    obtain ⟨before, after, found, step, -⟩ := passes.step_of_mem among
    rw [← found]
    exact step.genuine_of_asked asks
  calls := passes.account.calls

end Container

/-- However a program and those who are called in the course of it operate containers, a container
that is open before ends once, or not at all. -/
theorem Program.container_ends_once {behaviour : Behaviour}
    (operates : ∀ call, (behaviour call).Within fun command => command.isOperation = true)
    (modest : ∀ participant notice, (behaviour (.startupNotice participant notice)).Within
      fun command => command.isSlight = true)
    {program : Program α} (within : program.Within fun command => command.isOperation = true)
    {world last : World} {answer : α} (limit depth : Nat)
    (made : ref.index < world.containers.length)
    (isOpen : (world.container ref).isClosed = false)
    (plain : (world.container ref).refreshFailure = none)
    (ran : (program.carryOut (behaviour.invoker limit depth)).result world = (.ok answer, last)) :
    Ends ref world
      (program.moments (behaviour.invoker limit depth) (behaviour.observer ref limit depth) ref
        world)
      last := by
  have sound : Sound ref world := ⟨made, fun closed => by simp [isOpen] at closed, plain⟩
  have passes := Program.tells (Behaviour.observed operates modest ref limit depth) within world
    answer last sound ran [] 0
  exact passes.ends (Program.heard (behaviour.heard ref limit depth) program world) sound isOpen

/-- A listener that answers a close with another close, a callback, a bean and a failure, and a
callback that gives the container another callback. -/
def clings : Behaviour
  | .onEvent _ (.contextClosed _) =>
    .perform (.close ⟨0⟩) fun _ => .perform (.onClose ⟨0⟩ { name := "late" }) fun _ =>
      .perform (.registerBean ⟨0⟩ "bean" (.value (.text "more"))) fun _ =>
        .done (.error (.text "not now"))
  | .onEvent _ _ => .done (.ok ())
  | .containerClosed { name := "first", .. } =>
    .perform (.onClose ⟨0⟩ { name := "second" }) fun _ => .perform (.refresh ⟨0⟩) fun _ => .done ()
  | .containerClosed _ => .done ()
  | _ => .panic "unexpected call"

/-- A new container with a listener. -/
def listening : World :=
  { containers := [
      { id := "one", kind := .standalone,
        listeners := [{ participant := { name := "listener" } }] }] }

/-- Gives a container a callback, refreshes it, and closes it twice. -/
def closesTwice : Program Unit :=
  .perform (.onClose ⟨0⟩ { name := "first" }) fun _ => .perform (.refresh ⟨0⟩) fun _ =>
    .perform (.close ⟨0⟩) fun _ => .perform (.close ⟨0⟩) fun _ => .done ()

/-- A listener closes the container again and gives it a callback while it is closing, and a
callback gives it another: all of them run, each once, and the close is announced once. -/
theorem container_ends_once_clung :
    ∃ moments last, (closesTwice.carryOut (clings.invoker 3 0)).result listening = (.ok (), last) ∧
      Ends ⟨0⟩ listening moments last ∧
      moments.filterMap Moment.runs? = [.custom { name := "late" }, .custom { name := "first" },
        .custom { name := "second" }] ∧
      moments.countP Moment.isAnnounced = 1 := by
  have answers : ((closesTwice.carryOut (clings.invoker 3 0)).result listening).1 = .ok () := by
    decide +kernel
  refine ⟨_, _, Prod.ext answers rfl, Program.container_ends_once ?_ ?_ ?_ 3 0 (by decide) rfl rfl
    (Prod.ext answers rfl), ?_, ?_⟩
  · intro call
    unfold clings
    split
    · exact ⟨rfl, fun _ => ⟨rfl, fun _ => ⟨rfl, fun _ => trivial⟩⟩⟩
    · trivial
    · exact ⟨rfl, fun _ => ⟨rfl, fun _ => trivial⟩⟩
    · trivial
    · trivial
  · exact fun _ _ => trivial
  · exact ⟨rfl, fun _ => ⟨rfl, fun _ => ⟨rfl, fun _ => ⟨rfl, fun _ => trivial⟩⟩⟩⟩
  · decide +kernel
  · decide +kernel

end Launchpad
