import Launchpad.Proofs.Bootstrap.Bookkeeping
import Launchpad.Proofs.Launch.Following
import Launchpad.Proofs.Operation.Closing

/-!
# What operations yield

An operation of which everything that it depends on is known can be evaluated: it comes to its end
with one answer and leaves one world. Records of what happened grow on the way, and nothing depends
on them, so worlds count as alike that differ in nothing else. The rules here evaluate operations,
programs of participants and steps of a run in the order in which they are built.
-/

namespace Launchpad

/-- Worlds that differ in nothing but records: the journal, the log, remarks, measurements, what the
process was told about its surroundings, and which coordinators a signal would trigger. -/
structure World.Alike (world other : World) : Prop where
  containers : other.containers = world.containers
  stores : other.stores = world.stores
  coordinators : other.coordinators = world.coordinators
  vars : other.vars = world.vars
  nextContainer : other.nextContainer = world.nextContainer
  nextInstance : other.nextInstance = world.nextInstance
  memory : other.memory = world.memory
  console : other.console = world.console

namespace World.Alike

variable {world other : World}

/-- A world is like itself. -/
theorem refl (world : World) : world.Alike world := ⟨rfl, rfl, rfl, rfl, rfl, rfl, rfl, rfl⟩

/-- Alike worlds show the same containers. -/
theorem container (alike : world.Alike other) (ref : ContainerRef) :
    other.container ref = world.container ref := by
  rw [World.container, World.container, alike.containers]

/-- Alike worlds show the same stores. -/
theorem store (alike : world.Alike other) (ref : StoreRef) : other.store ref = world.store ref := by
  rw [World.store, World.store, alike.stores]

/-- Alike worlds show the same coordinators. -/
theorem coordinator (alike : world.Alike other) (ref : CoordinatorRef) :
    other.coordinator ref = world.coordinator ref := by
  rw [World.coordinator, World.coordinator, alike.coordinators]

end World.Alike

variable {α β σ ε : Type}

/-- Wherever the world is like the one before, the operation comes to its end with the answer and
leaves a world like the one after. -/
def Act.Yields (act : Act α) (before : World) (answer : α) (after : World) : Prop :=
  ∀ world, before.Alike world → ∃ later, act.result world = (.ok answer, later) ∧ after.Alike later

namespace Act.Yields

variable {before between after : World} {ref : ContainerRef}

/-- An answer that is there already is yielded. -/
theorem pure (answer : α) : (Pure.pure answer : Act α).Yields before answer before :=
  fun world alike => ⟨world, rfl, alike⟩

/-- What one operation yields, the next one begins with. -/
theorem bind {act : Act α} {next : α → Act β} {value : α} {answer : β}
    (first : act.Yields before value between) (rest : (next value).Yields between answer after) :
    (act >>= next).Yields before answer after := by
  intro world alike
  obtain ⟨middle, begins, alike⟩ := first world alike
  obtain ⟨later, goesOn, alike⟩ := rest middle alike
  exact ⟨later, Act.result_bind_ok_iff.2 ⟨value, middle, begins, goesOn⟩, alike⟩

/-- Looking at the world yields what is there, if all worlds alike agree on it. -/
theorem look {read : World → α} (same : ∀ world, before.Alike world → read world = read before) :
    (do return read (← get) : Act α).Yields before (read before) before := by
  intro world alike
  refine ⟨world, ?_, alike⟩
  rw [← same world alike]
  rfl

/-- The world is looked at, and what is seen decides what follows. -/
theorem bind_look {read : World → α} {next : α → Act β} {answer : β}
    (same : ∀ world, before.Alike world → read world = read before)
    (rest : (next (read before)).Yields before answer after) :
    (do next (read (← get)) : Act β).Yields before answer after := by
  intro world alike
  obtain ⟨later, goesOn, alike'⟩ := rest world alike
  refine ⟨later, Act.result_bind_ok_iff.2 ⟨world, world, rfl, ?_⟩, alike'⟩
  rw [same world alike]
  exact goesOn

theorem container (ref : ContainerRef) :
    (Act.container ref).Yields before (before.container ref) before :=
  look fun _ alike => alike.container ref

theorem store (ref : StoreRef) : (Act.store ref).Yields before (before.store ref) before :=
  look fun _ alike => alike.store ref

theorem coordinator (ref : CoordinatorRef) :
    (Act.coordinator ref).Yields before (before.coordinator ref) before :=
  look fun _ alike => alike.coordinator ref

/-- A change that takes worlds alike to worlds alike yields the changed world. -/
theorem modify {change : World → World}
    (alike : ∀ world, before.Alike world → after.Alike (change world)) :
    (modify change : Act Unit).Yields before () after :=
  fun world same => ⟨change world, rfl, alike world same⟩

/-- A container is changed. -/
theorem modifyContainer (ref : ContainerRef) (change : Container → Container) :
    (Act.modifyContainer ref change).Yields before () (before.modifyContainer ref change) :=
  modify fun _ alike => { alike with
    containers := by rw [World.modifyContainer, World.modifyContainer, alike.containers] }

/-- A store is changed. -/
theorem modifyStore (ref : StoreRef) (change : BootstrapStore → BootstrapStore) :
    (Act.modifyStore ref change).Yields before () (before.modifyStore ref change) :=
  modify fun _ alike => { alike with
    stores := by rw [World.modifyStore, World.modifyStore, alike.stores] }

/-- A coordinator is changed. -/
theorem modifyCoordinator (ref : CoordinatorRef)
    (change : ShutdownCoordinator → ShutdownCoordinator) :
    (Act.modifyCoordinator ref change).Yields before () (before.modifyCoordinator ref change) :=
  modify fun _ alike => { alike with
    coordinators := by rw [World.modifyCoordinator, World.modifyCoordinator, alike.coordinators] }

/-- Logs are not told apart. -/
theorem log (level : LogLevel) (message : String) (fields : List (String × String)) :
    (Act.log level message fields).Yields before () before :=
  modify fun _ alike => { alike with }

/-- What is printed is shown on the console. -/
theorem print (text : String) :
    (Act.print text).Yields before () { before with console := before.console ++ text } :=
  modify fun _ alike => { alike with console := by rw [alike.console] }

/-- Operations that are equal yield the same. -/
theorem of_eq {act other : Act α} {answer : α} (yields : act.Yields before answer after)
    (same : other = act) : other.Yields before answer after := same ▸ yields

end Act.Yields

/-! ## The newest store and container -/

namespace World

/-- The world with one more store. -/
def keeping (world : World) (store : BootstrapStore) : World :=
  { world with stores := world.stores ++ [store] }

/-- The world with one more container. -/
def holding (world : World) (container : Container) : World :=
  { world with containers := world.containers ++ [container] }

/-- Changing the item behind all others. -/
theorem modify_newest {α : Type} (items : List α) (item : α) (change : α → α) :
    (items ++ [item]).modify items.length change = items ++ [change item] :=
  List.modifyTailIdx_add (List.modifyHead change) 0 items [item]

variable (world : World) (store : BootstrapStore) (container : Container)

/-- The store that was made last is the one behind all others. -/
@[simp] theorem store_keeping : (world.keeping store).store ⟨world.stores.length⟩ = store := by
  simp [keeping, World.store]

/-- Changing it is making another one in its place. -/
@[simp] theorem modifyStore_keeping (change : BootstrapStore → BootstrapStore) :
    (world.keeping store).modifyStore ⟨world.stores.length⟩ change =
      world.keeping (change store) := by
  simp [keeping, World.modifyStore, modify_newest]

/-- The container that was made last is the one behind all others. -/
@[simp] theorem container_holding :
    (world.holding container).container ⟨world.containers.length⟩ = container := by
  simp [holding, World.container]

/-- Changing it is making another one in its place. -/
@[simp] theorem modifyContainer_holding (change : Container → Container) :
    (world.holding container).modifyContainer ⟨world.containers.length⟩ change =
      world.holding (change container) := by
  simp [holding, World.modifyContainer, modify_newest]

end World

/-! ## Stores and containers -/

namespace BootstrapStore

variable {before after : World} {ref : StoreRef} {type : String}

/-- A store that is made gets the next handle. -/
theorem yields_make :
    make.Yields before ⟨before.stores.length⟩ { before with stores := before.stores ++ [{}] } := by
  intro world alike
  refine ⟨{ world with stores := world.stores ++ [{}] }, ?_, { alike with
    stores := by rw [alike.stores] }⟩
  rw [← alike.stores]
  rfl

/-- An instance that is made gets the next number. -/
theorem yields_makeInstance (value : Value) :
    (makeInstance value).Yields before ⟨before.nextInstance, value⟩
      { before with nextInstance := before.nextInstance + 1 } := by
  intro world alike
  refine ⟨{ world with nextInstance := world.nextInstance + 1 }, ?_, { alike with
    nextInstance := by rw [alike.nextInstance] }⟩
  rw [← alike.nextInstance]
  rfl

/-- A registration that is accepted changes the store. -/
theorem yields_register {supplier : InstanceSupplier} {ifAbsent registered : Bool}
    {store : BootstrapStore}
    (inserted : (before.store ref).insert type supplier ifAbsent = .ok (registered, store)) :
    (register ref type supplier ifAbsent).Yields before (.ok registered)
      (before.modifyStore ref fun _ => store) := by
  refine .bind (.store ref) ?_
  rw [inserted]
  exact .bind (.modifyStore ref _) (.pure _)

/-- A close listener that is accepted changes the store. -/
theorem yields_listen {participant : Participant} {store : BootstrapStore}
    (added : (before.store ref).addCloseListener participant = .ok store) :
    (listen ref participant).Yields before (.ok ()) (before.modifyStore ref fun _ => store) := by
  refine .bind (.store ref) ?_
  rw [added]
  exact .bind (.modifyStore ref _) (.pure _)

/-- An existing instance that is read for the first time is kept. -/
theorem yields_read {invoke : Invoker} {entry : BootstrapEntry} {held : BootstrapInstance}
    (found : (before.store ref).find? type = some entry) (unkept : entry.kept = none)
    (supply : entry.supply = .existing held) (shared : entry.scope = .singleton)
    (keeps : ((before.modifyStore ref (·.keep type held)).store ref).kept? type = some held) :
    (read invoke ref type).Yields before (.ok held)
      (before.modifyStore ref (·.keep type held)) := by
  refine .bind (.store ref) ?_
  rw [found]
  dsimp only
  rw [unkept, supply, shared]
  refine .bind (.pure _) (.bind (.modifyStore ref _) (.bind (.store ref) ?_))
  rw [keeps]
  exact .pure _

/-- A close begins with taking the actions of the store. -/
theorem yields_begin {actions : List CloseAction} {store : BootstrapStore}
    (begun : (before.store ref).beginClose = .ok (actions, store)) :
    (begin ref).Yields before (.ok actions) (before.modifyStore ref fun _ => store) := by
  refine .bind (.store ref) ?_
  rw [begun]
  exact .bind (.modifyStore ref _) (.pure _)

end BootstrapStore

namespace Container

variable {invoke : Invoker} {before after : World} {ref : ContainerRef}

/-- A container that is made gets the next handle, and the next number in its id. -/
theorem yields_make (kind : ApplicationKind) :
    (make kind).Yields before ⟨before.containers.length⟩
      { before with
        containers := before.containers ++
          [{ id := "application-" ++ toString before.nextContainer, kind }]
        nextContainer := before.nextContainer + 1 } := by
  intro world alike
  refine ⟨{ world with
    containers := world.containers ++
      [{ id := "application-" ++ toString world.nextContainer, kind }]
    nextContainer := world.nextContainer + 1 }, ?_, { alike with
      containers := by rw [alike.containers, alike.nextContainer]
      nextContainer := by rw [alike.nextContainer] }⟩
  rw [← alike.containers]
  rfl

/-- A bean that is accepted is kept by the container. -/
theorem yields_register {name : String} {bean : Bean} {container : Container}
    (accepted : (before.container ref).registerBean name bean = .ok container) :
    (register ref name bean).Yields before (.ok ())
      (before.modifyContainer ref fun _ => container) := by
  refine .bind (.container ref) ?_
  rw [accepted]
  exact .bind (.modifyContainer ref _) (.pure _)

/-- Nobody hears what is published. -/
theorem yields_publish (unheard : (before.container ref).listeners = [])
    (event : ApplicationEvent) : (publish invoke ref event).Yields before (.ok ()) before := by
  refine .bind (.container ref) ?_
  rw [unheard]
  exact .pure _

/-- A container that was not refreshed yet, and whose refresh nobody hears of, becomes active. -/
theorem yields_refresh (healthy : (before.container ref).refreshFailure = none)
    (new : (before.container ref).phase = .created)
    (unmeasured : (before.container ref).startup = .discarded)
    (unheard : ((before.modifyContainer ref markActive).container ref).listeners = []) :
    (refresh invoke ref).Yields before (.ok ()) (before.modifyContainer ref markActive) := by
  refine .bind (.container ref) ?_
  rw [healthy, beginRefresh, new, unmeasured]
  refine .bind (.pure _) (.bind (.pure _) (.bind (.modifyContainer ref _) ?_))
  exact .bind (.container ref) (.bind (.log _ _ _) (.bind (.pure _) (yields_publish unheard _)))

/-- Callbacks that only take a container off coordinators. -/
def OnlyLinks (callbacks : List CloseCallback) : Prop :=
  ∀ callback ∈ callbacks, ∃ coordinator, callback = .deregister coordinator

/-- An open container whose close concerns nobody but coordinators. -/
structure Unattended (container : Container) : Prop where
  isOpen : container.isClosed = false
  untracked : container.tracking = none
  unheard : container.listeners = []
  links : OnlyLinks container.closeCallbacks

/-- Taking a container off coordinators concerns nobody else. -/
theorem yields_runCallbacks (invoke : Invoker) (ref : ContainerRef) {callbacks : List CloseCallback}
    (links : OnlyLinks callbacks)
    (before : World) :
    ∃ coordinators, (Act.forEach (runCallback invoke ref) callbacks).Yields before ()
      { before with coordinators } := by
  induction callbacks generalizing before with
  | nil => exact ⟨before.coordinators, .pure ()⟩
  | cons callback rest ih =>
    obtain ⟨coordinator, rfl⟩ := links _ (List.mem_cons_self ..)
    have runs : ∃ coordinators,
        (runCallback invoke ref (.deregister coordinator)).Yields before ()
          { before with coordinators } := by
      cases dropped : (before.coordinator coordinator).dropped with
      | true =>
        refine ⟨before.coordinators, .bind (.coordinator coordinator) ?_⟩
        rw [dropped]
        exact .pure ()
      | false =>
        refine ⟨(before.modifyCoordinator coordinator (·.deregister ref)).coordinators,
          .bind (.coordinator coordinator) ?_⟩
        rw [dropped]
        exact .modifyCoordinator coordinator _
    obtain ⟨between, runs⟩ := runs
    obtain ⟨left, goOn⟩ := ih (fun callback among => links callback (List.mem_cons_of_mem _ among))
      { before with coordinators := between }
    exact ⟨left, .bind runs goOn⟩

/-- The one close of a container to which nobody attends. -/
theorem yields_closeOnce (invoke : Invoker) (before : World) (ref : ContainerRef)
    (made : ref.index < before.containers.length) (unattended : (before.container ref).Unattended) :
    ∃ coordinators, (closeOnce invoke ref).Yields before ()
      { before.modifyContainer ref fun _ => (before.container ref).shut with coordinators } := by
  generalize shuts : (before.modifyContainer ref fun _ => (before.container ref).shut) = shut
  have begun : (before.container ref).beginClose = some {
      wasActive := (before.container ref).isActive
      callbacks := (before.container ref).closeCallbacks
      closed := (before.container ref).shut } := by
    rw [beginClose, unattended.isOpen]
    rfl
  have left : shut.container ref = (before.container ref).shut := by
    rw [← shuts]
    exact World.container_modifyContainer_self _ _ _ made
  obtain ⟨coordinators, unwinds⟩ := yields_runCallbacks invoke ref unattended.links shut
  have tail : (do
      Act.forEach (runCallback invoke ref) (before.container ref).closeCallbacks
      Act.log .info "Context closed" [("context", (before.container ref).id)]).Yields shut ()
        { shut with coordinators } := .bind unwinds (.log _ _ _)
  refine ⟨coordinators, .bind (.container ref) ?_⟩
  rw [begun]
  refine .bind (.modifyContainer ref _) ?_
  rw [shuts]
  dsimp only
  split
  · exact .bind (yields_publish (by rw [left]; exact unattended.unheard) _) tail
  · exact tail

/-- Closing leaves what is remembered and what the console shows. -/
theorem yields_close (invoke : Invoker) (before : World) (ref : ContainerRef)
    (made : ref.index < before.containers.length) (unattended : (before.container ref).Unattended) :
    ∃ after, after.memory = before.memory ∧ after.console = before.console ∧
      (close invoke ref).Yields before (.ok ()) after := by
  -- Only a tracking container counts its closes, so the count changes nothing here.
  generalize counted : before.modifyContainer ref countClose = counting
  have same : counting.container ref = before.container ref := by
    rw [← counted, World.container_modifyContainer_self _ _ _ made, countClose]
    have untracked := unattended.untracked
    cases held : before.container ref
    rw [held] at untracked
    cases untracked
    rfl
  have stays : ref.index < counting.containers.length := by
    rw [← counted]
    simpa [World.modifyContainer] using made
  rw [← same] at unattended
  obtain ⟨coordinators, once⟩ := yields_closeOnce invoke counting ref stays unattended
  have left : ({ counting.modifyContainer ref fun _ => (counting.container ref).shut with
      coordinators } : World).container ref = (counting.container ref).shut :=
    World.container_modifyContainer_self counting ref _ stays
  have untracked : (counting.container ref).shut.tracking = none := unattended.untracked
  refine ⟨{ counting.modifyContainer ref fun _ => (counting.container ref).shut with coordinators },
    by rw [← counted]; rfl, by rw [← counted]; rfl, .bind (.modifyContainer ref countClose) ?_⟩
  rw [counted]
  refine .bind once (.bind (.container ref) ?_)
  rw [left, untracked]
  exact .pure _

end Container

/-- An open container keeps a callback. -/
theorem Container.yields_onClose {invoke : Invoker} {before : World} {ref : ContainerRef}
    (isOpen : (before.container ref).isClosed = false) (callback : CloseCallback) :
    (onClose invoke ref callback).Yields before ()
      (before.modifyContainer ref (·.addCallback callback)) := by
  refine .bind (.container ref) ?_
  rw [isOpen]
  exact .modifyContainer ref _

/-- A coordinator that no shutdown has begun on accepts a container, which is taken off when it
closes. -/
theorem ShutdownCoordinator.yields_registerContainer (invoke : Invoker) (before : World)
    (coordinator : CoordinatorRef) (ref : ContainerRef)
    (accepts : (before.coordinator coordinator).accepting = true)
    (isOpen : (before.container ref).isClosed = false) :
    ∃ coordinators links, Container.OnlyLinks links ∧
      (registerContainer invoke coordinator ref).Yields before true
        (World.modifyContainer { before with coordinators } ref fun held =>
          { held with closeCallbacks := held.closeCallbacks ++ links }) := by
  cases known : (before.coordinator coordinator).isRegistered ref with
  | true =>
    have present : (before.coordinator coordinator).register ref = .present := by
      simp [register, accepts, known]
    refine ⟨before.coordinators, [], nofun, .bind (.coordinator coordinator) ?_⟩
    rw [present]
    intro world alike
    refine ⟨world, rfl, { alike with containers := ?_ }⟩
    rw [alike.containers]
    simp only [World.modifyContainer, List.append_nil]
    exact (List.modify_id ref.index before.containers).symm
  | false =>
    have added : (before.coordinator coordinator).register ref = .added
        { before.coordinator coordinator with
          containers := (before.coordinator coordinator).containers ++ [ref] } := by
      simp [register, accepts, known]
    generalize joined : { before.coordinator coordinator with
      containers := (before.coordinator coordinator).containers ++ [ref] } = registered at added
    refine ⟨(before.modifyCoordinator coordinator fun _ => registered).coordinators,
      [.deregister coordinator], fun callback among => ⟨coordinator, by simpa using among⟩,
      .bind (.coordinator coordinator) ?_⟩
    rw [added]
    have still :
        ((before.modifyCoordinator coordinator fun _ => registered).container ref).isClosed =
          false := isOpen
    refine .bind (.modifyCoordinator coordinator _) (.bind (Container.yields_onClose still _) ?_)
    dsimp only
    split
    · exact .bind (.modify fun _ alike => { alike with }) (.pure _)
    · exact .pure _

/-! ## Calls to participants -/

namespace Program

variable {invoke : Invoker} {before between after : World}

/-- A program yields what it yields when it is carried out. -/
def Yields (invoke : Invoker) (program : Program α) (before : World) (answer : α) (after : World) :
    Prop := (program.carryOut invoke).Yields before answer after

/-- A program that is done yields its answer. -/
theorem Yields.done (answer : α) : Yields invoke (.done answer) before answer before :=
  Act.Yields.pure answer

/-- A program goes on with the answer of its first command. -/
theorem Yields.perform {command : Command} {next : command.Answer → Program α}
    {value : command.Answer} {answer : α}
    (first : (command.carryOut invoke).Yields before value between)
    (rest : Yields invoke (next value) between answer after) :
    Yields invoke (.perform command next) before answer after :=
  Act.Yields.bind first rest

end Program

/-- A call yields what the program of its participant yields. -/
theorem Behaviour.yields_invoker {behaviour : Behaviour} {limit depth : Nat} {call : Call}
    {before after : World} {answer : call.Answer}
    (program : Program.Yields (behaviour.invoker limit (depth + 1)) (behaviour call) before answer
      after) :
    (behaviour.invoker (limit + 1) depth call).Yields before answer after := by
  have notes (entry : JournalEntry) (world : World) :
      (Behaviour.note entry).Yields world () world := .modify fun _ alike => { alike with }
  exact .bind (notes _ _) (.bind program (.bind (notes _ _) (.pure answer)))

/-! ## Steps of a run -/

/-- A plan yields what it yields when it is carried out. -/
def Plan.Yields (invoke : Invoker) (plan : Plan α) (before : World) (answer : α) (after : World) :
    Prop := (plan.carryOut invoke).Yields before answer after

namespace Plan.Yields

variable {invoke : Invoker} {before between after : World}

/-- A plan without errands yields its answer. -/
theorem pure (answer : α) : Yields invoke (Pure.pure answer) before answer before :=
  Act.Yields.pure answer

/-- What one plan yields, the next one begins with. -/
theorem bind {plan : Plan α} {next : α → Plan β} {value : α} {answer : β}
    (first : Yields invoke plan before value between)
    (rest : Yields invoke (next value) between answer after) :
    Yields invoke (plan >>= next) before answer after := by
  have whole : (plan.carryOut invoke >>= fun value => (next value).carryOut invoke).Yields before
    answer after := Act.Yields.bind first rest
  exact whole.of_eq (Plan.carryOut_bind invoke plan next)

/-- A plan that is one errand yields what the errand does. -/
theorem ask {errand : Errand} {answer : errand.Answer}
    (yields : (errand.carryOut invoke).Yields before answer after) :
    Yields invoke (Plan.ask errand) before answer after :=
  yields.of_eq (Plan.carryOut_ask invoke errand)

end Plan.Yields

namespace StepM

variable {invoke : Invoker} {start middle last : σ} {before between after : World}

/-- A step of a run yields an answer or an error, together with the state that it leaves. -/
def Yields (invoke : Invoker) (step : StepM σ α) (start : σ) (before : World)
    (answer : Except LaunchError α) (last : σ) (after : World) : Prop :=
  Plan.Yields invoke (step.run.run start) before (answer, last) after

namespace Yields

/-- A step that takes nothing yields its answer and keeps the state. -/
theorem pure (answer : α) :
    Yields invoke (Pure.pure answer : StepM σ α) start before (.ok answer) start before :=
  Plan.Yields.pure _

/-- The state is looked at. -/
theorem get : Yields invoke (MonadState.get : StepM σ σ) start before (.ok start) start before :=
  Plan.Yields.pure _

/-- The state is changed, and nothing else. -/
theorem modify (change : σ → σ) :
    Yields invoke (modify change : StepM σ PUnit) start before (.ok ⟨⟩) (change start) before :=
  Plan.Yields.pure _

/-- A step that does not fail is followed by the next. -/
theorem bind {step : StepM σ α} {next : α → StepM σ β} {value : α} {answer : Except LaunchError β}
    (first : Yields invoke step start before (.ok value) middle between)
    (rest : Yields invoke (next value) middle between answer last after) :
    Yields invoke (step >>= next) start before answer last after := by
  rw [Yields, run_bind]
  exact Plan.Yields.bind first rest

/-- What follows a step that failed is not taken. -/
theorem bind_error {step : StepM σ α} {next : α → StepM σ β} {error : LaunchError}
    (first : Yields invoke step start before (.error error) last after) :
    Yields invoke (step >>= next) start before (.error error) last after := by
  rw [Yields, run_bind]
  exact Plan.Yields.bind first (.pure _)

/-- A step that carries out a plan keeps the state. -/
theorem act {plan : Plan α} {answer : α} (yields : Plan.Yields invoke plan before answer after) :
    Yields invoke (StepM.act plan) start before (.ok answer) start after := by
  rw [Yields, run_act]
  exact Plan.Yields.bind yields (.pure _)

/-- A step that is one errand keeps the state. -/
theorem ask {errand : Errand} {answer : errand.Answer}
    (yields : (errand.carryOut invoke).Yields before answer after) :
    Yields invoke (StepM.ask errand) start before (.ok answer) start after := act (.ask yields)

/-- A step that checks a plan fails if the plan does. -/
theorem check {plan : Plan (Except ε α)} {toError : ε → LaunchError} {answer : Except ε α}
    (yields : Plan.Yields invoke plan before answer after) :
    Yields invoke (StepM.check toError plan) start before
      (answer.mapError toError) start after := by
  rw [Yields, run_check]
  exact Plan.Yields.bind yields (.pure _)

/-- A participant that does not fail. -/
theorem checked {fault : LaunchFault} {plan : Plan (Except Failure α)} {answer : α}
    (yields : Plan.Yields invoke plan before (.ok answer) after) :
    Yields invoke (StepM.checked fault plan) start before (.ok answer) start after := check yields

/-- A check that the run passes. -/
theorem verify {own : Check} (passed : own.verdict = .ok ()) :
    Yields invoke (StepM.verify own) start before (.ok ()) start before := by
  have yields : Plan.Yields invoke (Plan.ask (.check own)) before (.ok ()) before := by
    rw [← passed]
    exact .ask (.pure _)
  exact check yields

/-- Without items there is nothing to do. -/
theorem each_nil {step : α → StepM σ Unit} :
    Yields invoke (each step []) start before (.ok ()) start before := pure ()

/-- If the first item does not fail, the others follow. -/
theorem each_cons {step : α → StepM σ Unit} {item : α} {rest : List α}
    {answer : Except LaunchError Unit}
    (first : Yields invoke (step item) start before (.ok ()) middle between)
    (others : Yields invoke (each step rest) middle between answer last after) :
    Yields invoke (each step (item :: rest)) start before answer last after := first.bind others

/-- If the first item fails, it is the last. -/
theorem each_cons_error {step : α → StepM σ Unit} {item : α} {rest : List α} {error : LaunchError}
    (first : Yields invoke (step item) start before (.error error) last after) :
    Yields invoke (each step (item :: rest)) start before (.error error) last after :=
  first.bind_error

end Yields

end StepM

/-- What a bus dispatches, the run dispatches. -/
theorem LaunchM.yields_dispatch {invoke : Invoker} {before after : World} (launch : Launch)
    (plan : LifecycleBus → Plan (LifecycleBus.Dispatched σ))
    {dispatched : LifecycleBus.Dispatched σ}
    (yields : Plan.Yields invoke (plan launch.bus) before dispatched after) :
    StepM.Yields invoke (dispatch plan) launch before
      (dispatched.result.map fun _ => dispatched.state) { launch with bus := dispatched.bus }
      after := by
  rw [StepM.Yields, run_dispatch]
  exact Plan.Yields.bind yields (.pure _)

namespace LifecycleBus

variable {invoke : Invoker} {before after : World}

/-- Tags that nobody keeps are nothing. -/
theorem yields_tagAll (step : StartupStep) (tags : List (String × String)) :
    ∃ tagged, Plan.Yields invoke (tagAll .discarded step tags) before tagged before := by
  induction tags generalizing step with
  | nil => exact ⟨step, .pure step⟩
  | cons tag rest ih =>
    obtain ⟨tagged, yields⟩ := ih (step.tag tag.1 tag.2)
    exact ⟨tagged, .bind (.ask (.pure _)) yields⟩

/-- A phase in its turn, measured for nobody, does what its listeners do. -/
theorem yields_dispatch (bus : LifecycleBus) (phase : LifecyclePhase)
    {tags : List (String × String)} {state last : σ}
    {call : σ → RunListener → Plan (Except Failure Unit × σ)} {result : Except Failure Unit}
    (follows : phase.canFollow bus.phase = true) (discards : bus.startup = .discarded)
    (visits : Plan.Yields invoke (visit call state bus.listeners) before (result, last) after) :
    Plan.Yields invoke (bus.dispatch phase tags state call) before
      { result := result.mapError (LaunchFault.listener phase).dueTo
        bus := { bus with phase := some phase }
        state := last }
      after := by
  rw [dispatch, if_pos follows, discards]
  refine .bind (.ask (.pure _)) ?_
  rw [goThrough, discards]
  obtain ⟨tagged, tags⟩ := yields_tagAll _ tags
  exact .bind tags (.bind visits (.bind (.ask (.pure _)) (.pure _)))

end LifecycleBus

end Launchpad
