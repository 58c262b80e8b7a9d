import Launchpad.Proofs.Launch.Execution
import Launchpad.Proofs.Operation.Calling

/-!
# In which order listeners hear of an event

The publishing listener delivers an event itself until the container is loaded, and through the
container afterwards. Either way the listeners are called in order, and the first that fails ends
the delivery; the failure of a run is told directly to all of them. What a container has in
listeners only grows at its end, so those that were attached stay in their order.
-/

namespace Launchpad

/-- The listeners of a container stay, in their order; others come behind them. -/
def ListenersStay (ref : ContainerRef) (before after : World) : Prop :=
  (before.container ref).listeners <+: (after.container ref).listeners

/-- A container that was not made has no listeners. -/
theorem World.listeners_of_unmade {world : World} {ref : ContainerRef}
    (unmade : ¬ ref.index < world.containers.length) : (world.container ref).listeners = [] := by
  rw [container_of_unmade unmade]
  rfl

namespace ListenersStay

variable {ref : ContainerRef} {before after : World}

theorem refl (world : World) : ListenersStay ref world world := List.prefix_rfl

theorem trans {first second third : World} (start : ListenersStay ref first second)
    (rest : ListenersStay ref second third) : ListenersStay ref first third :=
  List.IsPrefix.trans start rest

/-- The container is left as it is. -/
theorem of_container (same : after.container ref = before.container ref) :
    ListenersStay ref before after := by
  simp [ListenersStay, same]

theorem of_containers (same : after.containers = before.containers) :
    ListenersStay ref before after :=
  of_container (World.container_congr same ref)

/-- A container is changed, and keeps its listeners. -/
theorem modifyContainer (world : World) {held : ContainerRef} {change : Container → Container}
    (kept : (world.container held).listeners <+: (change (world.container held)).listeners) :
    ListenersStay ref world (world.modifyContainer held change) := by
  by_cases same : ref = held
  · subst same
    by_cases made : ref.index < world.containers.length
    · rwa [ListenersStay, World.container_modifyContainer_self _ _ _ made]
    · rw [ListenersStay, World.listeners_of_unmade made]
      exact List.nil_prefix
  · exact of_container (World.container_modifyContainer_of_ne same _)

/-- Containers are added behind those that there are. -/
theorem of_append {made : List Container} (added : after.containers = before.containers ++ made) :
    ListenersStay ref before after := by
  by_cases there : ref.index < before.containers.length
  · exact of_container (World.container_of_append added there)
  · rw [ListenersStay, World.listeners_of_unmade there]
    exact List.nil_prefix

/-- Records and furnishings leave the listeners of a container. -/
theorem framing (ref : ContainerRef) : Framing (ListenersStay ref) where
  refl := refl
  trans := trans
  aside containers _ _ _ := of_containers containers
  furnish world _ _ furnishes := modifyContainer world (by simp [furnishes.listeners])

/-- What is done to the life of a container leaves its listeners. -/
theorem containing (ref held : ContainerRef) : ContainerFraming (ListenersStay ref) held where
  toFraming := framing ref
  change world _ kept := modifyContainer world (by simp [kept])
  deregister _ _ := of_containers rfl

/-- Making a container takes no listener from another. -/
theorem respects_make (ref : ContainerRef) (kind : ApplicationKind) (options : Container.Options) :
    Act.Respects (ListenersStay ref) (Container.make kind options) := by
  obtain ⟨id, tracking, hidesRegistry, refreshFailure⟩ := options
  cases id <;> cases tracking <;> exact fun world => .of_append rfl

/-- Changing a coordinator leaves the listeners of a container. -/
theorem changes (coordinator : CoordinatorRef) (move : ShutdownCoordinator → ShutdownCoordinator) :
    Act.Respects (ListenersStay ref) (Act.modifyCoordinator coordinator move) :=
  fun _ => of_containers rfl

/-- Every command leaves the listeners of a container, if the participants do. -/
theorem commanding {invoke : Invoker}
    (calls : ∀ call : Call, Act.Respects (ListenersStay ref) (invoke call)) :
    CommandFraming (ListenersStay ref) invoke where
  toFraming := framing ref
  calls := calls
  makeStore := fun _ => of_containers rfl
  beginClose store := by
    refine .look (framing ref) (fun _ => rfl) fun held => ?_
    split
    · exact .of_pure (framing ref) _
    · exact fun _ => of_containers rfl
  make := respects_make ref
  coordinate := changes
  registers coordinator held :=
    ShutdownCoordinator.respects_registerContainer (framing ref) (changes coordinator)
      (Container.respects_onClose (containing ref held) calls _)
  triggers coordinator :=
    ShutdownCoordinator.respects_trigger (framing ref) (changes coordinator) calls fun held =>
      Container.respects_close (containing ref held) calls
  onClose held := Container.respects_onClose (containing ref held) calls
  refresh held := Container.respects_refresh (containing ref held) calls
  close held := Container.respects_close (containing ref held) calls
  attach _ _ := .of_modify fun world => modifyContainer world (List.prefix_append _ _)
  restock _ _ := fun _ => of_containers rfl
  makeCoordinator _ := fun _ => of_containers rfl

end ListenersStay

/-- Whatever a participant does when it is called, the listeners of a container stay. -/
theorem Behaviour.listenersStay (behaviour : Behaviour) (ref : ContainerRef) (limit depth : Nat)
    (call : Call) : Act.Respects (ListenersStay ref) (behaviour.invoker limit depth call) :=
  behaviour.respects (ListenersStay.framing ref) ListenersStay.commanding
    (fun _ _ _ => .of_containers rfl) limit depth.zero_le call

/-- What every errand of a record respects leads from its beginning to its end. -/
theorem Performed.Chain.respects {relation : World → World → Prop} {invoke : Invoker}
    (framing : Framing relation) {record : List Performed} {world last : World}
    (chain : Performed.Chain invoke world record last)
    (each : ∀ performed ∈ record,
      Act.Respects relation (performed.reply.errand.carryOut invoke)) : relation world last := by
  induction record generalizing world with
  | nil =>
    cases chain
    exact framing.refl last
  | cons performed rest ih =>
    obtain ⟨rfl, carried, chain⟩ := chain
    exact framing.trans ((each performed List.mem_cons_self).leads carried)
      (ih chain fun other later => each other (List.mem_cons_of_mem _ later))

/-- The call that tells a listener about an event. -/
def ApplicationListener.hears (event : ApplicationEvent) (listener : ApplicationListener) : Call :=
  .onEvent listener.participant event

section

variable (behaviour : Behaviour) (limit depth : Nat)

namespace Container

/-- A delivery tells the listeners in order, up to the first that fails, and calls nobody else. -/
theorem asks_deliver (event : ApplicationEvent) (listeners : List ApplicationListener) :
    Act.Asks depth (ApplicationListener.hears event) (fun _ failure => failure) listeners
      (deliver (behaviour.invoker (limit + 1) depth) event listeners) := by
  have tells (listener : ApplicationListener) : Act.Asks depth (ApplicationListener.hears event)
      (fun _ failure => failure) [listener]
      (behaviour.invoker (limit + 1) depth (.onEvent listener.participant event)) :=
    .single (behaviour.writes_call limit depth (.onEvent listener.participant event))
  exact .untilFailure tells listeners

/-- A publication tells the listeners that the container has, up to the first that fails. -/
theorem asks_publish (ref : ContainerRef) (event : ApplicationEvent) (world : World) :
    ∃ lines, Asked depth (ApplicationListener.hears event) (fun _ failure => failure)
        (world.container ref).listeners
        ((publish (behaviour.invoker (limit + 1) depth) ref event).result world).1 lines ∧
      Writes depth lines world
        ((publish (behaviour.invoker (limit + 1) depth) ref event).result world).2 :=
  asks_deliver behaviour limit depth event _ world

end Container

/-- The event into which the publishing listener turns a notice. -/
def Notice.event (world : World) : Notice → ApplicationEvent
  | starting .. => .starting
  | contextPrepared container => .contextInitialized (world.container container).id
  | contextLoaded container => .prepared (world.container container).id
  | started container => .started (world.container container).id
  | running container => .ready (world.container container).id

/-- Whom the publishing listener tells about a notice: its own audience until the container is
loaded, and whoever listens to the container afterwards. -/
def Notice.hearers (audience : List ApplicationListener) (world : World) :
    Notice → List ApplicationListener
  | starting .. | contextPrepared _ | contextLoaded _ => audience
  | started container | running container => (world.container container).listeners

/-- The world once listeners are attached to a container. -/
def World.attach (world : World) (container : ContainerRef) (listeners : List ApplicationListener) :
    World :=
  world.modifyContainer container fun held => { held with listeners := held.listeners ++ listeners }

/-- A container keeps its identifier when listeners are attached. -/
theorem World.id_attach (world : World) (container : ContainerRef)
    (listeners : List ApplicationListener) :
    ((world.attach container listeners).container container).id =
      (world.container container).id := by
  by_cases made : container.index < world.containers.length
  · rw [attach, container_modifyContainer_self _ _ _ made]
  · have unmade : ¬ container.index < (world.attach container listeners).containers.length := by
      simpa [attach, modifyContainer] using made
    rw [container_of_unmade made, container_of_unmade unmade]

/-- The world in which the publishing listener passes a notice on: its audience is attached to a
container that is loaded. -/
def Notice.opening (audience : List ApplicationListener) (world : World) : Notice → World
  | contextLoaded container => world.attach container audience
  | _ => world

namespace RunListener

variable (audience : List ApplicationListener)

/-- The publishing listener turns a notice into an event and delivers it to the hearers. -/
theorem result_tell (invoke : Invoker) (notice : Notice) (world : World) :
    (notice.tell invoke (.eventPublishing audience)).result world =
      (Container.deliver invoke (notice.event world) (notice.hearers audience world)).result
        (notice.opening audience world) := by
  cases notice with
  | contextLoaded container =>
    rw [Notice.event, ← World.id_attach world container audience]
    rfl
  | _ => rfl

/-- A notice to the publishing listener tells the hearers in order, up to the first that fails. -/
theorem asks_tell (notice : Notice) (world : World) :
    ∃ lines, Asked depth (ApplicationListener.hears (notice.event world))
        (fun _ failure => failure) (notice.hearers audience world)
        ((notice.tell (behaviour.invoker (limit + 1) depth) (.eventPublishing audience)).result
          world).1 lines ∧
      Writes depth lines world
        ((notice.tell (behaviour.invoker (limit + 1) depth) (.eventPublishing audience)).result
          world).2 := by
  obtain ⟨lines, asked, written⟩ := Container.asks_deliver behaviour limit depth
    (notice.event world) (notice.hearers audience world) (notice.opening audience world)
  have opens : Writes depth [] world (notice.opening audience world) :=
    .of_journal (by cases notice <;> rfl)
  rw [result_tell]
  exact ⟨lines, asked, opens.trans written⟩

/-- Showing the environment to the publishing listener tells its audience in order, up to the first
that fails. -/
theorem asks_environmentPrepared (store : StoreRef) (environment : Environment) (world : World) :
    ∃ lines, Asked depth
        (ApplicationListener.hears (.environmentPrepared environment.activeProfiles))
        (fun _ failure => failure) audience
        (((environmentPrepared (behaviour.invoker (limit + 1) depth) store environment
          (.eventPublishing audience)).result world).1.map Prod.fst) lines ∧
      Writes depth lines world
        ((environmentPrepared (behaviour.invoker (limit + 1) depth) store environment
          (.eventPublishing audience)).result world).2 := by
  obtain ⟨lines, asked, written⟩ := Container.asks_deliver behaviour limit depth
    (.environmentPrepared environment.activeProfiles) audience world
  refine ⟨lines, ?_⟩
  rw [environmentPrepared, Act.result_bind]
  generalize Act.result (Container.deliver _ _ _) world = reached at asked written ⊢
  obtain ⟨abort | answer, later⟩ := reached <;> exact ⟨asked, written⟩

/-- Once the container is loaded, the audience stands among its listeners, in its order. -/
theorem attaches (container : ContainerRef) {world : World}
    (made : container.index < world.containers.length) :
    (world.container container).listeners ++ audience <+:
      ((((Notice.contextLoaded container).tell (behaviour.invoker limit depth)
        (.eventPublishing audience)).result world).2.container container).listeners := by
  have delivers := Container.respects_deliver (ListenersStay.framing container)
    (behaviour.listenersStay container limit depth) (.prepared (world.container container).id)
    audience (world.attach container audience)
  rw [ListenersStay, World.attach, World.container_modifyContainer_self _ _ _ made] at delivers
  rw [result_tell]
  exact delivers

/-- A direct delivery tells all the listeners, in order, whatever they answer. -/
theorem tells_deliverToAll (event : ApplicationEvent) :
    Act.TellsAll depth (ApplicationListener.hears event) audience
      (deliverToAll (behaviour.invoker (limit + 1) depth) event audience) := by
  refine .forEach (fun listener => ?_) audience
  refine .of_call (behaviour.writes_call limit depth (.onEvent listener.participant event))
    fun answer world => ?_
  cases answer with
  | ok => exact ⟨world, rfl, rfl⟩
  | error failure => exact ⟨_, rfl, rfl⟩

end RunListener

/-- The event that tells listeners that a run failed. -/
def failureEvent (world : World) (container : Option ContainerRef) (failure : Option Failure) :
    ApplicationEvent :=
  .failed (container.map fun ref => (world.container ref).id)
    ((failure.map Failure.message).getD "")

/-- How the audience of the publishing listener is told that a run failed. -/
inductive FailureTold (depth : Nat) (audience : List ApplicationListener)
    (container : Option ContainerRef) (failure : Option Failure) (world : World) :
    Except Abort (Except Failure Unit) → List JournalEntry → Prop where
  /-- Without an active container all of it is told, whatever anyone answers. -/
  | directly {result lines}
      (inactive : ∀ ref, container = some ref → (world.container ref).isActive = false)
      (told : Told depth (ApplicationListener.hears (failureEvent world container failure)) audience
        result lines) :
      FailureTold depth audience container failure world (result.map .ok) lines
  /-- An active container tells the listeners that it has, up to the first that fails. -/
  | published {ref result lines} (created : container = some ref)
      (active : (world.container ref).isActive = true)
      (asked : Asked depth (ApplicationListener.hears (failureEvent world container failure))
        (fun _ own => own) (world.container ref).listeners result lines) :
      FailureTold depth audience container failure world result lines

namespace RunListener

variable {audience : List ApplicationListener} {container : Option ContainerRef}
  {failure : Option Failure} {world : World}

/-- An active container publishes the failure of a run. -/
theorem result_publishFailure_active (invoke : Invoker) {ref : ContainerRef}
    (active : (world.container ref).isActive = true) :
    (publishFailure invoke (some ref) failure audience).result world =
      (Container.publish invoke ref (failureEvent world (some ref) failure)).result world := by
  rw [publishFailure, Act.result_bind]
  change (ite _ _ _ : Act _).result world = _
  rw [if_pos active]
  rfl

/-- Without an active container the failure of a run is told directly. -/
theorem result_publishFailure_inactive (invoke : Invoker)
    (inactive : ∀ ref, container = some ref → (world.container ref).isActive = false) :
    (publishFailure invoke container failure audience).result world =
      (do
        deliverToAll invoke (failureEvent world container failure) audience
        return .ok () : Act (Except Failure Unit)).result world := by
  cases container with
  | none => rfl
  | some ref =>
    rw [publishFailure, Act.result_bind]
    change (ite _ _ _ : Act _).result world = _
    rw [if_neg (by simp [inactive ref rfl])]
    rfl

/-- Publishing a failure tells the listeners of an active container, and otherwise the audience, of
it. -/
theorem publishFailure_told (audience : List ApplicationListener)
    (container : Option ContainerRef) (failure : Option Failure) (world : World) :
    ∃ lines, FailureTold depth audience container failure world
        ((publishFailure (behaviour.invoker (limit + 1) depth) container failure audience).result
          world).1 lines ∧
      Writes depth lines world
        ((publishFailure (behaviour.invoker (limit + 1) depth) container failure audience).result
          world).2 := by
  by_cases active : ∃ ref, container = some ref ∧ (world.container ref).isActive = true
  · obtain ⟨ref, rfl, active⟩ := active
    obtain ⟨lines, asked, written⟩ := Container.asks_publish behaviour limit depth ref
      (failureEvent world (some ref) failure) world
    rw [result_publishFailure_active _ active]
    exact ⟨lines, .published rfl active asked, written⟩
  · have inactive : ∀ ref, container = some ref → (world.container ref).isActive = false :=
      fun ref created => by simpa using fun holds => active ⟨ref, created, holds⟩
    obtain ⟨lines, told, written⟩ := tells_deliverToAll behaviour limit depth audience
      (failureEvent world container failure) world
    have ends := FailureTold.directly inactive told
    refine ⟨lines, ?_⟩
    rw [result_publishFailure_inactive _ inactive, Act.result_bind]
    generalize (deliverToAll _ _ _).result world = reached at ends written ⊢
    obtain ⟨abort | ⟨⟩, later⟩ := reached <;> exact ⟨ends, written⟩

end RunListener

end

end Launchpad
