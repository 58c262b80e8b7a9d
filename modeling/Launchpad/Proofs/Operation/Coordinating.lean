import Launchpad.Proofs.Operation.Framing

/-!
# What happens to coordinators

Operating a container touches coordinators in one way only: its close takes it off.
`CoordinatorFraming` collects what a relation between worlds needs so that everything respects it
which operates containers, whatever becomes of the containers themselves. Operating a coordinator
respects it if every change of that coordinator does. An operation that calls participants respects
it if they do.
-/

namespace Launchpad

/-- What a coordinator has registered stays, and so does whether it accepts. -/
structure ShutdownCoordinator.Stays (before after : ShutdownCoordinator) : Prop where
  containers : after.containers = before.containers
  status : after.status = before.status
  dropped : after.dropped = before.dropped

namespace ShutdownCoordinator.Stays

variable {first second third : ShutdownCoordinator}

/-- A coordinator that is not touched keeps what it has. -/
theorem refl (coordinator : ShutdownCoordinator) : Stays coordinator coordinator := ⟨rfl, rfl, rfl⟩

/-- What stays in two steps stays in both together. -/
theorem trans (start : Stays first second) (rest : Stays second third) : Stays first third where
  containers := rest.containers.trans start.containers
  status := rest.status.trans start.status
  dropped := rest.dropped.trans start.dropped

/-- Taking the same container off two coordinators that hold the same leaves them holding the same.
-/
theorem deregister (stays : Stays first second) (container : ContainerRef) :
    Stays (first.deregister container) (second.deregister container) where
  containers := by simp [ShutdownCoordinator.deregister, stays.containers]
  status := stays.status
  dropped := stays.dropped

/-- Taking a container off once more changes nothing. -/
theorem deregister_twice (coordinator : ShutdownCoordinator) (container : ContainerRef) :
    Stays (coordinator.deregister container)
      ((coordinator.deregister container).deregister container) where
  containers := by simp [ShutdownCoordinator.deregister]
  status := rfl
  dropped := rfl

end ShutdownCoordinator.Stays

/-- A relation between worlds that goes from one operation to the next, and does not care for
containers or for containers being taken off a coordinator. -/
structure CoordinatorFraming (relation : World → World → Prop) : Prop where
  refl : ∀ world, relation world world
  trans : ∀ {first second third}, relation first second → relation second third →
    relation first third
  aside : ∀ {before after : World}, after.stores = before.stores →
    after.coordinators = before.coordinators → after.journal = before.journal →
    relation before after
  deregister : ∀ (world : World) (ref : CoordinatorRef) (container : ContainerRef),
    relation world (world.modifyCoordinator ref (·.deregister container))

variable {relation : World → World → Prop} {invoke : Invoker}

/-- Not to care for containers is not to care for how they are furnished. -/
theorem CoordinatorFraming.framing (framing : CoordinatorFraming relation) : Framing relation where
  refl := framing.refl
  trans := framing.trans
  aside _ stores coordinators journal := framing.aside stores coordinators journal
  furnish _ _ _ _ := framing.aside rfl rfl rfl

/-- A change of a container is a change of nothing else. -/
theorem Act.Respects.modifyContainer (framing : CoordinatorFraming relation) (ref : ContainerRef)
    (change : Container → Container) : Act.Respects relation (Act.modifyContainer ref change) :=
  fun _ => framing.aside rfl rfl rfl

/-- A change of a coordinator makes and takes away none. -/
theorem World.made_modifyCoordinator {world : World} {ref other : CoordinatorRef}
    {move : ShutdownCoordinator → ShutdownCoordinator}
    (made : ref.index < world.coordinators.length) :
    ref.index < (world.modifyCoordinator other move).coordinators.length := by
  simpa [modifyCoordinator] using made

/-- What a coordinator was changed to in between does not matter. -/
theorem World.modifyCoordinator_twice (world : World) (ref : CoordinatorRef)
    (between last : ShutdownCoordinator) :
    ((world.modifyCoordinator ref fun _ => between).modifyCoordinator ref fun _ => last) =
      world.modifyCoordinator ref fun _ => last := by
  simp [modifyCoordinator, List.modify_modify_eq, Function.comp_def]

/-- A relation between worlds that goes from one operation to the next, and does not care for one
container but for its listeners, or for that container being taken off a coordinator. -/
structure ContainerFraming (relation : World → World → Prop) (ref : ContainerRef) : Prop extends
    Framing relation where
  change : ∀ (world : World) (move : Container → Container),
    (move (world.container ref)).listeners = (world.container ref).listeners →
    relation world (world.modifyContainer ref move)
  deregister : ∀ (world : World) (coordinator : CoordinatorRef),
    relation world (world.modifyCoordinator coordinator (·.deregister ref))

/-- Not to care for any container is not to care for one. -/
theorem CoordinatorFraming.containing (framing : CoordinatorFraming relation) (ref : ContainerRef) :
    ContainerFraming relation ref where
  toFraming := framing.framing
  change _ _ _ := framing.aside rfl rfl rfl
  deregister world coordinator := framing.deregister world coordinator ref

/-- A container keeps its listeners when it is closed. -/
theorem Container.listeners_of_beginClose {container : Container} {closing : Closing}
    (begun : container.beginClose = some closing) :
    closing.closed.listeners = container.listeners := by
  unfold beginClose at begun
  split at begun
  · cases begun
  · cases begun
    rfl

section

variable {ref : ContainerRef} (framing : ContainerFraming relation ref)
  (calls : ∀ call : Call, Act.Respects relation (invoke call))

include framing

/-- A change of the one container that keeps its listeners. -/
theorem ContainerFraming.respects_change {move : Container → Container}
    (kept : ∀ container, (move container).listeners = container.listeners) :
    Act.Respects relation (Act.modifyContainer ref move) :=
  fun world => framing.change world move (kept _)

include calls

namespace Container

/-- A refresh calls participants, activates the container and publishes. -/
theorem respects_refresh : Act.Respects relation (refresh invoke ref) := by
  have others : ∀ call : Call, call.isEvent = false → Act.Respects relation (invoke call) :=
    fun call _ => calls call
  have frame := framing.toFraming
  refine .look frame (fun _ => rfl) fun held => ?_
  split
  · exact .of_pure frame _
  · split
    · exact .of_pure frame _
    · rename_i startup _
      exact .bind frame (startup.respects_begin frame others _) fun _ =>
        .bind frame (startup.respects_tag frame others _ _ _) fun _ =>
        .bind frame (framing.respects_change fun _ => rfl) fun _ =>
        .look frame (fun _ => rfl) fun _ =>
        .bind frame (.log frame _ _ _) fun _ =>
        .bind frame (startup.respects_finish frame others _) fun _ =>
        respects_publish frame calls ref _

/-- A close callback calls a participant or takes the container off. -/
theorem respects_runCallback (callback : CloseCallback) :
    Act.Respects relation (runCallback invoke ref callback) := by
  have frame := framing.toFraming
  cases callback with
  | custom participant => exact calls _
  | deregister coordinator =>
    refine .look frame (fun _ => rfl) fun held => ?_
    split
    · exact .of_pure frame _
    · exact fun world => framing.deregister world coordinator

/-- A close callback is run at once or kept for the close. -/
theorem respects_onClose (callback : CloseCallback) :
    Act.Respects relation (onClose invoke ref callback) := by
  refine .look framing.toFraming (fun _ => rfl) fun held => ?_
  split
  · exact respects_runCallback framing calls callback
  · exact framing.respects_change fun _ => rfl

/-- The first close publishes, closes and runs the callbacks. -/
theorem respects_closeOnce : Act.Respects relation (closeOnce invoke ref) := by
  have frame := framing.toFraming
  intro world
  apply Act.Respects.bind_from (framing.refl world)
  rintro held _ ⟨⟩ -
  split
  · exact framing.refl world
  · rename_i closing begun
    have closes : relation world (world.modifyContainer ref fun _ => closing.closed) :=
      framing.change world _ (listeners_of_beginClose begun)
    apply Act.Respects.bind_from closes
    rintro _ _ ⟨⟩ closed
    refine framing.trans closed ((?_ : Act.Respects relation _) _)
    have rest : Act.Respects relation (do
        Act.forEach (runCallback invoke ref) closing.callbacks
        Act.log .info "Context closed" [("context", (world.container ref).id)]) :=
      .bind frame (.forEach frame (respects_runCallback framing calls) _) fun _ =>
        .log frame _ _ _
    split
    · refine .bind frame (respects_publish frame calls ref _) fun told => ?_
      split
      · exact .bind frame (.log frame _ _ _) fun _ => rest
      · exact rest
    · exact rest

/-- A close counts, closes if nobody has closed before, and answers. -/
theorem respects_close : Act.Respects relation (close invoke ref) := by
  have frame := framing.toFraming
  refine .bind frame (framing.respects_change fun _ => rfl) fun _ =>
    .bind frame (respects_closeOnce framing calls) fun _ =>
    .look frame (fun _ => rfl) fun held => ?_
  split <;> exact .of_pure frame _

end Container

end

section

variable (framing : Framing relation) (calls : ∀ call : Call, Act.Respects relation (invoke call))
  (closes : ∀ ref, Act.Respects relation (Container.close invoke ref))

include framing calls closes

/-- An exit resolves the code, publishes it and closes the container. -/
theorem Container.respects_exit (ref : ContainerRef) (codes : List ExitCode) :
    Act.Respects relation (exit invoke ref codes) := by
  refine .look framing (fun _ => rfl) fun held => ?_
  generalize ExitCode.combine (codes ++ held.generators) = code
  have unclean : ∀ held failure, Act.Respects relation (exitWith.unclean code held failure) :=
    fun _ _ => .bind framing (.log framing _ _ _) fun _ => .of_pure framing _
  have concludes : ∀ held published,
      Act.Respects relation (exitWith.conclude invoke ref code held published) := by
    refine fun held published => .bind framing (closes ref) fun closed => ?_
    split
    · exact .of_pure framing _
    · exact unclean _ _
    · exact unclean _ _
  refine .look framing (fun _ => rfl) fun held => ?_
  split
  · exact .bind framing (respects_publish framing calls ref _) (concludes held)
  · exact .bind framing (.of_pure framing _) (concludes held)

namespace ShutdownCoordinator

/-- A thing that a shutdown does is a close or a call. -/
theorem respects_perform (work : ShutdownWork) : Act.Respects relation (perform invoke work) := by
  cases work with
  | close container =>
    refine .bind framing (closes container) fun closed => ?_
    split
    · exact .look framing (fun _ => rfl) fun _ => .log framing _ _ _
    · exact .of_pure framing _
  | run action => exact calls _

/-- The work of a shutdown is one thing after the other. -/
theorem respects_runAll (taken : Registrations) :
    Act.Respects relation (runAll invoke taken) :=
  .bind framing (.log framing _ _ _) fun _ =>
    .forEach framing (respects_perform framing calls closes) _

end ShutdownCoordinator

end

namespace ShutdownCoordinator

/-- A hook is put up beside everything that a relation may care for. -/
theorem respects_hook (framing : Framing relation) (ref : CoordinatorRef) :
    Act.Respects relation (hook ref) :=
  .of_aside framing (fun _ => rfl) (fun _ => rfl) (fun _ => rfl) fun _ => rfl

/-! ## What only changes the actions of a coordinator -/

section

variable (framing : Framing relation)
  (stay : ∀ (world : World) (ref : CoordinatorRef)
    (move : ShutdownCoordinator → ShutdownCoordinator),
    (world.coordinator ref).Stays (move (world.coordinator ref)) →
      relation world (world.modifyCoordinator ref move))

include framing stay

/-- An addition takes a number and puts the action behind the others. -/
theorem respects_add (ref : CoordinatorRef) (stage : ActionStage) (name : String)
    (participant : Participant) : Act.Respects relation (add ref stage name participant) := by
  intro world
  apply Act.Respects.bind_from (framing.refl world)
  rintro _ _ ⟨⟩ -
  apply Act.Respects.bind_from (stay world ref _ ⟨rfl, rfl, rfl⟩)
  rintro _ _ ⟨⟩ numbered
  split
  · exact numbered
  · rename_i coordinator accepted
    obtain ⟨-, changed⟩ := addAction_eq_some_iff.1 accepted
    have stays : (world.coordinator ref).Stays coordinator := by
      subst changed
      cases stage <;> exact ⟨rfl, rfl, rfl⟩
    have added := stay world ref (fun _ => coordinator) stays
    rw [← World.modifyCoordinator_twice _ _ (world.coordinator ref).takeNumber.2] at added
    exact added

/-- A removal takes an action away. -/
theorem respects_remove (ref : CoordinatorRef) (id : ActionId) :
    Act.Respects relation (remove ref id) :=
  .look framing (fun _ => rfl) fun _ =>
    .bind framing (.of_modify fun world => stay world ref _ ⟨rfl, rfl, rfl⟩) fun _ =>
      .of_pure framing _

end

/-! ## Operating a coordinator whose every change is respected -/

/-- What a trigger does is decided by the coordinator as it meets it. -/
theorem trigger_result (invoke : Invoker) (ref : CoordinatorRef) (world : World) :
    (trigger invoke ref).result world =
      (proceed invoke ref (world.coordinator ref).enter).result world := rfl

section

variable {ref : CoordinatorRef}

/-- A teardown is one change of the coordinator, unless a shutdown is in progress. -/
theorem respects_teardown (framing : Framing relation)
    (moves : ∀ move, Act.Respects relation (Act.modifyCoordinator ref move)) :
    Act.Respects relation (teardown ref) := by
  refine .look framing (fun _ => rfl) fun held => ?_
  split
  · exact .of_throw framing _
  · exact moves _

variable (framing : Framing relation)
  (moves : ∀ move, Act.Respects relation (Act.modifyCoordinator ref move))

include framing moves

/-- A registration changes the coordinator and keeps a close callback. -/
theorem respects_registerContainer {container : ContainerRef}
    (keeps : Act.Respects relation (Container.onClose invoke container (.deregister ref))) :
    Act.Respects relation (registerContainer invoke ref container) := by
  refine .look framing (fun _ => rfl) fun held => ?_
  split
  · exact .of_pure framing _
  · exact .of_pure framing _
  · refine .bind framing (moves _) fun _ => .bind framing keeps fun _ => ?_
    split
    · exact .bind framing (respects_hook framing ref) fun _ => .of_pure framing _
    · exact .of_pure framing _

variable (calls : ∀ call : Call, Act.Respects relation (invoke call))
  (closes : ∀ held, Act.Respects relation (Container.close invoke held))

include calls closes

/-- A shutdown does its work and marks the coordinator, whether something throws or not. -/
theorem respects_shutDown (taken : Registrations) :
    Act.Respects relation (shutDown invoke ref taken) := by
  have running := respects_runAll framing calls closes taken
  refine .bind framing (.tryCatch framing running fun abort => ?_) fun _ => moves _
  split
  · exact .bind framing (moves _) fun _ => .of_throw framing _
  · exact .of_throw framing _

/-- A trigger is a shutdown, or nothing. -/
theorem respects_trigger : Act.Respects relation (trigger invoke ref) := by
  refine .look framing (fun _ => rfl) fun held => ?_
  cases held.enter with
  | finished => exact .of_pure framing _
  | occupied => exact .of_throw framing _
  | begun taken begun =>
    exact .bind framing (moves _) fun _ =>
      .bind framing (respects_shutDown framing moves calls closes taken) fun _ =>
        .of_pure framing _

end

/-- A trigger is contained: what throws is an answer. -/
theorem respects_attemptTrigger (framing : Framing relation) {ref : CoordinatorRef}
    (triggers : Act.Respects relation (trigger invoke ref)) :
    Act.Respects relation (attemptTrigger invoke ref) := by
  refine .tryCatch framing (.bind framing triggers fun _ => .of_pure framing _) fun abort => ?_
  split
  · exact .of_pure framing _
  · exact .of_throw framing _

end ShutdownCoordinator

end Launchpad
