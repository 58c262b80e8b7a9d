import Launchpad.Proofs.Operation.Closing
import Launchpad.Proofs.Operation.Coordinating

/-!
# What spares a registration

Errands of a run that neither register nor close leave a coordinator as it is, and the container of
the run open and with its callbacks, as long as the participants do. A registration adds the
container and the callback that takes it off again; the close of the container runs that callback,
whatever else the container's listeners and callbacks do.
-/

namespace Launchpad

/-- A container is neither closed nor opened again, and keeps its close callbacks. -/
structure Container.Stays (before after : Container) : Prop where
  closed : after.isClosed = before.isClosed
  closeCallbacks : before.closeCallbacks <+: after.closeCallbacks

/-- A coordinator stays as it is, and so does the container that a run makes, once there is one. -/
structure Spares (ref : CoordinatorRef) (created : Option ContainerRef) (before after : World) :
    Prop where
  coordinators : before.coordinators.length ≤ after.coordinators.length
  containers : before.containers.length ≤ after.containers.length
  coordinator : ref.index < before.coordinators.length →
    (before.coordinator ref).Stays (after.coordinator ref)
  container : ∀ container, created = some container → container.index < before.containers.length →
    (before.container container).Stays (after.container container)

namespace Container.Stays

variable {first second third : Container}

/-- A container stays as it is if nothing happens. -/
theorem refl (container : Container) : Stays container container := ⟨rfl, List.prefix_refl _⟩

/-- What stays in two steps stays in both together. -/
theorem trans (start : Stays first second) (rest : Stays second third) : Stays first third where
  closed := rest.closed.trans start.closed
  closeCallbacks := start.closeCallbacks.trans rest.closeCallbacks

/-- Furnishing a container leaves its phase and its callbacks. -/
theorem of_furnishes (furnishes : first.Furnishes second) : Stays first second where
  closed := by rw [isClosed, isClosed, furnishes.phase]
  closeCallbacks := furnishes.closeCallbacks ▸ List.prefix_rfl

end Container.Stays

namespace Spares

variable {ref : CoordinatorRef} {created : Option ContainerRef} {before after : World}

/-- Doing nothing spares every coordinator. -/
theorem refl (world : World) : Spares ref created world world where
  coordinators := Nat.le_refl _
  containers := Nat.le_refl _
  coordinator _ := .refl _
  container _ _ _ := .refl _

/-- What two operations spare, one after the other, both spare. -/
theorem trans {first second third : World} (start : Spares ref created first second)
    (rest : Spares ref created second third) : Spares ref created first third where
  coordinators := Nat.le_trans start.coordinators rest.coordinators
  containers := Nat.le_trans start.containers rest.containers
  coordinator made := (start.coordinator made).trans
    (rest.coordinator (Nat.lt_of_lt_of_le made start.coordinators))
  container held same made := (start.container held same made).trans
    (rest.container held same (Nat.lt_of_lt_of_le made start.containers))

/-- The coordinators are left as they are, and containers are only added. -/
theorem of_containers (coordinators : after.coordinators = before.coordinators)
    (containers : before.containers <+: after.containers) : Spares ref created before after where
  coordinators := Nat.le_of_eq (by rw [coordinators])
  containers := containers.length_le
  coordinator _ := by
    rw [World.coordinator, World.coordinator, coordinators]
    exact .refl _
  container held _ made := by
    obtain ⟨added, same⟩ := containers
    rw [World.container, World.container, ← same, List.getElem?_append_left made]
    exact .refl _

/-- In the end a container is changed in no way that matters. -/
theorem modifyContainer {held : ContainerRef} {change : Container → Container}
    (spared : Spares ref created before after)
    (stays : held.index < before.containers.length → created = some held →
      (before.container held).Stays (change (after.container held))) :
    Spares ref created before (after.modifyContainer held change) where
  coordinators := spared.coordinators
  containers := by simpa [World.modifyContainer] using spared.containers
  coordinator := spared.coordinator
  container other same made := by
    by_cases here : other = held
    · subst here
      rw [World.container_modifyContainer_self _ _ _ (Nat.lt_of_lt_of_le made spared.containers)]
      exact stays made same
    · rw [World.container_modifyContainer_of_ne here]
      exact spared.container other same made

/-- Changing another coordinator spares this one. -/
theorem modifyCoordinator_of_ne {world : World} {other : CoordinatorRef} (different : other ≠ ref)
    (change : ShutdownCoordinator → ShutdownCoordinator) :
    Spares ref created world (world.modifyCoordinator other change) where
  coordinators := by simp [World.modifyCoordinator]
  containers := Nat.le_refl _
  coordinator _ := by
    rw [World.coordinator_modifyCoordinator_of_ne (Ne.symm different)]
    exact .refl _
  container _ _ _ := .refl _

/-- Sparing a coordinator goes from one operation to the next. -/
theorem framing (ref : CoordinatorRef) (created : Option ContainerRef) :
    Framing (Spares ref created) where
  refl := refl
  trans := trans
  aside containers _ coordinators _ := of_containers coordinators (containers ▸ List.prefix_rfl)
  furnish world _ _ furnishes := (refl world).modifyContainer fun _ _ => .of_furnishes furnishes

end Spares

section

variable {ref : CoordinatorRef} {created : Option ContainerRef} {invoke : Invoker}

/-- Making a container adds it to the others. -/
theorem Container.spares_make (kind : ApplicationKind) (options : Container.Options) :
    Act.Respects (Spares ref created) (Container.make kind options) := by
  intro world
  obtain ⟨id, tracking, _, _⟩ := options
  cases id <;> cases tracking <;> exact .of_containers rfl (List.prefix_append _ _)

variable (participants : ∀ call : Call, Act.Respects (Spares ref created) (invoke call))

include participants

/-- A refresh opens no closed container. -/
theorem Container.spares_refresh (container : ContainerRef) :
    Act.Respects (Spares ref created) (Container.refresh invoke container) := by
  have framing := Spares.framing ref created
  have others : ∀ call : Call, call.isEvent = false →
      Act.Respects (Spares ref created) (invoke call) := fun call _ => participants call
  intro world
  refine Act.Respects.bind_from (framing.refl world) ?_
  rintro held _ ⟨⟩ -
  split
  · exact framing.refl world
  · split
    · exact framing.refl world
    · rename_i startup begun
      refine Act.Respects.bind_from (startup.respects_begin framing others _ world) ?_
      intro step _ _ spared
      refine Act.Respects.bind_from
        (framing.trans spared (startup.respects_tag framing others _ _ _ _)) ?_
      intro step between _ spared
      refine Act.Respects.bind_from (spared.modifyContainer fun made same => ?_) ?_
      · -- The container was open when the refresh began, and nobody has closed it since.
        have stays := spared.container container same made
        refine ⟨?_, stays.closeCallbacks⟩
        rw [Container.isClosed, Container.isClosed, Container.phase_of_beginRefresh begun]
        rfl
      · rintro _ _ ⟨⟩ spared
        exact framing.trans spared <| Act.Respects.look framing (fun _ => rfl) (fun active =>
          .bind framing (.log framing _ _ _) fun _ =>
            .bind framing (startup.respects_finish framing others _) fun _ =>
              Container.respects_publish framing participants _ _) _

/-- Only registering and closing move the coordinator and the container of a run. -/
theorem Errand.spares {errand : Errand}
    (registers : ∀ coordinator container, errand ≠ .registerForShutdown coordinator container)
    (closes : ∀ container, errand ≠ .close container) :
    Act.Respects (Spares ref created) (errand.carryOut invoke) := by
  have framing := Spares.framing ref created
  have others : ∀ call : Call, call.isEvent = false →
      Act.Respects (Spares ref created) (invoke call) := fun call _ => participants call
  by_cases quiet : errand.isQuiet = true
  · exact Errand.respects_carryOut framing others quiet
  · cases errand with
    | registerForShutdown coordinator container => exact absurd rfl (registers _ _)
    | close container => exact absurd rfl (closes _)
    | makeStore => exact fun world => .of_containers rfl List.prefix_rfl
    | beginCloseStore store =>
      refine .look framing (fun _ => rfl) fun held => ?_
      split
      · exact .of_pure framing _
      · exact .bind framing (.of_modify fun world => .of_containers rfl List.prefix_rfl) fun _ =>
          .of_pure framing _
    | createContainer factory kind =>
      cases factory with
      | standard =>
        exact .bind framing (Container.spares_make _ _) fun _ => .of_pure framing _
      | tracking closeFailure =>
        exact .bind framing (Container.spares_make _ _) fun _ => .of_pure framing _
      | custom participant => exact participants _
    | refresh container => exact Container.spares_refresh participants container
    | publish container event => exact Container.respects_publish framing participants _ _
    | tell listener notice =>
      cases listener with
      | eventPublishing listeners =>
        refine RunListener.respects_tell_of_publisher framing participants listeners
          (fun container => ?_) notice
        exact .of_modify fun world =>
          (Spares.refl world).modifyContainer fun _ _ => ⟨rfl, List.prefix_rfl⟩
      | recorder | custom => exact absurd rfl quiet
    | showEnvironment listener store environment =>
      cases listener with
      | eventPublishing listeners =>
        exact RunListener.respects_environmentPrepared_of_publisher framing participants _
          store environment
      | recorder | custom => exact absurd rfl quiet
    | tellFailed listener container failure =>
      cases listener with
      | eventPublishing listeners =>
        exact RunListener.respects_publishFailure framing participants _ _ _
      | recorder | custom => exact absurd rfl quiet
    | _ => exact absurd rfl quiet

end

section

variable {ref : CoordinatorRef} {container : ContainerRef} {invoke : Invoker} {world later : World}

/-- What the registration of an open container does that its coordinator does not know yet: while
registrations are accepted, the coordinator knows it from then on and the container has the callback
that takes it off; otherwise nothing happens. -/
theorem ShutdownCoordinator.registerContainer_result {answer : Bool}
    (made : ref.index < world.coordinators.length)
    (there : container.index < world.containers.length)
    (isOpen : (world.container container).isClosed = false)
    (unknown : container ∉ (world.coordinator ref).containers)
    (ran : (registerContainer invoke ref container).result world = (.ok answer, later)) :
    (answer = false ∧ (world.coordinator ref).status ≠ .idle ∧ later = world) ∨
    (answer = true ∧ (world.coordinator ref).status = .idle ∧
      later.coordinators.length = world.coordinators.length ∧
      later.containers.length = world.containers.length ∧
      later.coordinator ref = { world.coordinator ref with
        containers := (world.coordinator ref).containers ++ [container] } ∧
      later.container container = (world.container container).addCallback (.deregister ref)) := by
  obtain ⟨held, between, looked, ran⟩ := Act.result_bind_ok_iff.1 ran
  cases looked
  cases registration : (world.coordinator ref).register container with
  | refused =>
    rw [registration] at ran
    cases ran
    refine .inl ⟨rfl, fun idle => ?_, rfl⟩
    have refused := register_eq_refused_iff.1 registration
    simp [accepting, idle] at refused
  | present => exact absurd (register_eq_present_iff.1 registration).2 unknown
  | added coordinator =>
    obtain ⟨accepts, -, changed⟩ := register_eq_added_iff.1 registration
    rw [registration] at ran
    obtain ⟨_, _, modified, ran⟩ := Act.result_bind_ok_iff.1 ran
    rw [Act.result_modifyCoordinator] at modified
    cases modified
    obtain ⟨_, _, kept, ran⟩ := Act.result_bind_ok_iff.1 ran
    rw [Container.onClose_result (by simpa using isOpen)] at kept
    cases kept
    obtain ⟨same, coordinators, containers⟩ : answer = true ∧
        later.coordinators = (world.modifyCoordinator ref fun _ => coordinator).coordinators ∧
        later.containers =
          (world.modifyContainer container (·.addCallback (.deregister ref))).containers := by
      dsimp only at ran
      split at ran <;> cases ran <;> exact ⟨rfl, rfl, rfl⟩
    refine .inr ⟨same, by simpa [accepting] using accepts, ?_, ?_, ?_, ?_⟩
    · rw [coordinators]
      simp [World.modifyCoordinator]
    · rw [containers]
      simp [World.modifyContainer]
    · rw [World.coordinator, coordinators, ← changed]
      exact World.coordinator_modifyCoordinator_self world ref _ made
    · rw [World.container, containers]
      exact World.container_modifyContainer_self world container _ there

/-- A container goes through its close callbacks: a coordinator loses the container if one of them
takes it off, and nothing else happens to it. -/
structure Unwinds (ref : CoordinatorRef) (container : ContainerRef) (takesOff : Bool)
    (before after : World) : Prop where
  coordinators : before.coordinators.length ≤ after.coordinators.length
  containers : before.containers.length ≤ after.containers.length
  coordinator : (if takesOff then (before.coordinator ref).deregister container
    else before.coordinator ref).Stays (after.coordinator ref)
  container : container.index < before.containers.length →
    (before.container container).Stays (after.container container)

namespace Unwinds

variable {first second third : World} {one other : Bool}

/-- What spares a coordinator unwinds nothing of it. -/
theorem of_spares (made : ref.index < first.coordinators.length)
    (spared : Spares ref (some container) first second) :
    Unwinds ref container false first second where
  coordinators := spared.coordinators
  containers := spared.containers
  coordinator := spared.coordinator made
  container := spared.container container rfl

/-- What one part of a close takes off, the whole close takes off. -/
theorem trans (start : Unwinds ref container one first second)
    (rest : Unwinds ref container other second third) :
    Unwinds ref container (one || other) first third where
  coordinators := Nat.le_trans start.coordinators rest.coordinators
  containers := Nat.le_trans start.containers rest.containers
  coordinator := by
    have early := start.coordinator
    have late := rest.coordinator
    cases one <;> cases other
    · exact early.trans late
    · exact (early.deregister container).trans late
    · exact early.trans late
    · exact ((ShutdownCoordinator.Stays.deregister_twice _ container).trans
        (early.deregister container)).trans late
  container there := (start.container there).trans
    (rest.container (Nat.lt_of_lt_of_le there start.containers))

/-- A close does not drop a coordinator. -/
theorem dropped (unwinds : Unwinds ref container one first second) :
    (second.coordinator ref).dropped = (first.coordinator ref).dropped := by
  rw [unwinds.coordinator.dropped]
  cases one <;> rfl

end Unwinds

variable (participants : ∀ call : Call, Act.Respects (Spares ref (some container)) (invoke call))

include participants

/-- One callback, while the coordinator is held. -/
theorem Container.runCallback_unwinds {callback : CloseCallback}
    (made : ref.index < world.coordinators.length)
    (live : (world.coordinator ref).dropped = false)
    (ran : (runCallback invoke container callback).result world = (.ok (), later)) :
    Unwinds ref container (callback == .deregister ref) world later := by
  have framing := Spares.framing ref (some container)
  cases callback with
  | custom participant =>
    have spared := participants (.containerClosed participant) world
    change (invoke (.containerClosed participant)).result world = _ at ran
    rw [ran] at spared
    exact .of_spares made spared
  | deregister other =>
    obtain ⟨_, _, looked, ran⟩ := Act.result_bind_ok_iff.1 ran
    cases looked
    by_cases same : other = ref
    · subst same
      rw [live] at ran
      obtain rfl : later = world.modifyCoordinator other (·.deregister container) := by
        cases ran
        rfl
      rw [beq_self_eq_true]
      refine ⟨?_, Nat.le_refl _, ?_, fun _ => .refl _⟩
      · simp [World.modifyCoordinator]
      · rw [World.coordinator_modifyCoordinator_self _ _ _ made]
        exact .refl _
    · have differs : (CloseCallback.deregister other == CloseCallback.deregister ref) = false := by
        simpa using same
      rw [differs]
      refine .of_spares made ?_
      split at ran
      · cases ran
        exact .refl _
      · rw [Act.result_modifyCoordinator] at ran
        cases ran
        exact .modifyCoordinator_of_ne same _

/-- All callbacks, while the coordinator is held. -/
theorem Container.runCallbacks_unwinds {callbacks : List CloseCallback}
    (made : ref.index < world.coordinators.length)
    (live : (world.coordinator ref).dropped = false)
    (ran : (Act.forEach (runCallback invoke container) callbacks).result world = (.ok (), later)) :
    Unwinds ref container (callbacks.contains (.deregister ref)) world later := by
  induction callbacks generalizing world with
  | nil =>
    cases ran
    exact .of_spares made (.refl _)
  | cons callback rest ih =>
    obtain ⟨_, between, first, ran⟩ := Act.result_bind_ok_iff.1 ran
    have start := runCallback_unwinds participants made live first
    have goesOn := ih (Nat.lt_of_lt_of_le made start.coordinators) (start.dropped.trans live) ran
    rw [List.contains_cons, BEq.comm]
    exact start.trans goesOn

/-- Telling the listeners of a container that it is closed. -/
theorem Container.spares_announceClose (held : Container) :
    Act.Respects (Spares ref (some container)) (announceClose invoke container held) := by
  have framing := Spares.framing ref (some container)
  unfold announceClose
  split
  · refine .bind framing (Container.respects_publish framing participants _ _) fun told => ?_
    split
    · exact .log framing _ _ _
    · exact .of_pure framing _
  · exact .of_pure framing _

/-- What the close of an open container does to a coordinator that is still held: it loses the
container if the container has the callback that takes it off, and nothing else. -/
theorem Container.close_unwinds {answer : Except Failure Unit}
    (made : ref.index < world.coordinators.length)
    (live : (world.coordinator ref).dropped = false)
    (there : container.index < world.containers.length)
    (isOpen : (world.container container).isClosed = false)
    (ran : (close invoke container).result world = (.ok answer, later)) :
    world.coordinators.length ≤ later.coordinators.length ∧
    world.containers.length ≤ later.containers.length ∧
    (later.container container).isClosed = true ∧
    (if (world.container container).closeCallbacks.contains (.deregister ref) then
      (world.coordinator ref).deregister container
      else world.coordinator ref).Stays (later.coordinator ref) := by
  have framing := Spares.framing ref (some container)
  let counted := world.modifyContainer container countClose
  let closed := counted.modifyContainer container fun _ => (counted.container container).shut
  have same : counted.container container = (world.container container).countClose :=
    World.container_modifyContainer_self _ _ _ there
  have thereClosed : container.index < closed.containers.length := by
    simpa [closed, counted, World.modifyContainer] using there
  have shut : (closed.container container).isClosed = true := by
    rw [World.container_modifyContainer_self]
    · rfl
    · simpa [counted, World.modifyContainer] using there
  -- A close has three sections, and only the second, the callbacks, may touch the coordinator.
  obtain ⟨announced, unwound, announces, unwinds, logs⟩ :=
    sections_of_closeOnce (by rw [same]; exact isOpen) (closeOnce_of_close ran)
  have told : Spares ref (some container) closed announced := by
    have spared := spares_announceClose participants (counted.container container) closed
    rwa [announces] at spared
  have noted : Spares ref (some container) unwound later := by
    have spared := Act.Respects.log framing .info "Context closed"
      [("context", (counted.container container).id)] unwound
    rwa [logs] at spared
  have telling : Unwinds ref container false closed announced := .of_spares made told
  have madeTold := Nat.lt_of_lt_of_le made telling.coordinators
  have unwinding := runCallbacks_unwinds participants madeTold (telling.dropped.trans live) unwinds
  have noting := Unwinds.of_spares (Nat.lt_of_lt_of_le madeTold unwinding.coordinators) noted
  have whole := (telling.trans unwinding).trans noting
  have size : closed.containers.length = world.containers.length := by
    simp [closed, counted, World.modifyContainer]
  refine ⟨whole.coordinators, size ▸ whole.containers,
    (whole.container thereClosed).closed.trans shut, ?_⟩
  have takesOff := whole.coordinator
  rw [same, Bool.false_or, Bool.or_false] at takesOff
  exact takesOff

end

end Launchpad
