import Launchpad.Proofs.Launch.Registration

/-!
# How a registration stands along a run

The invariant of a run is how its registration stands: before the container is registered the
coordinator is as it was, and from then on it has that container more, while the container has the
callback that takes it off. Every errand but the close keeps that, and the close of a failed run
takes the container off again.
-/

namespace Launchpad

/-- A container was made between two worlds, and is open. -/
structure ContainerRef.IsFresh (container : ContainerRef) (before after : World) : Prop where
  unmade : before.containers.length ≤ container.index
  made : container.index < after.containers.length
  isOpen : (after.container container).isClosed = false

/-- A factory of an application's own makes a container of its own for every call. -/
def ContainerFactory.YieldsFresh (invoke : Invoker) (factory : ContainerFactory) : Prop :=
  ∀ participant, factory = .custom participant → ∀ kind world container later,
    (invoke (.createContainer participant kind)).result world = (.ok (.ok container), later) →
      container.IsFresh world later

/-- A container that is made is a new one, and open. -/
theorem Container.make_fresh {kind : ApplicationKind} {options : Container.Options}
    {world later : World}
    {container : ContainerRef}
    (ran : (Container.make kind options).result world = (.ok container, later)) :
    container.IsFresh world later := by
  obtain ⟨id, tracking, _, _⟩ := options
  cases id <;> cases tracking <;> cases ran <;>
    exact ⟨Nat.le_refl _, by simp, by simp [World.container, Container.isClosed]⟩

/-- Every factory makes a new container that is open, if the application's own does. -/
theorem ContainerFactory.create_fresh {invoke : Invoker} {factory : ContainerFactory}
    (fresh : factory.YieldsFresh invoke) {kind : ApplicationKind} {world later : World}
    {container : ContainerRef}
    (ran : (factory.create invoke kind).result world = (.ok (.ok container), later)) :
    container.IsFresh world later := by
  cases factory with
  | standard =>
    obtain ⟨_, _, made, ran⟩ := Act.result_bind_ok_iff.1 ran
    cases ran
    exact Container.make_fresh made
  | tracking closeFailure =>
    obtain ⟨_, _, made, ran⟩ := Act.result_bind_ok_iff.1 ran
    cases ran
    exact Container.make_fresh made
  | custom participant => exact fresh participant rfl _ _ _ _ ran

/-- What a run did so far to a coordinator and to the container that it made: the coordinator has
registered one container more, if the run registered its container, and otherwise stays as it
was. -/
structure Stands (ref : CoordinatorRef) (created registered : Option ContainerRef)
    (before after : World) : Prop where
  coordinators : before.coordinators.length ≤ after.coordinators.length
  containers : before.containers.length ≤ after.containers.length
  coordinator : ShutdownCoordinator.Stays
    { before.coordinator ref with
      containers := (before.coordinator ref).containers ++ registered.toList }
    (after.coordinator ref)
  fresh : ∀ container, created = some container → container.IsFresh before after
  callback : ∀ container, registered = some container → created = some container ∧
    .deregister ref ∈ (after.container container).closeCallbacks ∧
    (before.coordinator ref).status = .idle

namespace Stands

variable {ref : CoordinatorRef} {created registered : Option ContainerRef}
  {start before after : World}

theorem refl (world : World) : Stands ref none none world world where
  coordinators := Nat.le_refl _
  containers := Nat.le_refl _
  coordinator := by
    rw [Option.toList_none, List.append_nil]
    exact .refl _
  fresh _ same := nomatch same
  callback _ same := nomatch same

/-- What spares the registration leaves things as they stand. -/
theorem spare (stands : Stands ref created registered start before)
    {container : Option ContainerRef} (made : ref.index < start.coordinators.length)
    (same : ∀ held, created = some held → container = some held)
    (spared : Spares ref container before after) : Stands ref created registered start after where
  coordinators := Nat.le_trans stands.coordinators spared.coordinators
  containers := Nat.le_trans stands.containers spared.containers
  coordinator := stands.coordinator.trans
    (spared.coordinator (Nat.lt_of_lt_of_le made stands.coordinators))
  fresh held known := by
    have fresh := stands.fresh held known
    have stays := spared.container held (same held known) fresh.made
    exact ⟨fresh.unmade, Nat.lt_of_lt_of_le fresh.made spared.containers,
      stays.closed.trans fresh.isOpen⟩
  callback held known := by
    obtain ⟨known, takesOff, idle⟩ := stands.callback held known
    have stays := spared.container held (same held known) (stands.fresh held known).made
    exact ⟨known, stays.closeCallbacks.subset takesOff, idle⟩

end Stands

/-- The close of the container takes it off, whether or not it was registered. -/
theorem Stands.close {ref : CoordinatorRef} {registered : Option ContainerRef}
    {container : ContainerRef} {invoke : Invoker} {start before after : World}
    {answer : Except Failure Unit}
    (stands : Stands ref (some container) registered start before)
    (made : ref.index < start.coordinators.length)
    (live : (start.coordinator ref).dropped = false)
    (known : ∀ other ∈ (start.coordinator ref).containers, other.index < start.containers.length)
    (participants : ∀ call : Call, Act.Respects (Spares ref (some container)) (invoke call))
    (ran : (Container.close invoke container).result before = (.ok answer, after)) :
    Stands ref none none start after ∧ container.index < after.containers.length ∧
      (after.container container).isClosed = true := by
  have fresh := stands.fresh container rfl
  have unknown : (start.coordinator ref).containers.filter (· ≠ container) =
      (start.coordinator ref).containers := by
    refine List.filter_eq_self.2 fun other among => ?_
    have older := Nat.lt_of_lt_of_le (known other among) fresh.unmade
    simp only [ne_eq, decide_not, Bool.not_eq_eq_eq_not, Bool.not_true, decide_eq_false_iff_not]
    rintro rfl
    exact Nat.lt_irrefl _ older
  obtain ⟨coordinators, containers, closed, unwound⟩ := Container.close_unwinds participants
    (Nat.lt_of_lt_of_le made stands.coordinators) (stands.coordinator.dropped.trans live)
    fresh.made fresh.isOpen ran
  refine ⟨⟨Nat.le_trans stands.coordinators coordinators,
    Nat.le_trans stands.containers containers, ?_, nofun, nofun⟩,
    Nat.lt_of_lt_of_le fresh.made containers, closed⟩
  have before_deregistered : ((before.coordinator ref).deregister container).containers =
      (start.coordinator ref).containers := by
    rw [ShutdownCoordinator.deregister, stands.coordinator.containers, List.filter_append, unknown]
    cases registered with
    | none => exact List.append_nil _
    | some other =>
      obtain ⟨⟨⟩, -, -⟩ := stands.callback other rfl
      simp
  refine ⟨?_, ?_, ?_⟩
  · rw [unwound.containers, Option.toList_none, List.append_nil]
    split
    · exact before_deregistered
    · rename_i keeps
      cases registered with
      | none => exact stands.coordinator.containers.trans (List.append_nil _)
      | some other =>
        obtain ⟨⟨⟩, takesOff, -⟩ := stands.callback other rfl
        exact absurd (List.contains_iff_mem.2 takesOff) keeps
  · rw [unwound.status]
    split <;> exact stands.coordinator.status
  · rw [unwound.dropped]
    split <;> exact stands.coordinator.dropped

/-- A registration for the shutdown that is answered is passed. -/
theorem Reply.visit?_of_registration {reply : Reply} {coordinator : CoordinatorRef}
    {container : ContainerRef}
    (registers : reply.errand = .registerForShutdown coordinator container)
    (answered : ∃ answer, reply.answer = .ok answer) :
    reply.visit? = some (.passed ⟨.shutdownRegistration coordinator container, .nothing⟩) ∨
      reply.visit? = some
        (.failed (.shutdownRegistration coordinator container) LaunchFault.shutdown.alone) := by
  obtain ⟨errand, reply⟩ := reply
  dsimp only at registers answered
  subst registers
  obtain ⟨answer, rfl⟩ := answered
  cases answer
  · exact .inr rfl
  · exact .inl rfl

namespace Application

/-- A world in which nobody but the run of an application moves its coordinator. The coordinator is
there and held, and what it has registered was made before; the participants neither touch it nor
close or open the container of the run; and that container is a fresh one. -/
structure Undisturbed (invoke : Invoker) (application : Application) (given : List String)
    (world : World) : Prop where
  made : application.coordinator.index < world.coordinators.length
  live : (world.coordinator application.coordinator).dropped = false
  registered : ∀ container ∈ (world.coordinator application.coordinator).containers,
    container.index < world.containers.length
  participants : ∀ call : Call, Act.Respects (Spares application.coordinator
    (createdIn (application.execution invoke given world).visits)) (invoke call)
  fresh : application.factory.YieldsFresh invoke

/-- How things stand after a part of the record of a run. -/
def StandsAfter (application : Application) (start : World) (record : List Performed)
    (reached : World) : Prop :=
  Stands application.coordinator (createdIn (visitsOf (record.map (·.reply))))
    (registeredIn (visitsOf (record.map (·.reply)))) start reached

namespace Undisturbed

variable {invoke : Invoker} {application : Application} {given : List String} {world : World}
  {found : Found application} {course : Course} {earlier later : List Performed}
  {performed : Performed}

/-- An errand that shows no container and neither registers nor closes. -/
theorem standsAfter_plain (undisturbed : Undisturbed invoke application given world)
    (walk : Walk (itinerary given found) (application.execution invoke given world).visits course)
    (record : (application.execution invoke given world).record = earlier ++ performed :: later)
    (ran : performed.Ran invoke)
    (registers : ∀ coordinator container,
      performed.reply.errand ≠ .registerForShutdown coordinator container)
    (closes : ∀ container, performed.reply.errand ≠ .close container)
    (untouched : createdIn (visitsOf [performed.reply]) = none ∧
      registeredIn (visitsOf [performed.reply]) = none)
    (stands : application.StandsAfter world earlier performed.before) :
    application.StandsAfter world (earlier ++ [performed]) performed.after := by
  have spared := Errand.spares undisturbed.participants registers closes performed.before
  rw [Act.result, ran] at spared
  rw [StandsAfter, List.map_append, visitsOf_append, createdIn_append, registeredIn_append]
  change Stands _ ((createdIn (visitsOf [performed.reply])).or _)
    ((registeredIn (visitsOf [performed.reply])).or _) _ _
  rw [untouched.1, untouched.2, Option.none_or, Option.none_or]
  exact Stands.spare stands undisturbed.made (fun _ created => created_of_part walk record created)
    spared

/-- After the errand that makes it, the container of the run is new and open, and not registered. -/
theorem standsAfter_creation (undisturbed : Undisturbed invoke application given world)
    (walk : Walk (itinerary given found) (application.execution invoke given world).visits course)
    {factory : ContainerFactory} {kind : ApplicationKind} {before after : World}
    {container : ContainerRef}
    (record : (application.execution invoke given world).record =
      earlier ++ ⟨before, ⟨.createContainer factory kind, .ok (.ok container)⟩, after⟩ :: later)
    (ran : (factory.create invoke kind).result before = (.ok (.ok container), after))
    (stands : application.StandsAfter world earlier before) :
    application.StandsAfter world
      (earlier ++ [⟨before, ⟨.createContainer factory kind, .ok (.ok container)⟩, after⟩])
      after := by
  have visits : (application.execution invoke given world).visits =
      visitsOf (earlier.map (·.reply)) ++
        .passed ⟨.containerFactory factory kind, .container container⟩ ::
          visitsOf (later.map (·.reply)) := by
    rw [Execution.visits_of_record record]
    rfl
  rw [visits] at walk
  obtain ⟨rfl, uncreated, unregistered⟩ := before_creation walk rfl
  have fresh := ContainerFactory.create_fresh undisturbed.fresh ran
  have errands :
      Act.Respects _ (Errand.carryOut invoke (.createContainer application.factory kind)) :=
    Errand.spares undisturbed.participants (by rintro _ _ ⟨⟩) (by rintro _ ⟨⟩)
  have spared := errands before
  change Spares _ _ _ ((application.factory.create invoke kind).result before).2 at spared
  rw [ran] at spared
  rw [StandsAfter, List.map_append, visitsOf_append, createdIn_append, registeredIn_append]
  change Stands _ (some container) ((none : Option ContainerRef).or _) _ _
  rw [StandsAfter, uncreated, unregistered] at stands
  rw [unregistered]
  have kept := stands.spare undisturbed.made (by rintro _ ⟨⟩) spared
  refine ⟨kept.coordinators, kept.containers, kept.coordinator, ?_, by rintro _ ⟨⟩⟩
  rintro _ ⟨⟩
  exact ⟨Nat.le_trans stands.containers fresh.unmade, fresh.made, fresh.isOpen⟩

/-- The run registers its container, or is refused. -/
theorem standsAfter_registration (undisturbed : Undisturbed invoke application given world)
    (walk : Walk (itinerary given found) (application.execution invoke given world).visits course)
    {coordinator : CoordinatorRef} {container : ContainerRef} {before after : World} {answer : Bool}
    (record : (application.execution invoke given world).record =
      earlier ++ ⟨before, ⟨.registerForShutdown coordinator container, .ok answer⟩, after⟩ :: later)
    (ran : (ShutdownCoordinator.registerContainer invoke coordinator container).result before =
      (.ok answer, after))
    (stands : application.StandsAfter world earlier before) :
    application.StandsAfter world
      (earlier ++ [⟨before, ⟨.registerForShutdown coordinator container, .ok answer⟩, after⟩])
      after := by
  have visits : (application.execution invoke given world).visits =
      visitsOf (earlier.map (·.reply)) ++
        (if answer then .passed ⟨.shutdownRegistration coordinator container, .nothing⟩
          else .failed (.shutdownRegistration coordinator container) LaunchFault.shutdown.alone) ::
          visitsOf (later.map (·.reply)) := by
    rw [Execution.visits_of_record record]
    cases answer <;> rfl
  rw [visits] at walk
  obtain ⟨rfl, -, created, unregistered⟩ := before_registration walk (by split <;> rfl)
  rw [StandsAfter, created, unregistered] at stands
  have fresh := stands.fresh container rfl
  have before_containers : (before.coordinator application.coordinator).containers =
      (world.coordinator application.coordinator).containers :=
    stands.coordinator.containers.trans (List.append_nil _)
  -- The container is newer than all that the coordinator knew before the run, and none was added
  -- since.
  have unknown : container ∉ (before.coordinator application.coordinator).containers := by
    rw [before_containers]
    intro known
    exact Nat.lt_irrefl _ (Nat.lt_of_lt_of_le (undisturbed.registered container known) fresh.unmade)
  rw [StandsAfter, List.map_append, visitsOf_append, createdIn_append, registeredIn_append,
    created, unregistered]
  obtain ⟨rfl, -, rfl⟩ | ⟨rfl, idle, coordinators, containers, registers, keeps⟩ :=
    ShutdownCoordinator.registerContainer_result
      (Nat.lt_of_lt_of_le undisturbed.made stands.coordinators) fresh.made fresh.isOpen unknown ran
  · exact stands
  · change Stands _ (some container) (some container) _ _
    have same : (before.coordinator application.coordinator).status =
      (world.coordinator application.coordinator).status := stands.coordinator.status
    refine ⟨coordinators ▸ stands.coordinators, containers ▸ stands.containers,
      ⟨?_, ?_, ?_⟩, ?_, ?_⟩
    · rw [registers, before_containers]
      rfl
    · rw [registers]
      exact same
    · rw [registers]
      exact stands.coordinator.dropped
    · rintro _ ⟨⟩
      refine ⟨fresh.unmade, containers ▸ fresh.made, ?_⟩
      rw [keeps]
      exact fresh.isOpen
    · rintro _ ⟨⟩
      refine ⟨rfl, ?_, same ▸ idle⟩
      rw [keeps]
      exact List.mem_append_right _ List.mem_cons_self

/-- Every errand but a close leaves the coordinator as the run so far accounts for. -/
theorem standsAfter_step (undisturbed : Undisturbed invoke application given world)
    (walk : Walk (itinerary given found) (application.execution invoke given world).visits course)
    (record : (application.execution invoke given world).record = earlier ++ performed :: later)
    (ran : performed.Ran invoke) (answered : ∃ answer, performed.reply.answer = .ok answer)
    (closes : ∀ container, performed.reply.errand ≠ .close container)
    (stands : application.StandsAfter world earlier performed.before) :
    application.StandsAfter world (earlier ++ [performed]) performed.after := by
  by_cases creates : ∃ factory kind, performed.reply.errand = .createContainer factory kind
  · obtain ⟨factory, kind, same⟩ := creates
    obtain ⟨before, ⟨errand, reply⟩, after⟩ := performed
    dsimp only at answered same
    obtain ⟨answer, rfl⟩ := answered
    cases same
    cases answer with
    | ok container => exact undisturbed.standsAfter_creation walk record ran stands
    | error failure =>
      exact undisturbed.standsAfter_plain walk record ran nofun closes ⟨rfl, rfl⟩ stands
  · by_cases registers : ∃ coordinator container,
      performed.reply.errand = .registerForShutdown coordinator container
    · obtain ⟨coordinator, container, same⟩ := registers
      obtain ⟨before, ⟨errand, reply⟩, after⟩ := performed
      dsimp only at answered same
      obtain ⟨answer, rfl⟩ := answered
      cases same
      exact undisturbed.standsAfter_registration walk record ran stands
    · have creates := createdIn_of_reply fun factory kind same => creates ⟨factory, kind, same⟩
      have registers := fun coordinator container same => registers ⟨coordinator, container, same⟩
      exact undisturbed.standsAfter_plain walk record ran registers closes
        ⟨creates, registeredIn_of_reply registers⟩ stands

/-- The record of a run up to its close. -/
theorem standsAfter_beginning (undisturbed : Undisturbed invoke application given world)
    (walk : Walk (itinerary given found) (application.execution invoke given world).visits course)
    {first second : List Performed} {reached : World}
    (record : (application.execution invoke given world).record = first ++ second)
    (answered : ∀ reply ∈ (application.execution invoke given world).replies,
      ∃ answer, reply.answer = .ok answer)
    (closes : ∀ performed ∈ first, ∀ container, performed.reply.errand ≠ .close container)
    (chain : Performed.Chain invoke world first reached) :
    application.StandsAfter world first reached := by
  refine chain.invariant (application.StandsAfter world) (Stands.refl world)
    fun earlier performed later split stands ran => ?_
  subst split
  rw [List.append_assoc] at record
  refine undisturbed.standsAfter_step walk record ran (answered _ ?_) (closes performed ?_) stands
  · rw [Execution.replies, record]
    simp
  · simp

/-- After the close, everything stays as it is. -/
theorem closed_of_rest (undisturbed : Undisturbed invoke application given world)
    {container : ContainerRef} {rest : List Performed} {reached last : World}
    (created : createdIn (application.execution invoke given world).visits = some container)
    (plain : milestonesOf (rest.map (·.reply)) = [] ∧ visitsOf (rest.map (·.reply)) = [])
    (chain : Performed.Chain invoke reached rest last)
    (stands : Stands application.coordinator none none world reached ∧
      container.index < reached.containers.length ∧
      (reached.container container).isClosed = true) :
    Stands application.coordinator none none world last ∧
      container.index < last.containers.length ∧ (last.container container).isClosed = true := by
  refine chain.invariant (fun _ reached => Stands application.coordinator none none world reached ∧
      container.index < reached.containers.length ∧ (reached.container container).isClosed = true)
    stands fun earlier performed later split since ran => ?_
  obtain ⟨stands, made, closed⟩ := since
  have among : performed.reply ∈ rest.map (·.reply) := List.mem_map_of_mem (by simp [split])
  have closes : ∀ other, performed.reply.errand ≠ .close other := fun other same => by
    have quiet := List.filterMap_eq_nil_iff.1 plain.1 _ among
    rw [same] at quiet
    cases quiet
  have registers : ∀ coordinator other,
      performed.reply.errand ≠ .registerForShutdown coordinator other := fun _ _ same => by
    have quiet := List.filterMap_eq_nil_iff.1 plain.2 _ among
    rw [Reply.visit?, Option.map_eq_none_iff, same] at quiet
    cases quiet
  have spared := Errand.spares undisturbed.participants registers closes performed.before
  rw [Act.result, ran] at spared
  exact ⟨stands.spare undisturbed.made (by rintro _ ⟨⟩) spared,
    Nat.lt_of_lt_of_le made spared.containers,
    (spared.container container created made).closed.trans closed⟩

end Undisturbed

variable {invoke : Invoker} {application : Application} {given : List String}
  {world last : World} {outcome : Outcome}

/-- A failed run leaves the registrations as it found them, and its container closed. -/
theorem registrations_of_failed (undisturbed : Undisturbed invoke application given world)
    (ended : (application.execution invoke given world).result = .ok outcome) {error : RunError}
    (failed : outcome.result = .error error) :
    Stands application.coordinator none none world
        (application.execution invoke given world).world ∧
      ∀ container, createdIn (application.execution invoke given world).visits = some container →
        ((application.execution invoke given world).world.container container).isClosed = true := by
  have chain := chain_execution invoke application given world
  have path := path_of_result ended
  have answered := path.answered_of_some
  obtain ⟨found, walk⟩ := walk_of_result ended
  obtain ⟨uncreated, closes⟩ | ⟨container, first, closing, later, created, record, closes, same,
      visits, plain⟩ := closing_of_failed ended failed
  · have stands := undisturbed.standsAfter_beginning walk (List.append_nil _).symm answered closes
      chain
    change Stands _ (createdIn (application.execution invoke given world).visits)
      (registeredIn (application.execution invoke given world).visits) _ _ at stands
    have unregistered : registeredIn (application.execution invoke given world).visits = none := by
      refine Option.eq_none_iff_forall_ne_some.2 fun other registered => ?_
      have made := (stands.callback other registered).1
      rw [uncreated] at made
      cases made
    rw [uncreated, unregistered] at stands
    exact ⟨stands, fun container created => by rw [uncreated] at created; cases created⟩
  · rw [record] at chain
    obtain ⟨reached, chain, rfl, carried, rest⟩ := chain.split
    have stands := undisturbed.standsAfter_beginning walk record answered closes chain
    rw [StandsAfter, visits, created] at stands
    have participants := undisturbed.participants
    rw [created] at participants
    obtain ⟨answer, ran⟩ := Performed.Ran.answered carried same
      (answered closing.reply (by simp [Execution.replies, record]))
    have closed := stands.close undisturbed.made undisturbed.live undisturbed.registered
      participants ran
    obtain ⟨stands, -, closed⟩ := undisturbed.closed_of_rest created plain rest closed
    refine ⟨stands, fun other same => ?_⟩
    rw [created] at same
    cases same
    exact closed

/-- A run that succeeds registers its container if its settings ask for that. -/
theorem registrations_of_ok (undisturbed : Undisturbed invoke application given world)
    (ended : (application.execution invoke given world).result = .ok outcome)
    {container : ContainerRef} (succeeded : outcome.result = .ok container) :
    Stands application.coordinator (some container)
      (if outcome.settings.registerShutdownHook then some container else none) world
      (application.execution invoke given world).world := by
  have path := path_of_result ended
  obtain ⟨found, rfl, settings, visits⟩ := passed_of_ok path succeeded
  change (application.execution invoke given world).visits = _ at visits
  have walk : Walk (itinerary given found) (application.execution invoke given world).visits
      .completed := Walk.completed_iff.2 visits
  have stands := undisturbed.standsAfter_beginning walk (List.append_nil _).symm
    path.answered_of_some (not_close_of_ok ended succeeded)
    (chain_execution invoke application given world)
  change Stands _ (createdIn (application.execution invoke given world).visits)
    (registeredIn (application.execution invoke given world).visits) _ _ at stands
  have passed : ∀ stop ∈ itinerary given found,
      .passed stop ∈ (application.execution invoke given world).visits := fun stop among => by
    rw [visits]
    exact List.mem_map_of_mem among
  have known : ∀ stop, .passed stop ∈ (application.execution invoke given world).visits →
      stop ∈ itinerary given found := fun _ passed => walk.mem_of_passed passed
  have created : createdIn (application.execution invoke given world).visits =
      some found.container :=
    createdIn_of_passed known (passed _ (creationStop_mem_itinerary given found)) rfl
  rw [created, registeredIn_completed walk, settings] at stands
  exact stands

/-- A container is only registered while its coordinator accepts registrations. -/
theorem idle_of_registered (undisturbed : Undisturbed invoke application given world)
    (ended : (application.execution invoke given world).result = .ok outcome)
    {container : ContainerRef}
    (registered : registeredIn (application.execution invoke given world).visits = some container) :
    createdIn (application.execution invoke given world).visits = some container ∧
      (world.coordinator application.coordinator).status = .idle := by
  have path := path_of_result ended
  obtain ⟨found, walk⟩ := walk_of_result ended
  obtain ⟨first, later, reached, record, chain, closes, visits⟩ := beginning_of_execution ended
  have stands := undisturbed.standsAfter_beginning walk record path.answered_of_some closes chain
  rw [StandsAfter, visits] at stands
  obtain ⟨created, -, idle⟩ := stands.callback container registered
  exact ⟨created, idle⟩

/-- A coordinator that has begun a shutdown refuses the container of a run that comes to register
it. The run fails with that, and does not refresh the container. -/
theorem refused_of_registration (undisturbed : Undisturbed invoke application given world)
    (ended : (application.execution invoke given world).result = .ok outcome)
    (busy : (world.coordinator application.coordinator).status ≠ .idle) {performed : Performed}
    (among : performed ∈ (application.execution invoke given world).record)
    {coordinator : CoordinatorRef} {container : ContainerRef}
    (registers : performed.reply.errand = .registerForShutdown coordinator container) :
    createdIn (application.execution invoke given world).visits = some container ∧
    (∃ failure, outcome.result = .error { stage := .startup, failure } ∧
      failure.cause = LaunchFault.shutdown.alone) ∧
    ∀ visit ∈ (application.execution invoke given world).visits, ∀ refreshed,
      visit.station ≠ .refresh refreshed := by
  have path := path_of_result ended
  obtain ⟨found, walk⟩ := walk_of_result ended
  obtain ⟨earlier, later, record⟩ := List.append_of_mem among
  have split : (application.execution invoke given world).visits =
      visitsOf (earlier.map (·.reply)) ++ (performed.reply.visit?.toList ++
        visitsOf (later.map (·.reply))) := by
    rw [Execution.visits_of_record record, List.map_cons, ← List.singleton_append, visitsOf_append,
      visitsOf_singleton]
  obtain passed | refused := Reply.visit?_of_registration registers
    (path.answered_of_some performed.reply (by simp [Execution.replies, record]))
  · have among : .passed ⟨.shutdownRegistration coordinator container, .nothing⟩ ∈
        (application.execution invoke given world).visits := by
      simp [split, passed]
    obtain ⟨other, registered⟩ := registeredIn_of_passed among
    exact absurd (idle_of_registered undisturbed ended registered).2 busy
  · rw [refused] at split
    rw [split] at walk
    obtain ⟨rest, unrefreshed⟩ := not_refresh_of_refused walk
    obtain ⟨-, -, created, -⟩ := before_registration walk rfl
    have created := createdIn_stays walk created
    obtain ⟨-, course⟩ := walk.course_of_failed
    rw [split]
    refine ⟨created, ?_, unrefreshed⟩
    cases result : outcome.result with
    | ok other => simp [courseOf, Outcome.error?, result] at course
    | error error =>
      obtain ⟨stage, failure⟩ := error
      cases stage with
      | startup =>
        refine ⟨failure, rfl, ?_⟩
        simpa [courseOf, Outcome.error?, result] using course
      | running =>
        obtain ⟨visit, among, refreshed, here⟩ := refresh_of_running ended result
        rw [split] at among
        exact absurd here (unrefreshed visit among refreshed)

/-- A run leaves no stale registration. A failed run leaves the containers that its coordinator has
registered as they were; one that succeeds adds its container exactly if its settings ask for that.
A coordinator that has begun a shutdown refuses a container that a run comes to register: the run
fails with that, never refreshes the container, and closes it. -/
theorem run_leaves_registrations {invoke : Invoker} {application : Application}
    {given : List String} {world last : World} {outcome : Outcome}
    (undisturbed : Undisturbed invoke application given world)
    (ended : (application.run invoke given).run.run world = (.ok outcome, last)) :
    (∀ error, outcome.result = .error error →
      (last.coordinator application.coordinator).containers =
        (world.coordinator application.coordinator).containers) ∧
    (∀ container, outcome.result = .ok container →
      (last.coordinator application.coordinator).containers =
        (world.coordinator application.coordinator).containers ++
          if outcome.settings.registerShutdownHook then [container] else []) ∧
    ((world.coordinator application.coordinator).status ≠ .idle →
      ∀ performed ∈ (application.execution invoke given world).record, ∀ coordinator container,
        performed.reply.errand = .registerForShutdown coordinator container →
        (∃ failure, outcome.result = .error { stage := .startup, failure } ∧
          failure.cause = LaunchFault.shutdown.alone) ∧
        (∀ other ∈ (application.execution invoke given world).record, ∀ refreshed,
          other.reply.errand ≠ .refresh refreshed) ∧
        (last.container container).isClosed = true) := by
  rw [run_eq_execution, Prod.mk.injEq] at ended
  obtain ⟨ended, rfl⟩ := ended
  refine ⟨fun error failed => ?_, fun container succeeded => ?_,
    fun busy performed among coordinator container registers => ?_⟩
  · have stands := (registrations_of_failed undisturbed ended failed).1
    exact stands.coordinator.containers.trans (List.append_nil _)
  · have stands := registrations_of_ok undisturbed ended succeeded
    rw [stands.coordinator.containers]
    split <;> rfl
  · obtain ⟨created, ⟨failure, failed, cause⟩, unrefreshed⟩ :=
      refused_of_registration undisturbed ended busy among registers
    refine ⟨⟨failure, failed, cause⟩, fun other among refreshed same => ?_,
      (registrations_of_failed undisturbed ended failed).2 container created⟩
    obtain ⟨visit, visited, here⟩ := Execution.visit_of_station among (by rw [same]; rfl)
    exact unrefreshed visit visited refreshed here

/-- An application with a hook, whose container fails to close. -/
def hooked : Application where
  primarySources := [.package "hooked"]
  settings := { bannerMode := .off }
  hooks := some { name := "hooks" }
  factory := .tracking (some "close failed")
  catalog := .withDefaults
  coordinator := ⟨0⟩

/-- The hook of an application fails once the container is refreshed. -/
def failsAfterRefresh : Invoker
  | .postProcess .. => return .ok ()
  | .afterRefresh .. => return .error (.text "hook failed")
  | _ => throw .exhausted

/-- A hook that only fails spares every coordinator. -/
theorem failsAfterRefresh_spares (ref : CoordinatorRef) (created : Option ContainerRef)
    (call : Call) : Act.Respects (Spares ref created) (failsAfterRefresh call) := by
  have framing := Spares.framing ref created
  cases call <;> first | exact .of_pure framing _ | exact .of_throw framing _

/-- A world with a coordinator that has registered a container. -/
def occupied : World where
  containers := [{ id := "other", kind := .standalone }]
  coordinators := [{ containers := [⟨0⟩] }]

/-- A run fails after its container was registered: only the container that was there before is
left. -/
theorem run_leaves_registrations_hooked :
    ∃ outcome last error,
      (hooked.run failsAfterRefresh []).run.run occupied = (.ok outcome, last) ∧
      outcome.result = .error error ∧ error.failure.cause =
        LaunchFault.afterRefresh.dueTo (.text "hook failed") ∧
      (last.coordinator ⟨0⟩).containers = [⟨0⟩] := by
  have failed : ((hooked.run failsAfterRefresh []).run.run occupied).1.map (·.result) =
      .ok (.error {
        stage := .startup
        failure := { exitCode := 0, reportedBy := .log
                     cause := LaunchFault.afterRefresh.dueTo (.text "hook failed") } }) := by
    decide +kernel
  cases ended : (hooked.run failsAfterRefresh []).run.run occupied with
  | mk result last =>
    rw [ended] at failed
    cases result with
    | error abort => cases failed
    | ok outcome =>
      have undisturbed : Undisturbed failsAfterRefresh hooked [] occupied :=
        { made := by decide, live := by decide, registered := by decide
          participants := failsAfterRefresh_spares _ _, fresh := nofun }
      have failed := Except.ok.inj failed
      obtain ⟨restores, -, -⟩ := run_leaves_registrations undisturbed ended
      exact ⟨outcome, last, _, rfl, failed, rfl, restores _ failed⟩

end Application

end Launchpad
