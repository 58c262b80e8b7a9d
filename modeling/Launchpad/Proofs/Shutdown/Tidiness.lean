import Launchpad.Proofs.Operation.Coordinating
import Launchpad.Proofs.Operation.Keeping
import Launchpad.Proofs.Shutdown.Conformance

/-!
# What a coordinator may hold

The close of a registered container takes it off its coordinator, by a callback that was added when
it was registered. A coordinator is `Tidy` if it has each container once, and each of them is open
and has that callback, or is just being closed. Every operation that comes to its end leaves a tidy
coordinator tidy, whatever the participants do on the way: a container that is being closed is taken
off before its close ends, and one that has just been registered gets the callback or has it run at
once.
-/

namespace Launchpad

/-- A container is open, and its close takes it off a coordinator. Of the handles nobody can close,
those without a container, nothing is asked. -/
structure World.Links (world : World) (ref : CoordinatorRef) (container : ContainerRef) : Prop where
  isOpen : (world.container container).isClosed = false
  takesOff : container.index < world.containers.length →
    .deregister ref ∈ (world.container container).closeCallbacks

/-- A coordinator that is held has every container once, and each of them is open and taken off by
its close, unless it is just being closed. -/
structure Tidy (ref : CoordinatorRef) (closing : List ContainerRef) (world : World) : Prop where
  made : ref.index < world.coordinators.length
  held : (world.coordinator ref).dropped = false
  once : (world.coordinator ref).containers.Nodup
  linked : ∀ container ∈ (world.coordinator ref).containers,
    container ∈ closing ∨ world.Links ref container

/-- A coordinator that is tidy stays so, apart from what was being closed before. -/
def StaysTidy (ref : CoordinatorRef) (before after : World) : Prop :=
  ∀ closing, Tidy ref closing before → Tidy ref closing after

/-- A handle without a container changes nothing. -/
theorem World.modifyContainer_of_unmade {world : World} {ref : ContainerRef}
    (unmade : ¬ ref.index < world.containers.length) (change : Container → Container) :
    world.modifyContainer ref change = world := by
  rw [modifyContainer, List.modify_eq_self (Nat.le_of_not_lt unmade)]

section

variable {ref other : CoordinatorRef} {held : ContainerRef} {closing also : List ContainerRef}
  {world after : World} {change : Container → Container}
  {move : ShutdownCoordinator → ShutdownCoordinator}

/-- Whether a container is linked to a coordinator only depends on the containers. -/
theorem World.Links.of_containers {container : ContainerRef} (links : world.Links ref container)
    (containers : after.containers = world.containers) : after.Links ref container := by
  have still : after.container container = world.container container := by
    rw [World.container, World.container, containers]
  exact ⟨still ▸ links.isOpen, fun there => still ▸ links.takesOff (containers ▸ there)⟩

/-- A coordinator that holds no container is tidy. -/
theorem Tidy.of_empty (made : ref.index < world.coordinators.length)
    (held : (world.coordinator ref).dropped = false)
    (empty : (world.coordinator ref).containers = []) : Tidy ref closing world where
  made := made
  held := held
  once := by simp [empty]
  linked := by simp [empty]

namespace Tidy

/-- Containers and coordinators are left as they are. -/
theorem aside (tidy : Tidy ref closing world) (containers : after.containers = world.containers)
    (coordinators : after.coordinators = world.coordinators) : Tidy ref closing after := by
  have same : after.coordinator ref = world.coordinator ref := by
    rw [World.coordinator, World.coordinator, coordinators]
  refine ⟨coordinators ▸ tidy.made, same ▸ tidy.held, same ▸ tidy.once, ?_⟩
  intro container among
  rw [same] at among
  exact (tidy.linked container among).imp_right fun links => links.of_containers containers

/-- A container is changed, and whatever it is registered with is accounted for. -/
theorem modifyContainer (tidy : Tidy ref closing world) (known : closing ⊆ also)
    (accounts : held.index < world.containers.length → world.Links ref held →
      held ∈ also ∨ ((change (world.container held)).isClosed = false ∧
        .deregister ref ∈ (change (world.container held)).closeCallbacks)) :
    Tidy ref also (world.modifyContainer held change) := by
  refine ⟨tidy.made, tidy.held, tidy.once, ?_⟩
  intro container among
  have there : (world.modifyContainer held change).containers.length = world.containers.length := by
    simp [World.modifyContainer]
  rcases tidy.linked container among with here | links
  · exact .inl (known here)
  · by_cases same : container = held
    · subst same
      by_cases made : container.index < world.containers.length
      · rcases accounts made links with here | ⟨isOpen, takesOff⟩
        · exact .inl here
        · have changed := World.container_modifyContainer_self world container change made
          exact .inr ⟨changed ▸ isOpen, fun _ => changed ▸ takesOff⟩
      · rw [World.modifyContainer_of_unmade made]
        exact .inr links
    · have still : (world.modifyContainer held change).container container =
          world.container container := World.container_modifyContainer_of_ne same change
      exact .inr ⟨still ▸ links.isOpen, fun made => still ▸ links.takesOff (there ▸ made)⟩

/-- A coordinator is changed. The one in question gets nothing new. -/
theorem modifyCoordinator (tidy : Tidy ref closing world)
    (keeps : ref = other → (move (world.coordinator ref)).dropped = (world.coordinator ref).dropped)
    (fewer : ref = other → (move (world.coordinator ref)).containers.Sublist
      (world.coordinator ref).containers) :
    Tidy ref closing (world.modifyCoordinator other move) := by
  have made : ref.index < (world.modifyCoordinator other move).coordinators.length :=
    World.made_modifyCoordinator tidy.made
  by_cases same : ref = other
  · subst same
    have moved := World.coordinator_modifyCoordinator_self world ref move tidy.made
    refine ⟨made, ?_, ?_, ?_⟩
    · rw [moved, keeps rfl]
      exact tidy.held
    · rw [moved]
      exact tidy.once.sublist (fewer rfl)
    · intro container among
      rw [moved] at among
      exact (tidy.linked container ((fewer rfl).subset among)).imp_right fun links =>
        links.of_containers rfl
  · have still : (world.modifyCoordinator other move).coordinator ref = world.coordinator ref :=
      World.coordinator_modifyCoordinator_of_ne same move
    refine ⟨made, still ▸ tidy.held, still ▸ tidy.once, ?_⟩
    intro container among
    exact (tidy.linked container (still ▸ among)).imp_right fun links => links.of_containers rfl

/-- Taking a container off a coordinator breaks nothing: whoever is still held stays linked. -/
theorem deregister (tidy : Tidy ref closing world) (other : CoordinatorRef)
    (container : ContainerRef) :
    Tidy ref closing (world.modifyCoordinator other (·.deregister container)) :=
  tidy.modifyCoordinator (fun _ => rfl) fun _ => List.filter_sublist

/-- A container that is put into the coordinator has to be accounted for. -/
theorem push (tidy : Tidy ref closing world)
    (unknown : held ∉ (world.coordinator ref).containers) :
    Tidy ref (held :: closing) (world.modifyCoordinator ref fun _ => { world.coordinator ref with
      containers := (world.coordinator ref).containers ++ [held] }) := by
  have moved := World.coordinator_modifyCoordinator_self world ref (fun _ =>
    { world.coordinator ref with
      containers := (world.coordinator ref).containers ++ [held] }) tidy.made
  refine ⟨World.made_modifyCoordinator tidy.made, ?_, ?_, ?_⟩
  · rw [moved]
    exact tidy.held
  · have apart : ∀ container ∈ (world.coordinator ref).containers, container ≠ held :=
      fun _ among same => unknown (same ▸ among)
    rw [moved]
    simpa [List.nodup_append, tidy.once] using apart
  · intro container among
    rw [moved] at among
    rcases List.mem_append.1 among with among | here
    · exact (tidy.linked container among).imp (List.mem_cons_of_mem held) fun links =>
        links.of_containers rfl
    · exact .inl (List.mem_singleton.1 here ▸ List.mem_cons_self)

/-- A container that was being closed, or has just been put in, is accounted for. -/
theorem settle (tidy : Tidy ref (held :: closing) world)
    (settled : held ∈ (world.coordinator ref).containers → world.Links ref held) :
    Tidy ref closing world := by
  refine ⟨tidy.made, tidy.held, tidy.once, ?_⟩
  intro container among
  rcases tidy.linked container among with here | links
  · rcases List.mem_cons.1 here with rfl | here
    · exact .inr (settled among)
    · exact .inl here
  · exact .inr links

end Tidy

/-- Records and furnishings neither hold nor close anything. -/
theorem StaysTidy.framing (ref : CoordinatorRef) : Framing (StaysTidy ref) where
  refl _ _ tidy := tidy
  trans first rest closing tidy := rest closing (first closing tidy)
  aside containers _ coordinators _ _ tidy := tidy.aside containers coordinators
  furnish world held change furnishes closing tidy := by
    apply tidy.modifyContainer (List.Subset.refl closing)
    intro made links
    refine .inr ⟨?_, furnishes.closeCallbacks ▸ links.takesOff made⟩
    rw [Container.isClosed, furnishes.phase]
    exact links.isOpen

/-- A change that keeps what a coordinator holds keeps it tidy. -/
theorem StaysTidy.of_stays (world : World) (other : CoordinatorRef)
    (move : ShutdownCoordinator → ShutdownCoordinator)
    (stays : (world.coordinator other).Stays (move (world.coordinator other))) :
    StaysTidy ref world (world.modifyCoordinator other move) := by
  intro closing tidy
  apply tidy.modifyCoordinator
  · rintro rfl
    exact stays.dropped
  · rintro rfl
    exact stays.containers ▸ List.Sublist.refl _

end

/-! ## Closing and registering a container -/

section

variable {ref : CoordinatorRef} {held : ContainerRef} {closing : List ContainerRef}
  {invoke : Invoker} {world last : World}

/-- The callback that takes a container off settles its close. -/
theorem Container.tidy_of_takingOff (tidy : Tidy ref (held :: closing) world)
    (ran : (runCallback invoke held (.deregister ref)).result world = (.ok (), last)) :
    Tidy ref closing last := by
  obtain ⟨_, _, looked, ran⟩ := Act.result_bind_ok_iff.1 ran
  cases looked
  rw [tidy.held] at ran
  obtain rfl : last = world.modifyCoordinator ref (·.deregister held) := by
    cases ran
    rfl
  apply (tidy.deregister ref held).settle
  intro among
  rw [World.coordinator_modifyCoordinator_self _ _ _ tidy.made] at among
  simp [ShutdownCoordinator.deregister] at among

/-- A container that was put into a coordinator gets the callback that takes it off, or has it run
at once if it is closed already. -/
theorem Container.tidy_of_onClose (tidy : Tidy ref (held :: closing) world)
    (ran : (onClose invoke held (.deregister ref)).result world = (.ok (), last)) :
    Tidy ref closing last := by
  cases closed : (world.container held).isClosed with
  | true =>
    obtain ⟨_, _, looked, runs⟩ := Act.result_bind_ok_iff.1 ran
    cases looked
    rw [closed, if_pos rfl] at runs
    exact tidy_of_takingOff tidy runs
  | false =>
    rw [onClose_result closed] at ran
    cases ran
    have kept : Tidy ref (held :: closing)
        (world.modifyContainer held (·.addCallback (.deregister ref))) :=
      tidy.modifyContainer (List.Subset.refl _) fun _ _ => .inl List.mem_cons_self
    apply kept.settle
    intro _
    by_cases made : held.index < world.containers.length
    · have changed := World.container_modifyContainer_self world held
        (·.addCallback (.deregister ref)) made
      exact ⟨changed ▸ closed, fun _ => changed ▸ List.mem_append_right _ List.mem_cons_self⟩
    · rw [World.modifyContainer_of_unmade made]
      exact ⟨closed, fun there => absurd there made⟩

variable (participants : ∀ call, Act.Keeps (StaysTidy ref) (invoke call))

include participants

/-- A close callback either takes its container off or calls a participant. -/
theorem Container.staysTidy_runCallback (held : ContainerRef) (callback : CloseCallback) :
    Act.Keeps (StaysTidy ref) (runCallback invoke held callback) :=
  keeps_runCallback (StaysTidy.framing ref) participants
    (fun _ other _ tidy => tidy.deregister other held) callback

/-- Close callbacks, one of which takes the container off. -/
theorem Container.tidy_of_callbacks {callbacks : List CloseCallback}
    (tidy : Tidy ref (held :: closing) world) (takesOff : .deregister ref ∈ callbacks)
    (ran : (Act.forEach (runCallback invoke held) callbacks).result world = (.ok (), last)) :
    Tidy ref closing last := by
  have keeps := Container.staysTidy_runCallback participants held
  induction callbacks generalizing world with
  | nil => cases takesOff
  | cons callback rest ih =>
    obtain ⟨_, between, runs, goesOn⟩ := Act.result_bind_ok_iff.1 ran
    by_cases here : callback = .deregister ref
    · subst here
      exact Act.Keeps.forEach (StaysTidy.framing ref) keeps rest between () last goesOn closing
        (tidy_of_takingOff tidy runs)
    · have later := List.mem_of_ne_of_mem (Ne.symm here) takesOff
      exact ih (keeps callback world () between runs _ tidy) later goesOn

/-- The close of a container, whatever its listeners and callbacks do: while it is being closed, a
coordinator may still hold it, and in the end it does not. -/
theorem Container.staysTidy_close (held : ContainerRef) :
    Act.Keeps (StaysTidy ref) (close invoke held) := by
  intro world answer last ran closing tidy
  have framing := StaysTidy.framing ref
  have counted : Tidy ref closing (world.modifyContainer held countClose) :=
    tidy.modifyContainer (List.Subset.refl closing) fun made links =>
      .inr ⟨links.isOpen, links.takesOff made⟩
  have once := closeOnce_of_close ran
  generalize world.modifyContainer held countClose = counting at counted once
  cases closed : (counting.container held).isClosed with
  | true =>
    rw [closeOnce_of_closed closed] at once
    cases once
    exact counted
  | false =>
    obtain ⟨announced, unwound, announces, unwinds, logs⟩ := sections_of_closeOnce closed once
    have told := Container.keeps_announceClose framing participants held (counting.container held)
      _ () announced announces
    have logged := Act.Keeps.log framing _ _ _ unwound () last logs
    have callbacks := Act.Keeps.forEach framing
      (Container.staysTidy_runCallback participants held)
      (counting.container held).closeCallbacks announced () unwound unwinds
    by_cases takesOff : .deregister ref ∈ (counting.container held).closeCallbacks
    · have shut : Tidy ref (held :: closing)
          (counting.modifyContainer held fun _ => (counting.container held).shut) :=
        counted.modifyContainer (List.subset_cons_self held closing) fun _ _ =>
          .inl List.mem_cons_self
      exact logged closing (tidy_of_callbacks participants (told _ shut) takesOff unwinds)
    · have shut : Tidy ref closing
          (counting.modifyContainer held fun _ => (counting.container held).shut) :=
        counted.modifyContainer (List.Subset.refl closing) fun made links =>
          absurd (links.takesOff made) takesOff
      exact logged closing (callbacks closing (told closing shut))

/-- A refresh opens a container, if anything. -/
theorem Container.staysTidy_refresh (held : ContainerRef) :
    Act.Keeps (StaysTidy ref) (refresh invoke held) := by
  apply Container.keeps_refresh (StaysTidy.framing ref) participants
  intro world closing tidy
  exact tidy.modifyContainer (List.Subset.refl closing) fun made links =>
    .inr ⟨rfl, links.takesOff made⟩

/-- A callback that is registered does not undo the link of its container. -/
theorem Container.staysTidy_onClose (held : ContainerRef) (callback : CloseCallback) :
    Act.Keeps (StaysTidy ref) (onClose invoke held callback) := by
  apply keeps_onClose (StaysTidy.framing ref) participants
  · exact fun _ other _ tidy => tidy.deregister other held
  · intro world closing tidy
    exact tidy.modifyContainer (List.Subset.refl closing) fun made links =>
      .inr ⟨links.isOpen, List.mem_append_left _ (links.takesOff made)⟩

namespace ShutdownCoordinator

/-- A registration holds the container and links it at the same time, or runs the callback at once
and so takes the container off again. -/
theorem staysTidy_registerContainer (other : CoordinatorRef) (held : ContainerRef) :
    Act.Keeps (StaysTidy ref) (registerContainer invoke other held) := by
  intro world answer last ran closing tidy
  obtain ⟨_, _, looked, ran⟩ := Act.result_bind_ok_iff.1 ran
  cases looked
  cases registration : (world.coordinator other).register held with
  | refused | present =>
    rw [registration] at ran
    cases ran
    exact tidy
  | added coordinator =>
    obtain ⟨-, unknown, rfl⟩ := register_eq_added_iff.1 registration
    rw [registration] at ran
    obtain ⟨_, added, adds, ran⟩ := Act.result_bind_ok_iff.1 ran
    rw [Act.result_modifyCoordinator] at adds
    cases adds
    obtain ⟨_, kept, keeps, ran⟩ := Act.result_bind_ok_iff.1 ran
    have settled : Tidy ref closing kept := by
      by_cases same : ref = other
      · subst same
        exact Container.tidy_of_onClose (tidy.push unknown) keeps
      · apply Container.staysTidy_onClose participants held _ _ _ _ keeps closing
        exact tidy.modifyCoordinator (fun here => absurd here same) fun here => absurd here same
    dsimp only at ran
    split at ran <;> cases ran <;> exact settled.aside rfl rfl

/-! ## Shutting down -/

omit participants in
/-- A trigger that begins a shutdown ends as the shutdown does. -/
theorem trigger_result_of_begun {other : CoordinatorRef} {taken : Registrations}
    {begun : ShutdownCoordinator} (entered : (world.coordinator other).enter = .begun taken begun) :
    (trigger invoke other).result world =
      match (runAll invoke taken).result (world.modifyCoordinator other fun _ => begun) with
      | (.ok (), later) => (.ok true, later.modifyCoordinator other finish)
      | (.error (.panicked message), later) =>
        (.error (.panicked message), later.modifyCoordinator other finish)
      | (.error abort, later) => (.error abort, later) := by
  rw [trigger_result, entered]
  change (shutDown invoke other taken >>= fun _ => return true).result
    (world.modifyCoordinator other fun _ => begun) = _
  rw [Act.result_bind, result_shutDown]
  rcases (runAll invoke taken).result (world.modifyCoordinator other fun _ => begun) with
    ⟨abort | _, later⟩
  · cases abort <;> rfl
  · rfl

/-- A thing that a shutdown does is a close or a call. -/
theorem staysTidy_perform (work : ShutdownWork) :
    Act.Keeps (StaysTidy ref) (perform invoke work) := by
  have framing := StaysTidy.framing ref
  cases work with
  | run action => exact participants _
  | close container =>
    apply Act.Keeps.bind framing (Container.staysTidy_close participants container)
    intro answer
    cases answer with
    | error failure => exact .look framing (fun _ => rfl) fun _ => .log framing _ _ _
    | ok => exact .of_pure framing ()

/-- A trigger empties the coordinator before it closes anything, and marks it when all is done. -/
theorem staysTidy_trigger (other : CoordinatorRef) :
    Act.Keeps (StaysTidy ref) (trigger invoke other) := by
  intro world answer last ran closing tidy
  have framing := StaysTidy.framing ref
  cases entered : (world.coordinator other).enter with
  | finished =>
    rw [trigger_result, entered] at ran
    cases ran
    exact tidy
  | occupied =>
    rw [trigger_result, entered] at ran
    cases ran
  | begun taken begun =>
    have running : Act.Keeps (StaysTidy ref) (runAll invoke taken) :=
      .bind framing (.log framing _ _ _) fun _ =>
        .forEach framing (staysTidy_perform participants) taken.work
    rw [trigger_result_of_begun entered] at ran
    obtain ⟨-, -, rfl⟩ := enter_eq_begun_iff.1 entered
    have begins : Tidy ref closing
        (world.modifyCoordinator other fun _ => (world.coordinator other).begin.2) :=
      tidy.modifyCoordinator (fun same => same ▸ rfl) fun _ => List.nil_sublist _
    rcases done : (runAll invoke taken).result
      (world.modifyCoordinator other fun _ => (world.coordinator other).begin.2)
      with ⟨abort | _, between⟩
    · rw [done] at ran
      cases abort <;> cases ran
    · rw [done] at ran
      cases ran
      exact (running _ () between done closing begins).modifyCoordinator (fun _ => rfl)
        fun _ => List.Sublist.refl _

omit participants in
/-- A teardown empties the coordinator. -/
theorem staysTidy_teardown (other : CoordinatorRef) :
    Act.Keeps (StaysTidy ref) (teardown other) := by
  refine .look (StaysTidy.framing ref) (fun _ => rfl) fun known => ?_
  split
  · exact .of_throw _
  · exact .of_modify fun world closing tidy =>
      tidy.modifyCoordinator (fun _ => rfl) fun _ => List.nil_sublist _

end ShutdownCoordinator

end

end Launchpad
