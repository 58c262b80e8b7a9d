import Launchpad.Proofs.Operation.Sequence
import Launchpad.Proofs.Shutdown.Emptying
import Launchpad.Proofs.Shutdown.Tidiness

/-!
# A coordinator only holds open containers

Every operation that comes to its end leaves a tidy coordinator tidy, and between operations no
container is being closed. So all that are registered then are open, and a trigger that is started
then takes open containers only. A trigger whose action throws is broken off; what it leaves is tidy
all the same, since nothing is registered while a shutdown is under way.
-/

namespace Launchpad

/-! ## A shutdown that is broken off -/

section

variable {ref : CoordinatorRef} {closing : List ContainerRef} {invoke : Invoker}
  {world last : World} (emptying : ∀ call, Act.Respects (StaysEmptied ref) (invoke call))

include emptying

namespace ShutdownCoordinator

/-- A shutdown in which an action throws leaves nothing registered. -/
theorem tidy_of_panicked (tidy : Tidy ref closing world) {message : String}
    (ran : (trigger invoke ref).result world = (.error (.panicked message), last)) :
    Tidy ref closing last := by
  cases entered : (world.coordinator ref).enter with
  | finished | occupied =>
    rw [trigger_result, entered] at ran
    cases ran
  | begun taken begun =>
    rw [trigger_result_of_begun entered] at ran
    obtain ⟨-, -, rfl⟩ := enter_eq_begun_iff.1 entered
    have running := respects_runAll (StaysEmptied.framing ref).framing emptying
      (fun held => Container.respects_close ((StaysEmptied.framing ref).containing held) emptying)
      taken _ (Emptied.of_begin tidy.made tidy.held)
    rcases done : (runAll invoke taken).result
      (world.modifyCoordinator ref fun _ => (world.coordinator ref).begin.2)
      with ⟨abort | _, between⟩
    · rw [done] at ran running
      cases abort <;> cases ran
      have moved := World.coordinator_modifyCoordinator_self between ref finish running.made
      apply Tidy.of_empty
      · exact World.made_modifyCoordinator running.made
      · rw [moved]
        exact running.held
      · rw [moved]
        exact running.empty
    · rw [done] at ran
      cases ran

/-- A trigger keeps the coordinator tidy also if an action throws and the caller contains it. -/
theorem staysTidy_attemptTrigger (keeping : ∀ call, Act.Keeps (StaysTidy ref) (invoke call)) :
    Act.Keeps (StaysTidy ref) (attemptTrigger invoke ref) := by
  intro world answer last ran closing tidy
  have contained : (attemptTrigger invoke ref).result world = _ := Act.result_tryCatch _ _ _
  rw [contained, Act.result_bind] at ran
  rcases triggered : (trigger invoke ref).result world with ⟨abort | fresh, between⟩
  · rw [triggered] at ran
    cases abort with
    | panicked message =>
      cases ran
      exact tidy_of_panicked emptying tidy triggered
    | exhausted | deadlocked => cases ran
  · rw [triggered] at ran
    cases ran
    exact staysTidy_trigger keeping ref world fresh last triggered closing tidy

end ShutdownCoordinator

end

/-! ## Every command, and every sequence of operations -/

/-- Whether a command operates containers and coordinators that there are, but neither drops a
certain coordinator nor makes up for what a shutdown of another one breaks off. -/
def Command.IsPermitted (ref : CoordinatorRef) : Command → Prop
  | container _ | registerBean .. | registerSource .. | setAllowOverriding .. | setEnvironment ..
  | setLazyInitialization .. | setStartup .. | addListener .. | publish .. | refresh _ | close _
  | onClose .. | coordinator _ | registerContainer .. | deregisterContainer .. | addAction ..
  | removeAction .. | trigger _ | teardown _ | log .. | print _ | remark _ | memory _
  | remember .. => True
  | attemptTrigger held => held = ref
  | dropCoordinator held => held ≠ ref
  | _ => False

/-- What the participants are held to: a tidy coordinator stays tidy if they come to their end, and
an emptied one stays empty in any case. -/
def Act.KeepsTidy {α : Type} (ref : CoordinatorRef) (act : Act α) : Prop :=
  act.Keeps (StaysTidy ref) ∧ act.Respects (StaysEmptied ref)

section

variable {ref : CoordinatorRef} {invoke : Invoker}

/-- Both promises are kept by operations one after the other if each of them keeps them. -/
theorem Act.KeepsTidy.composes (ref : CoordinatorRef) : Act.Composes (Act.KeepsTidy ref) :=
  .and (Act.Keeps.composes (StaysTidy.framing ref))
    (Act.Respects.composes (StaysEmptied.framing ref).framing)

/-- Whatever a command does that is allowed, the coordinator stays tidy if it comes to its end, and
empty if a shutdown is under way. -/
theorem Command.keepsTidy_of_isPermitted
    (participants : ∀ call, Act.KeepsTidy ref (invoke call)) {command : Command}
    (permitted : command.IsPermitted ref) : Act.KeepsTidy ref (command.carryOut invoke) := by
  have composes := Act.KeepsTidy.composes ref
  have tidying := StaysTidy.framing ref
  have emptying := StaysEmptied.framing ref
  have keeping := fun call => (participants call).1
  have respecting := fun call => (participants call).2
  -- The two halves are proved side by side: a shutdown that a command triggers relies on both of
  -- its participants.
  cases slight : command.isSlight with
  | true =>
    exact ⟨.of_respects (Command.respects_of_slight tidying slight),
      Command.respects_of_slight emptying.framing slight⟩
  | false =>
    cases command with
    | addListener held listener =>
      refine ⟨.of_modify fun world closing tidy => ?_, .modifyContainer emptying held _⟩
      exact tidy.modifyContainer (List.Subset.refl closing) fun made links =>
        .inr ⟨links.isOpen, links.takesOff made⟩
    | publish held event =>
      exact ⟨Container.keeps_publish tidying keeping held event,
        Container.respects_publish emptying.framing respecting held event⟩
    | refresh held =>
      exact ⟨Container.staysTidy_refresh keeping held,
        Container.respects_refresh (emptying.containing held) respecting⟩
    | close held =>
      exact ⟨Container.staysTidy_close keeping held,
        Container.respects_close (emptying.containing held) respecting⟩
    | onClose held participant =>
      exact ⟨Container.staysTidy_onClose keeping held _,
        Container.respects_onClose (emptying.containing held) respecting _⟩
    | registerContainer other held =>
      have registers :
          Act.KeepsTidy ref (ShutdownCoordinator.registerContainer invoke other held) :=
        ⟨ShutdownCoordinator.staysTidy_registerContainer keeping other held,
          ShutdownCoordinator.staysEmptied_registerContainer respecting other held⟩
      apply composes.bind registers
      intro accepted
      split <;> exact composes.pure _
    | deregisterContainer other held =>
      refine ⟨.look tidying (fun _ => rfl) fun known => ?_,
        .look emptying.framing (fun _ => rfl) fun known => ?_⟩
      · exact .bind tidying (.of_modify fun world closing tidy => tidy.deregister other held)
          fun _ => .of_pure tidying _
      · exact .bind emptying.framing (.of_modify fun world => emptying.deregister world other held)
          fun _ => .of_pure emptying.framing _
    | addAction other stage name participant =>
      have adds : Act.KeepsTidy ref (ShutdownCoordinator.add other stage name participant) :=
        ⟨.of_respects (ShutdownCoordinator.respects_add tidying StaysTidy.of_stays _ _ _ _),
          ShutdownCoordinator.respects_add emptying.framing StaysEmptied.of_stays _ _ _ _⟩
      apply composes.bind adds
      intro added
      split <;> exact composes.pure _
    | removeAction other id =>
      exact ⟨.of_respects (ShutdownCoordinator.respects_remove tidying StaysTidy.of_stays other id),
        ShutdownCoordinator.respects_remove emptying.framing StaysEmptied.of_stays other id⟩
    | trigger other =>
      exact ⟨ShutdownCoordinator.staysTidy_trigger keeping other,
        ShutdownCoordinator.staysEmptied_trigger respecting other⟩
    | attemptTrigger other =>
      cases permitted
      exact ⟨ShutdownCoordinator.staysTidy_attemptTrigger respecting keeping,
        ShutdownCoordinator.respects_attemptTrigger emptying.framing
          (ShutdownCoordinator.staysEmptied_trigger respecting _)⟩
    | teardown other =>
      exact ⟨ShutdownCoordinator.staysTidy_teardown other,
        ShutdownCoordinator.staysEmptied_teardown other⟩
    | dropCoordinator other =>
      have different : ref ≠ other := fun same => permitted same.symm
      refine ⟨.of_modify fun world closing tidy => ?_,
        ShutdownCoordinator.staysEmptied_moves different _⟩
      exact tidy.modifyCoordinator (fun same => absurd same different) fun same =>
        absurd same different
    | container | registerBean | registerSource | setAllowOverriding | setLazyInitialization
    | setEnvironment | setStartup | coordinator | log | print | remark | memory | remember =>
      cases slight
    | _ => cases permitted

/-- A sequence of operations leaves a tidy coordinator tidy. -/
theorem Exchanges.tidy {behaviour : Behaviour} {limit depth : Nat} {world last : World}
    {exchanges : List Exchange}
    (participants : ∀ call, (behaviour call).Within (Command.IsPermitted ref))
    (sequence : Exchanges (behaviour.invoker limit depth) world exchanges last)
    (operates : ∀ exchange ∈ exchanges, exchange.command.IsPermitted ref) :
    StaysTidy ref world last := by
  have notes (entry : JournalEntry) : Act.KeepsTidy ref (Behaviour.note entry) :=
    ⟨.of_modify fun _ _ tidy => tidy.aside rfl rfl,
      fun _ emptied => ⟨emptied.made, emptied.held, emptied.busy, emptied.empty⟩⟩
  have calls := Behaviour.holds_invoker (Act.KeepsTidy.composes ref) notes
    (fun _ calls _ permitted => Command.keepsTidy_of_isPermitted calls permitted)
    participants limit depth
  apply sequence.keeps (StaysTidy.framing ref)
  intro exchange among
  exact (Command.keepsTidy_of_isPermitted calls (operates exchange among)).1

/-- Between operations, a coordinator only holds open containers, and each of them once. -/
theorem Exchanges.registered_are_open {behaviour : Behaviour} {limit depth : Nat}
    {ref : CoordinatorRef} {world last : World} {exchanges : List Exchange}
    (participants : ∀ call, (behaviour call).Within (Command.IsPermitted ref))
    (made : ref.index < world.coordinators.length)
    (held : (world.coordinator ref).dropped = false)
    (empty : (world.coordinator ref).containers = [])
    (sequence : Exchanges (behaviour.invoker limit depth) world exchanges last)
    (operates : ∀ exchange ∈ exchanges, exchange.command.IsPermitted ref) :
    (last.coordinator ref).containers.Nodup ∧
    (∀ container ∈ (last.coordinator ref).containers,
      (last.container container).isClosed = false) ∧
    ∀ taken begun, (last.coordinator ref).enter = .begun taken begun →
      ∀ container ∈ taken.containers, (last.container container).isClosed = false := by
  have tidy : Tidy ref [] last :=
    sequence.tidy participants operates [] (.of_empty made held empty)
  have isOpen : ∀ container ∈ (last.coordinator ref).containers,
      (last.container container).isClosed = false := by
    intro container among
    -- Between two operations no close is under way, so every registered container is linked, and
    -- open.
    rcases tidy.linked container among with closing | links
    · cases closing
    · exact links.isOpen
  refine ⟨tidy.once, isOpen, ?_⟩
  intro taken begun entered container among
  obtain ⟨-, rfl, -⟩ := ShutdownCoordinator.enter_eq_begun_iff.1 entered
  exact isOpen container among

end

/-- Participants that register, take off, close and refresh on their own while a container is being
closed. -/
def meddles : Behaviour
  | .onEvent _ (.contextClosed _) =>
    .perform (.deregisterContainer ⟨0⟩ ⟨0⟩) fun _ => .perform (.registerContainer ⟨0⟩ ⟨0⟩) fun _ =>
      .perform (.close ⟨1⟩) fun _ => .done (.ok ())
  | .onEvent _ _ => .done (.ok ())
  | .containerClosed _ =>
    .perform (.registerContainer ⟨0⟩ ⟨0⟩) fun _ => .perform (.refresh ⟨3⟩) fun _ => .done ()
  | _ => .panic "unexpected call"

/-- A new coordinator and four containers, the third of which was closed before. -/
def fourContainers : World :=
  { containers := [
      { id := "one", kind := .standalone,
        listeners := [{ participant := { name := "listener" } }] },
      { id := "two", kind := .standalone },
      { id := "three", kind := .standalone, phase := .closed },
      { id := "four", kind := .standalone }]
    coordinators := [{}] }

/-- Registers all four containers, one of them twice, and closes the first, which closes the
second. -/
def registersAll : List Command :=
  [.registerContainer ⟨0⟩ ⟨0⟩, .registerContainer ⟨0⟩ ⟨0⟩, .registerContainer ⟨0⟩ ⟨1⟩,
    .registerContainer ⟨0⟩ ⟨2⟩, .registerContainer ⟨0⟩ ⟨3⟩, .refresh ⟨0⟩,
    .onClose ⟨0⟩ { name := "callback" }, .close ⟨0⟩]

/-- Only the container that nobody has closed is still registered in the end. -/
theorem registered_are_open_meddled :
    ∃ exchanges last, Exchanges (meddles.invoker 3 0) fourContainers exchanges last ∧
      exchanges.map Exchange.command = registersAll ∧
      (last.coordinator ⟨0⟩).containers = [⟨3⟩] ∧
      ∀ container ∈ (last.coordinator ⟨0⟩).containers,
        (last.container container).isClosed = false := by
  have evaluates : ((Exchanges.perform? (meddles.invoker 3 0) registersAll fourContainers).map
      fun ran => (ran.2.coordinator ⟨0⟩).containers) = some [⟨3⟩] := by decide +kernel
  obtain ⟨⟨exchanges, last⟩, performed, containers⟩ := Option.map_eq_some_iff.1 evaluates
  obtain ⟨sequence, commands⟩ := Exchanges.of_perform? performed
  refine ⟨exchanges, last, sequence, commands, containers, ?_⟩
  refine (Exchanges.registered_are_open ?_ (by decide) rfl rfl sequence ?_).2.1
  · intro call
    unfold meddles
    split
    · exact ⟨trivial, fun _ => ⟨trivial, fun _ => ⟨trivial, fun _ => trivial⟩⟩⟩
    · trivial
    · exact ⟨trivial, fun _ => ⟨trivial, fun _ => trivial⟩⟩
    · trivial
  · have allowed : ∀ command ∈ exchanges.map Exchange.command, command.IsPermitted ⟨0⟩ := by
      rw [commands]
      simp [registersAll, Command.IsPermitted]
    exact fun exchange among => allowed _ (List.mem_map_of_mem among)

end Launchpad
