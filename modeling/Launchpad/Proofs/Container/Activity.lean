import Launchpad.Proofs.Operation.Sequence

/-!
# When a container is active

Between operations a container is active exactly if some refresh of it has begun and it was not
closed since. A refresh makes the container active before its listeners are told, and their failure
is the failure of the refresh: such a refresh fails and leaves the container active all the same.
`Lives` collects what holds of every sequence of operations, with participants that neither refresh
nor close the container themselves.
-/

namespace Launchpad

open Container (sections_of_refresh sections_of_closeOnce closeOnce_of_close)

/-- A container that was made stays in its phase. -/
structure PhaseStays (ref : ContainerRef) (before after : World) : Prop where
  made : ref.index < before.containers.length → ref.index < after.containers.length
  phase : ref.index < before.containers.length →
    (after.container ref).phase = (before.container ref).phase

namespace PhaseStays

variable {ref : ContainerRef} {before after : World}

theorem refl (world : World) : PhaseStays ref world world := ⟨fun made => made, fun _ => rfl⟩

theorem trans {first second third : World} (start : PhaseStays ref first second)
    (rest : PhaseStays ref second third) : PhaseStays ref first third where
  made there := rest.made (start.made there)
  phase there := (rest.phase (start.made there)).trans (start.phase there)

/-- The containers are left as they are. -/
theorem of_containers (same : after.containers = before.containers) :
    PhaseStays ref before after where
  made there := by rwa [same]
  phase _ := by rw [World.container, World.container, same]

/-- A container is changed, but for its phase. -/
theorem modifyContainer (world : World) (held : ContainerRef) {change : Container → Container}
    (kept : (change (world.container held)).phase = (world.container held).phase) :
    PhaseStays ref world (world.modifyContainer held change) where
  made there := by simpa [World.modifyContainer] using there
  phase there := by
    by_cases same : ref = held
    · subst same
      rw [World.container_modifyContainer_self _ _ _ there, kept]
    · rw [World.container_modifyContainer_of_ne same]

/-- A coordinator has no phase of a container. -/
theorem modifyCoordinator (world : World) (coordinator : CoordinatorRef)
    (move : ShutdownCoordinator → ShutdownCoordinator) :
    PhaseStays ref world (world.modifyCoordinator coordinator move) := of_containers rfl

/-- Records and furnishings leave the phase of a container. -/
theorem framing (ref : ContainerRef) : Framing (PhaseStays ref) where
  refl := refl
  trans := trans
  aside containers _ _ _ := of_containers containers
  furnish world held _ furnishes := modifyContainer world held furnishes.phase

end PhaseStays

/-- Whether a command operates a container: refreshes or closes it, publishes to it, or registers
something with it. -/
def Command.operates (ref : ContainerRef) : Command → Prop
  | container held | registerBean held .. | registerSource held _ | setAllowOverriding held _
  | setLazyInitialization held _ | setEnvironment held _ | setStartup held _ | addListener held _
  | publish held _ | refresh held | close held | onClose held _ => held = ref
  | _ => False

namespace Exchange

/-- A refresh that begins. -/
def Activates (ref : ContainerRef) (exchange : Exchange) : Prop :=
  ∃ found answer left, exchange = ⟨.refresh ref, found, answer, left⟩ ∧
    (found.container ref).refusal? = none

/-- A refresh that succeeds. -/
def Refreshed (ref : ContainerRef) (exchange : Exchange) : Prop :=
  ∃ found left, exchange = ⟨.refresh ref, found, .ok (), left⟩

/-- A close. -/
def Closes (ref : ContainerRef) (exchange : Exchange) : Prop := exchange.command = .close ref

end Exchange

section

variable {invoke : Invoker} {ref : ContainerRef} {world last : World}

/-- A listener that is told of an event fails. -/
def Invoker.FailsOn (invoke : Invoker) (event : ApplicationEvent) (failure : Failure) : Prop :=
  ∃ participant before after,
    (invoke (.onEvent participant event)).result before = (.ok (.error failure), after)

/-- A publication fails with the failure of a listener. -/
theorem Container.failsOn_of_publish {event : ApplicationEvent} {failure : Failure}
    (published : (publish invoke ref event).result world = (.ok (.error failure), last)) :
    invoke.FailsOn event failure := by
  obtain ⟨held, found, looked, delivers⟩ := Act.result_bind_ok_iff.1 published
  clear looked
  unfold deliver at delivers
  generalize held.listeners = listeners at delivers
  induction listeners generalizing found with
  | nil => cases delivers
  | cons listener rest ih =>
    obtain ⟨told, between, tells, goesOn⟩ := Act.result_bind_ok_iff.1 delivers
    cases told with
    | error other =>
      cases goesOn
      exact ⟨listener.participant, found, last, tells⟩
    | ok => exact ih between goesOn

variable (participants : ∀ call, Act.Keeps (PhaseStays ref) (invoke call))

include participants

/-- A refresh that begins leaves the container active, whatever it answers. -/
theorem Container.active_of_refresh {answer : Except Failure Unit}
    (there : ref.index < world.containers.length) (begins : (world.container ref).refusal? = none)
    (ran : (refresh invoke ref).result world = (.ok answer, last)) :
    ref.index < last.containers.length ∧ (last.container ref).phase = .active ∧
      ∀ failure, answer = .error failure →
        invoke.FailsOn (.contextRefreshed (world.container ref).id) failure := by
  have framing := PhaseStays.framing ref
  rcases sections_of_refresh ran with
    ⟨failure, refused, -, -⟩ | ⟨-, step, announced, recorded, announces, records, publishes⟩
  · rw [begins] at refused
    cases refused
  · have first := Container.keeps_announceRefresh framing participants _ _ world step announced
      announces
    have second :=
      Container.keeps_recordRefresh framing participants ref _ step _ () recorded records
    have third := Container.keeps_publish framing participants ref _ recorded answer last publishes
    have made : ref.index < announced.containers.length := first.made there
    have marked : ((announced.modifyContainer ref markActive).container ref).phase = .active := by
      rw [World.container_modifyContainer_self _ _ _ made]
      rfl
    have stays := second.trans third
    have still : ref.index < (announced.modifyContainer ref markActive).containers.length := by
      simpa [World.modifyContainer] using made
    refine ⟨stays.made still, (stays.phase still).trans marked, ?_⟩
    rintro failure rfl
    exact Container.failsOn_of_publish publishes

/-- A close leaves the container closed. -/
theorem Container.closed_of_close {answer : Except Failure Unit}
    (there : ref.index < world.containers.length)
    (ran : (close invoke ref).result world = (.ok answer, last)) :
    ref.index < last.containers.length ∧ (last.container ref).phase = .closed := by
  have framing := PhaseStays.framing ref
  have counts : PhaseStays ref world (world.modifyContainer ref countClose) :=
    .modifyContainer world ref rfl
  have once := closeOnce_of_close ran
  generalize world.modifyContainer ref countClose = counted at counts once
  have made := counts.made there
  cases closed : (counted.container ref).isClosed with
  | true =>
    rw [closeOnce_of_closed closed] at once
    cases once
    exact ⟨made, by simpa [isClosed] using closed⟩
  | false =>
    obtain ⟨announced, unwound, announces, unwinds, logs⟩ := sections_of_closeOnce closed once
    have shut : ((counted.modifyContainer ref fun _ => (counted.container ref).shut).container
        ref).phase = .closed := by
      rw [World.container_modifyContainer_self _ _ _ made]
      rfl
    have first := Container.keeps_announceClose framing participants ref _ _ () announced announces
    have callback := Container.keeps_runCallback framing participants
      fun world coordinator => .modifyCoordinator world coordinator (·.deregister ref)
    have second := Act.Keeps.forEach framing callback _ announced () unwound unwinds
    have third := Act.Keeps.log framing _ _ _ unwound () last logs
    have stays := (first.trans second).trans third
    have still : ref.index < (counted.modifyContainer ref fun _ =>
        (counted.container ref).shut).containers.length := by
      simpa [World.modifyContainer] using made
    exact ⟨stays.made still, (stays.phase still).trans shut⟩

/-- Whatever else is done to a container leaves it in its phase. -/
theorem Command.phaseStays {command : Command} (operates : command.operates ref)
    (refreshes : command ≠ .refresh ref) (closes : command ≠ .close ref) :
    Act.Keeps (PhaseStays ref) (command.carryOut invoke) := by
  have framing := PhaseStays.framing ref
  cases command <;> cases operates
  case publish event => exact Container.keeps_publish framing participants ref event
  case refresh => exact absurd rfl refreshes
  case close => exact absurd rfl closes
  case addListener => exact .of_modify fun world => .modifyContainer world ref rfl
  case onClose participant =>
    apply Container.keeps_onClose framing participants
    · exact fun world coordinator => .modifyCoordinator world coordinator _
    · exact fun world => .modifyContainer world ref rfl
  all_goals exact .of_respects (Command.respects_of_slight framing rfl)

end

/-- What holds of a container along a sequence of operations. -/
structure Lives (invoke : Invoker) (ref : ContainerRef) (exchanges : List Exchange)
    (last : World) : Prop where
  /-- It is active exactly if some refresh has begun and it was not closed since. -/
  active : (last.container ref).isActive = true ↔
    Since (Exchange.Activates ref) (Exchange.Closes ref) exchanges
  /-- A refresh that does not begin fails and changes nothing. -/
  refused : ∀ found answer left, ⟨.refresh ref, found, answer, left⟩ ∈ exchanges →
    ∀ failure, (found.container ref).refusal? = some failure →
      answer = .error failure ∧ left = found
  /-- A refresh that begins leaves the container active, and fails only as a listener fails that is
  told of it. -/
  begun : ∀ found answer left, ⟨.refresh ref, found, answer, left⟩ ∈ exchanges →
    (found.container ref).refusal? = none → (left.container ref).isActive = true ∧
      ∀ failure, answer = .error failure →
        invoke.FailsOn (.contextRefreshed (found.container ref).id) failure
  /-- If no listener fails that is told of a refresh, the container is active exactly if some
  refresh has succeeded and it was not closed since. -/
  refreshed : (∀ id failure, ¬ invoke.FailsOn (.contextRefreshed id) failure) →
    ((last.container ref).isActive = true ↔
      Since (Exchange.Refreshed ref) (Exchange.Closes ref) exchanges)
  /-- As long as it is not active, nobody is asked for the exit code of a failure. -/
  unmapped : (last.container ref).isActive = false → ∀ failure : Failure,
    (Container.resolveExitCode invoke (some ref) failure).result last =
      (.ok (failure.exitCode?.getD 0), last)

/-- Along a sequence of operations on a new container, it is active exactly if some refresh has
begun and it was not closed since. -/
theorem Exchanges.active_iff {invoke : Invoker} {ref : ContainerRef} {world last : World}
    {exchanges : List Exchange} (participants : ∀ call, Act.Keeps (PhaseStays ref) (invoke call))
    (there : ref.index < world.containers.length) (new : (world.container ref).phase = .created)
    (sequence : Exchanges invoke world exchanges last)
    (operates : ∀ exchange ∈ exchanges, exchange.command.operates ref) :
    ref.index < last.containers.length ∧ ((last.container ref).isActive = true ↔
      Since (Exchange.Activates ref) (Exchange.Closes ref) exchanges) := by
  induction sequence with
  | nil => exact ⟨there, by simp [Container.isActive, new, not_since_nil]⟩
  | @snoc earlier found command answer left prior ran ih =>
    obtain ⟨made, before⟩ :=
      ih fun exchange among => operates exchange (List.mem_append_left _ among)
    have operated := operates _ (List.mem_append_right _ List.mem_cons_self)
    rw [since_append_singleton_iff]
    -- Only a refresh that is not refused, and a close, change what is active.
    by_cases refreshes : command = .refresh ref
    · subst refreshes
      cases begins : (found.container ref).refusal? with
      | none =>
        obtain ⟨still, active, -⟩ := Container.active_of_refresh participants made begins ran
        refine ⟨still, iff_of_true (by simp [Container.isActive, active]) (.inl ?_)⟩
        exact ⟨found, answer, left, rfl, begins⟩
      | some failure =>
        have idle : ¬ Exchange.Activates ref ⟨.refresh ref, found, answer, left⟩ := by
          rintro ⟨_, _, _, same, begun⟩
          cases same
          rw [begins] at begun
          cases begun
        have isOpen : ¬ Exchange.Closes ref ⟨.refresh ref, found, answer, left⟩ := nofun
        rcases sections_of_refresh ran with ⟨_, -, -, rfl⟩ | ⟨begun, -⟩
        · simp [idle, isOpen, made, before]
        · rw [begins] at begun
          cases begun
    · have idle : ¬ Exchange.Activates ref ⟨command, found, answer, left⟩ := by
        rintro ⟨_, _, _, same, -⟩
        cases same
        exact refreshes rfl
      by_cases closes : command = .close ref
      · subst closes
        obtain ⟨still, closed⟩ := Container.closed_of_close participants made ran
        refine ⟨still, iff_of_false (by simp [Container.isActive, closed]) ?_⟩
        rintro (begun | ⟨isOpen, -⟩)
        · exact idle begun
        · exact isOpen rfl
      · have stays :=
          Command.phaseStays participants operated refreshes closes found answer left ran
        have isOpen : ¬ Exchange.Closes ref ⟨command, found, answer, left⟩ := closes
        have same : (left.container ref).isActive = (found.container ref).isActive := by
          rw [Container.isActive, Container.isActive, stays.phase made]
        simp [idle, isOpen, stays.made made, same, before]

/-- With participants that neither refresh nor close the container themselves, a new container lives
along every sequence of operations. -/
theorem Exchanges.active_since_refresh {invoke : Invoker} {ref : ContainerRef} {world last : World}
    {exchanges : List Exchange} (participants : ∀ call, Act.Keeps (PhaseStays ref) (invoke call))
    (there : ref.index < world.containers.length) (new : (world.container ref).phase = .created)
    (sequence : Exchanges invoke world exchanges last)
    (operates : ∀ exchange ∈ exchanges, exchange.command.operates ref) :
    Lives invoke ref exchanges last := by
  have active := (sequence.active_iff participants there new operates).2
  have refused : ∀ found answer left, ⟨.refresh ref, found, answer, left⟩ ∈ exchanges →
      ∀ failure, (found.container ref).refusal? = some failure →
        answer = .error failure ∧ left = found := by
    intro found answer left among failure refuses
    rcases sections_of_refresh (sequence.at_exchange among).2 with
      ⟨other, same, failed, nothing⟩ | ⟨begins, -⟩
    · cases refuses.symm.trans same
      exact ⟨failed, nothing⟩
    · cases refuses.symm.trans begins
  have begun : ∀ found answer left, ⟨.refresh ref, found, answer, left⟩ ∈ exchanges →
      (found.container ref).refusal? = none → (left.container ref).phase = .active ∧
        ∀ failure, answer = .error failure →
          invoke.FailsOn (.contextRefreshed (found.container ref).id) failure := by
    intro found answer left among begins
    obtain ⟨⟨earlier, later, rfl, reached⟩, ran⟩ := sequence.at_exchange among
    have made := (reached.active_iff participants there new fun exchange before =>
      operates exchange (List.mem_append_left _ before)).1
    exact (Container.active_of_refresh participants made begins ran).2
  refine ⟨active, refused, ?_, ?_, ?_⟩
  · intro found answer left among begins
    obtain ⟨phase, fails⟩ := begun found answer left among begins
    exact ⟨by simp [Container.isActive, phase], fails⟩
  · intro attentive
    rw [active]
    constructor
    · intro since
      apply since.imp
      rintro exchange among ⟨found, answer, left, rfl, begins⟩
      cases answer with
      | ok => exact ⟨found, left, rfl⟩
      | error failure =>
        exact absurd ((begun _ _ _ among begins).2 failure rfl) (attentive _ failure)
    · intro since
      apply since.imp
      rintro exchange among ⟨found, left, rfl⟩
      refine ⟨found, .ok (), left, rfl, ?_⟩
      cases refuses : (found.container ref).refusal? with
      | none => rfl
      | some failure => cases (refused _ _ _ among failure refuses).1
  · intro inactive failure
    -- An inactive container has no mapper to ask.
    have nobody : (Container.resolveExitCode invoke (some ref) failure).result last =
        (do
          let mapped ← Container.mappedCode invoke
            (if (last.container ref).isActive then (last.container ref).mappers else []) failure
          return if mapped ≠ 0 then mapped else failure.exitCode?.getD 0 :
          Act ExitCode).result last := rfl
    rw [nobody, inactive]
    rfl

/-- A listener that fails when it is told of a refresh, and a mapper with an opinion. -/
def objectsToRefresh : Behaviour
  | .onEvent _ (.contextRefreshed _) => .done (.error (.text "not ready"))
  | .onEvent _ _ => .done (.ok ())
  | .mapFailure _ _ => .done 9
  | _ => .panic "unexpected call"

/-- A new container with a listener and a mapper. -/
def watchedWorld : World :=
  { containers := [{
      id := "watched"
      kind := .standalone
      beans := [("mapper", .exitCodeMapper { name := "mapper" })]
      listeners := [{ participant := { name := "listener" } }] }] }

/-- The first refresh fails and makes the container active all the same, so that the second one is
refused. -/
theorem active_since_refresh_watched :
    ∃ exchanges last, Exchanges (objectsToRefresh.invoker 2 0) watchedWorld exchanges last ∧
      exchanges.map Exchange.command = [.refresh ⟨0⟩, .refresh ⟨0⟩] ∧
      Lives (objectsToRefresh.invoker 2 0) ⟨0⟩ exchanges last ∧
      (last.container ⟨0⟩).isActive = true := by
  have idle : ∀ call, (objectsToRefresh call).Within fun _ => False := by
    intro call
    unfold objectsToRefresh
    split <;> trivial
  have participants : ∀ call,
      Act.Keeps (PhaseStays ⟨0⟩) (objectsToRefresh.invoker 2 0 call) := by
    apply Behaviour.holds_invoker (Act.Keeps.composes (PhaseStays.framing ⟨0⟩)) _ _ idle
    · exact fun entry => .of_modify fun world => .of_containers rfl
    · exact fun _ _ _ never => never.elim
  have new : Exchanges (objectsToRefresh.invoker 2 0) watchedWorld [] watchedWorld := .nil
  have failed := new.snoc (show ((Command.refresh ⟨0⟩).carryOut _).result _ = (.ok _, _) from rfl)
  have refused := failed.snoc
    (show ((Command.refresh ⟨0⟩).carryOut _).result _ = (.ok _, _) from rfl)
  refine ⟨_, _, refused, rfl, ?_, rfl⟩
  apply Exchanges.active_since_refresh participants (by decide) rfl refused
  intro exchange among
  simp only [List.nil_append, List.cons_append, List.mem_cons, List.not_mem_nil, or_false] at among
  rcases among with rfl | rfl <;> rfl

/-- A refresh fails, since a listener does, and the container is active afterwards: its mapper,
which has never seen it start, decides on the exit code. -/
theorem active_after_failed_refresh :
    ∃ left, (Container.refresh (objectsToRefresh.invoker 2 0) ⟨0⟩).result watchedWorld =
        (.ok (.error (.text "not ready")), left) ∧
      (watchedWorld.container ⟨0⟩).isActive = false ∧ (left.container ⟨0⟩).isActive = true ∧
      ((Container.resolveExitCode (objectsToRefresh.invoker 2 0) (some ⟨0⟩)
        (.text "not ready")).result left).1 = .ok 9 :=
  ⟨_, rfl, rfl, rfl, rfl⟩

end Launchpad
