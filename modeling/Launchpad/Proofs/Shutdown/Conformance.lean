import Launchpad.Proofs.Operation.Commanding
import Launchpad.Proofs.Shutdown.Schedule

/-!
# What one thread does is a schedule

The operations of a coordinator, as they are carried out, go through the events of `Step` and leave
the coordinator that a schedule of these events leads to. `Follows` is the relation between worlds
that says so, and what a behaviour does respects it however deep its calls are nested: participants
may operate the coordinator at any time, except that they may neither tear it down nor drop it.
-/

namespace Launchpad

variable {α : Type}

namespace ShutdownCoordinator

/-- A system shows a coordinator of a world. There are always numbers of calls nobody made yet. -/
structure Mirrors (system : System) (ref : CoordinatorRef) (world : World) : Prop where
  made : ref.index < world.coordinators.length
  coordinator : world.coordinator ref = system.coordinator
  spare : ∃ bound, ∀ call, bound ≤ call → system.calls call = .absent

/-- A schedule from one system to another that leaves every call alone that is in the middle of
something, but for one call of its own. -/
structure Leads (own : Option Nat) (system : System) (events : List Event) (later : System) :
    Prop where
  steps : Steps system events later
  keeps : ∀ call work rest, own ≠ some call → system.calls call = .busy work rest →
    later.calls call = .busy work rest

/-- A world comes after another by a schedule of a coordinator. -/
def Follows (ref : CoordinatorRef) (before after : World) : Prop :=
  ∀ system, Mirrors system ref before →
    ∃ events later, Leads none system events later ∧ Mirrors later ref after

section

variable {own : Option Nat} {ref other : CoordinatorRef} {world : World} {event : Event}
  {system next later : System} {events after : List Event}

/-- The schedule without events leads nowhere else. -/
theorem Leads.refl (own : Option Nat) (system : System) : Leads own system [] system :=
  ⟨.nil, fun _ _ _ _ busy => busy⟩

/-- What two schedules one after the other leave alone, both of them leave alone. -/
theorem Leads.trans (first : Leads own system events next) (rest : Leads own next after later) :
    Leads own system (events ++ after) later where
  steps := first.steps.append rest.steps
  keeps call work rest' others busy :=
    rest.keeps call work rest' others (first.keeps call work rest' others busy)

/-- A schedule that leaves all calls alone leaves alone all but any one. -/
theorem Leads.weaken (leads : Leads none system events later) (own : Option Nat) :
    Leads own system events later where
  steps := leads.steps
  keeps call work rest _ := leads.keeps call work rest nofun

/-- An event that moves no call is a schedule that leaves all of them alone. -/
theorem Leads.of_step (step : Step system event next) (still : next.calls = system.calls) :
    Leads none system [event] next where
  steps := .cons step .nil
  keeps call _ _ _ busy := (congrFun still call).trans busy

/-- An event of one call is a schedule that leaves the others alone. -/
theorem Leads.of_own {call : Nat} {coordinator : ShutdownCoordinator} {progress : Progress}
    (step : Step system event ((system.change coordinator).move call progress)) :
    Leads (some call) system [event] ((system.change coordinator).move call progress) where
  steps := .cons step .nil
  keeps other _ _ others busy := by
    rw [System.calls_move_of_ne _ _ fun same => others (congrArg some same.symm)]
    exact busy

/-- A call that wakes everybody and leaves does not touch the work of others. -/
theorem Leads.of_leave {call : Nat} {progress : Progress}
    (step : Step system event (system.wakeAll.move call progress)) :
    Leads (some call) system [event] (system.wakeAll.move call progress) where
  steps := .cons step .nil
  keeps other _ _ others busy := by
    rw [System.calls_move_of_ne _ _ fun same => others (congrArg some same.symm)]
    rw [System.calls_wakeAll_of_ne (by simp [busy]), busy]

/-- A call that is not closing or running anything needs no exception. -/
theorem Leads.of_idle {call : Nat} (leads : Leads (some call) system events later)
    (idle : system.calls call = .absent) : Leads none system events later where
  steps := leads.steps
  keeps other work rest _ busy := by
    refine leads.keeps other work rest (fun same => ?_) busy
    cases Option.some.inj same
    cases idle.symm.trans busy

/-- The coordinator is changed, in the system as in the world. -/
theorem Mirrors.change (mirrors : Mirrors system ref world)
    (change : ShutdownCoordinator → ShutdownCoordinator) :
    Mirrors (system.change (change system.coordinator)) ref
      (world.modifyCoordinator ref change) where
  made := by simpa [World.modifyCoordinator] using mirrors.made
  coordinator := by simp [mirrors.made, mirrors.coordinator]
  spare := mirrors.spare

/-- A world shows nothing of the numbers that were taken and not used yet. -/
theorem Mirrors.keep (mirrors : Mirrors system ref world) (numbers : List ActionId) :
    Mirrors (system.keep numbers) ref world :=
  ⟨mirrors.made, mirrors.coordinator, mirrors.spare⟩

/-- A world shows nothing of how far a call has come, and numbers of calls are never used up. -/
theorem Mirrors.move (mirrors : Mirrors system ref world) (call : Nat) (progress : Progress) :
    Mirrors (system.move call progress) ref world where
  made := mirrors.made
  coordinator := mirrors.coordinator
  spare := by
    obtain ⟨bound, spare⟩ := mirrors.spare
    refine ⟨max bound (call + 1), fun other beyond => ?_⟩
    rw [System.calls_move_of_ne]
    · exact spare other (by omega)
    · omega

/-- Waking everybody changes neither the coordinator nor a call that nobody made. -/
theorem Mirrors.wakeAll (mirrors : Mirrors system ref world) :
    Mirrors system.wakeAll ref world where
  made := mirrors.made
  coordinator := mirrors.coordinator
  spare := by
    obtain ⟨bound, spare⟩ := mirrors.spare
    refine ⟨bound, fun call beyond => ?_⟩
    have absent := spare call beyond
    rw [System.calls_wakeAll_of_ne (by simp [absent]), absent]

/-- A change of another coordinator is not seen. -/
theorem Mirrors.modify_other (mirrors : Mirrors system ref world) (different : ref ≠ other)
    (change : ShutdownCoordinator → ShutdownCoordinator) :
    Mirrors system ref (world.modifyCoordinator other change) where
  made := by simpa [World.modifyCoordinator] using mirrors.made
  coordinator := by
    rw [World.coordinator_modifyCoordinator_of_ne different]
    exact mirrors.coordinator
  spare := mirrors.spare

/-- Nothing but the coordinators is seen. -/
theorem Mirrors.of_coordinators (mirrors : Mirrors system ref world) {changed : World}
    (same : changed.coordinators = world.coordinators) : Mirrors system ref changed where
  made := by
    rw [same]
    exact mirrors.made
  coordinator := by
    rw [World.coordinator, same]
    exact mirrors.coordinator
  spare := mirrors.spare

/-- A coordinator that is made besides is not seen. -/
theorem Mirrors.of_appended (mirrors : Mirrors system ref world) {changed : World}
    {made : List ShutdownCoordinator} (added : changed.coordinators = world.coordinators ++ made) :
    Mirrors system ref changed where
  made := by
    rw [added, List.length_append]
    exact Nat.lt_add_right _ mirrors.made
  coordinator := by
    rw [World.coordinator, added, List.getElem?_append_left mirrors.made]
    exact mirrors.coordinator
  spare := mirrors.spare

end

namespace Follows

variable {ref other : CoordinatorRef} {world : World}

/-- Nothing is seen to happen while the coordinators stay as they are. -/
theorem of_coordinators {before after : World} (same : after.coordinators = before.coordinators) :
    Follows ref before after :=
  fun system mirrors => ⟨[], system, .refl none system, mirrors.of_coordinators same⟩

/-- Nothing is seen to happen while another coordinator is changed. -/
theorem of_other (different : ref ≠ other) (change : ShutdownCoordinator → ShutdownCoordinator) :
    Follows ref world (world.modifyCoordinator other change) :=
  fun system mirrors => ⟨[], system, .refl none system, mirrors.modify_other different change⟩

/-- A coordinator is changed as one event changes it. -/
theorem of_step {change : ShutdownCoordinator → ShutdownCoordinator} (event : Event)
    (step : ∀ system : System, Step system event (system.change (change system.coordinator))) :
    Follows ref world (world.modifyCoordinator other change) := by
  by_cases same : ref = other
  · subst same
    exact fun system mirrors => ⟨[event], _, .of_step (step system) rfl, mirrors.change change⟩
  · exact of_other same change

/-- Closing and furnishing containers, and taking them off a coordinator, is part of a schedule. -/
theorem coordinating (ref : CoordinatorRef) : CoordinatorFraming (Follows ref) where
  refl world := of_coordinators rfl
  trans first second system mirrors := by
    obtain ⟨events, middle, leads, shown⟩ := first system mirrors
    obtain ⟨after, later, goes, shows⟩ := second middle shown
    exact ⟨events ++ after, later, leads.trans goes, shows⟩
  aside _ coordinators _ := of_coordinators coordinators
  deregister _ _ container := of_step (.deregistered container) fun _ => .deregistered

/-- Schedules go on one after the other, and records and furnishings are not seen in them. -/
theorem framing (ref : CoordinatorRef) : Framing (Follows ref) := (coordinating ref).framing

end Follows

/-- What the events of an addition say about its answer. -/
def Admitted (stage : ActionStage) (name : String) (participant : Participant)
    (events : List Event) : Except Abort (Option ActionId) → Prop
  | .ok (some id) => .added stage { id, name, participant } ∈ events
  | .ok none => ∃ id, .additionRefused stage { id, name, participant } ∈ events
  | .error _ => False

section

variable {ref : CoordinatorRef} {system : System} {world : World}

/-- An addition takes a number and answers it if the action is accepted. -/
theorem add_goes (mirrors : Mirrors system ref world) (stage : ActionStage) (name : String)
    (participant : Participant) :
    ∃ events later, Leads none system events later ∧
      Mirrors later ref ((add ref stage name participant).result world).2 ∧
      Admitted stage name participant events ((add ref stage name participant).result world).1 := by
  have looks : (Act.coordinator ref).result world = (.ok system.coordinator, world) := by
    rw [← mirrors.coordinator]
    rfl
  cases taken : system.coordinator.takeNumber with
  | mk id numbered =>
    let action : ShutdownAction := { id, name, participant }
    let middle : System := (system.change numbered).keep (id :: system.numbers)
    have first : Leads none system [.numbered id] middle := .of_step (.numbered taken) rfl
    have shown : Mirrors middle ref (world.modifyCoordinator ref fun _ => numbered) :=
      (mirrors.change fun _ => numbered).keep (id :: system.numbers)
    have known : action.id ∈ middle.numbers := List.mem_cons_self
    simp only [add, Act.result_bind, looks, taken, Act.result_modifyCoordinator]
    cases answer : numbered.addAction stage action with
    | none =>
      have second : Leads none middle [.additionRefused stage action] _ :=
        .of_step (.additionRefused known answer) rfl
      exact ⟨_, _, first.trans second, shown.keep _, id, List.mem_append_right _ List.mem_cons_self⟩
    | some coordinator =>
      have second : Leads none middle [.added stage action] _ := .of_step (.added known answer) rfl
      exact ⟨_, _, first.trans second, (shown.change fun _ => coordinator).keep _,
        List.mem_append_right _ List.mem_cons_self⟩

/-- A removal answers whether the action is waiting. -/
theorem remove_goes (mirrors : Mirrors system ref world) (id : ActionId) :
    ((remove ref id).result world).1 = .ok (system.coordinator.hasAction id) ∧
      Step system (.removed id) (system.change (system.coordinator.removeAction id)) ∧
      Mirrors (system.change (system.coordinator.removeAction id)) ref
        ((remove ref id).result world).2 := by
  have answers : ((remove ref id).result world).1 =
      .ok ((world.coordinator ref).hasAction id) := rfl
  refine ⟨?_, .removed, mirrors.change (·.removeAction id)⟩
  rw [answers, mirrors.coordinator]

end

/-- What the events of a call say about its outcome. -/
def Told (call : Nat) (events : List Event) : Except Abort Bool → Prop
  | .ok answer => Event.returned call answer ∈ events
  | .error (.panicked _) => Event.rethrew call ∈ events
  | .error _ => True

section

variable {ref : CoordinatorRef} {invoke : Invoker} {system : System} {world : World}

/-- Closing a container, whatever its listeners and callbacks do. -/
theorem follows_close (participants : ∀ call, Act.Respects (Follows ref) (invoke call))
    (container : ContainerRef) : Act.Respects (Follows ref) (Container.close invoke container) :=
  Container.respects_close ((Follows.coordinating ref).containing container) participants

/-- A close callback is kept, or runs at once. -/
theorem follows_onClose (participants : ∀ call, Act.Respects (Follows ref) (invoke call))
    (container : ContainerRef) (callback : CloseCallback) :
    Act.Respects (Follows ref) (Container.onClose invoke container callback) :=
  Container.respects_onClose ((Follows.coordinating ref).containing container) participants callback

/-- Doing the work that is left, up to a thing that throws. -/
theorem performs (participants : ∀ call, Act.Respects (Follows ref) (invoke call)) (call : Nat)
    (rest : List ShutdownWork) (mirrors : Mirrors system ref world)
    (working : system.calls call = .working rest) :
    ∃ events later, Leads (some call) system events later ∧
      Mirrors later ref ((Act.forEach (perform invoke) rest).result world).2 ∧
      match ((Act.forEach (perform invoke) rest).result world).1 with
      | .ok () => later.calls call = .working []
      | .error (.panicked _) => later.calls call = .unwinding
      | .error _ => True := by
  induction rest generalizing system world with
  | nil => exact ⟨[], system, .refl _ system, mirrors, working⟩
  | cons work rest ih =>
    have began : Leads (some call) system [.began call work] (system.move call (.busy work rest)) :=
      .of_own (.began working)
    -- While the work is carried out other calls may come and go, but this one stays busy.
    obtain ⟨events, middle, leads, shown⟩ :=
      respects_perform (Follows.framing ref) participants (follows_close participants) work world _
        (mirrors.move call (.busy work rest))
    have busy : middle.calls call = .busy work rest :=
      leads.keeps call work rest nofun (System.calls_move_self _ _ _)
    have reached := began.trans (leads.weaken (some call))
    rw [Act.forEach, Act.result_bind]
    cases done : (perform invoke work).result world with
    | mk answer between =>
      rw [done] at shown
      cases answer with
      | ok =>
        have ended : Leads (some call) middle [.ended call none]
            (middle.move call (.working rest)) := .of_own (.ended busy)
        obtain ⟨after, later, goes, shows, outcome⟩ :=
          ih (shown.move call (.working rest)) (System.calls_move_self _ _ _)
        exact ⟨_, later, (reached.trans ended).trans goes, shows, outcome⟩
      | error abort =>
        cases abort with
        | panicked message =>
          have threw : Leads (some call) middle [.threw call work] (middle.move call .unwinding) :=
            .of_own (.threw busy)
          exact ⟨_, _, reached.trans threw, shown.move call .unwinding,
            System.calls_move_self _ _ _⟩
        | exhausted | deadlocked => exact ⟨_, middle, reached, shown, trivial⟩

/-- Whatever ends a shutdown marks it as finished, unless it never ends. -/
theorem result_shutDown (invoke : Invoker) (ref : CoordinatorRef) (taken : Registrations)
    (world : World) :
    (shutDown invoke ref taken).result world =
      match (runAll invoke taken).result world with
      | (.ok (), later) => (.ok (), later.modifyCoordinator ref finish)
      | (.error (.panicked message), later) =>
        (.error (.panicked message), later.modifyCoordinator ref finish)
      | (.error abort, later) => (.error abort, later) := by
  rw [shutDown, Act.result_bind, Act.result_tryCatch]
  cases (runAll invoke taken).result world with
  | mk answer later =>
    cases answer with
    | ok => rfl
    | error abort => cases abort <;> rfl

/-- A shutdown that has begun, up to its end. -/
theorem shutDown_goes (participants : ∀ call, Act.Respects (Follows ref) (invoke call))
    {call : Nat} {taken : Registrations} (mirrors : Mirrors system ref world)
    (working : system.calls call = .working taken.work) :
    ∃ events later, Leads (some call) system events later ∧
      Mirrors later ref ((shutDown invoke ref taken).result world).2 ∧
      Told call events (((shutDown invoke ref taken).result world).1.map fun _ => true) := by
  rw [result_shutDown]
  obtain ⟨logged, same, coordinators⟩ : ∃ logged : World, (runAll invoke taken).result world =
      (Act.forEach (perform invoke) taken.work).result logged ∧
        logged.coordinators = world.coordinators := ⟨_, rfl, rfl⟩
  obtain ⟨events, middle, leads, shown, outcome⟩ :=
    performs participants call taken.work (mirrors.of_coordinators coordinators) working
  rw [same]
  cases done : (Act.forEach (perform invoke) taken.work).result logged with
  | mk answer between =>
    rw [done] at shown outcome
    -- However the work ends, the shutdown is marked as finished and everybody is woken; only what
    -- the call answers differs.
    have leave {completed : Bool} {progress : Progress} {event : Event}
        (finished : Step middle (.finished call)
          ((middle.change middle.coordinator.finish).move call (.leaving completed)))
        (left : Step _ event (((middle.change middle.coordinator.finish).move call
          (.leaving completed)).wakeAll.move call progress)) :
        ∃ later, Leads (some call) system (events ++ [.finished call] ++ [event]) later ∧
          Mirrors later ref (between.modifyCoordinator ref finish) :=
      ⟨_, (leads.trans (.of_own finished)).trans (.of_leave left),
        (((shown.change finish).move call (.leaving completed)).wakeAll).move call progress⟩
    cases answer with
    | ok =>
      obtain ⟨later, goes, shows⟩ :=
        leave (.finished outcome) (.returned (System.calls_move_self _ _ _))
      exact ⟨_, later, goes, shows, List.mem_append_right _ List.mem_cons_self⟩
    | error abort =>
      cases abort with
      | panicked message =>
        obtain ⟨later, goes, shows⟩ :=
          leave (.unwound outcome) (.rethrew (System.calls_move_self _ _ _))
        exact ⟨_, later, goes, shows, List.mem_append_right _ List.mem_cons_self⟩
      | exhausted | deadlocked => exact ⟨events, middle, leads, shown, trivial⟩

/-- A trigger, carried out by one thread, is a call of a schedule, and what it answers is what the
schedule says. -/
theorem trigger_goes (participants : ∀ call, Act.Respects (Follows ref) (invoke call))
    (mirrors : Mirrors system ref world) :
    ∃ call events later, system.calls call = .absent ∧ Leads none system events later ∧
      Mirrors later ref ((trigger invoke ref).result world).2 ∧
      Told call events ((trigger invoke ref).result world).1 := by
  -- The trigger is given a number that no call has.
  obtain ⟨call, spare⟩ := mirrors.spare
  have absent := spare call (Nat.le_refl call)
  have called : Leads (some call) system [.called call] (system.move call .arrived) :=
    .of_own (.called absent)
  have arrived := mirrors.move call .arrived
  have here := System.calls_move_self system call .arrived
  refine ⟨call, ?_⟩
  have begins : (trigger invoke ref).result world =
      (proceed invoke ref system.coordinator.enter).result world := by
    rw [← mirrors.coordinator]
    rfl
  rw [begins]
  cases entered : system.coordinator.enter with
  | finished =>
    have late : Leads (some call) (system.move call .arrived) [.returned call false]
        ((system.move call .arrived).move call (.returned false)) := .of_own (.late here entered)
    exact ⟨_, _, absent, (called.trans late).of_idle absent, arrived.move call (.returned false),
      List.mem_append_right _ List.mem_cons_self⟩
  | occupied =>
    have slept : Leads (some call) (system.move call .arrived) [.slept call]
        ((system.move call .arrived).move call .asleep) := .of_own (.slept here entered)
    exact ⟨_, _, absent, (called.trans slept).of_idle absent, arrived.move call .asleep, trivial⟩
  | begun taken begun =>
    have took : Leads (some call) (system.move call .arrived) [.took call taken]
        (((system.move call .arrived).change begun).move call (.working taken.work)) :=
      .of_own (.took here entered)
    obtain ⟨events, later, leads, shown, told⟩ :=
      shutDown_goes participants ((arrived.change fun _ => begun).move call (.working taken.work))
        (System.calls_move_self _ _ _)
    have all := ((called.trans took).trans leads).of_idle absent
    have goesOn : (proceed invoke ref (.begun taken begun)).result world = _ :=
      Act.result_bind (shutDown invoke ref taken) (fun _ => return true)
        (world.modifyCoordinator ref fun _ => begun)
    rw [goesOn]
    cases done : (shutDown invoke ref taken).result
        (world.modifyCoordinator ref fun _ => begun) with
    | mk answer between =>
      rw [done] at shown told
      cases answer with
      | ok => exact ⟨_, later, absent, all, shown, List.mem_append_right _ told⟩
      | error abort =>
        refine ⟨_, later, absent, all, shown, ?_⟩
        cases abort with
        | panicked message => exact List.mem_append_right _ told
        | exhausted | deadlocked => trivial

/-- Triggering any coordinator is part of a schedule of this one. -/
theorem follows_trigger (participants : ∀ call, Act.Respects (Follows ref) (invoke call))
    (other : CoordinatorRef) : Act.Respects (Follows ref) (trigger invoke other) := by
  by_cases same : ref = other
  · subst same
    intro world system mirrors
    obtain ⟨_, events, later, -, leads, shows, -⟩ := trigger_goes participants mirrors
    exact ⟨events, later, leads, shows⟩
  · exact respects_trigger (Follows.framing ref) (fun _ _ => .of_other same _) participants
      (follows_close participants)

/-- Registering a container with any coordinator is part of a schedule of this one. -/
theorem follows_registerContainer (participants : ∀ call, Act.Respects (Follows ref) (invoke call))
    (other : CoordinatorRef) (container : ContainerRef) :
    Act.Respects (Follows ref) (registerContainer invoke other container) := by
  have frame := Follows.framing ref
  by_cases same : ref = other
  · subst same
    intro world system mirrors
    have looks : (Act.coordinator ref).result world = (.ok system.coordinator, world) := by
      rw [← mirrors.coordinator]
      rfl
    rw [registerContainer, Act.result_bind, looks]
    dsimp only
    cases answer : system.coordinator.register container with
    | refused => exact ⟨_, system, .of_step (.registrationRefused answer) rfl, mirrors⟩
    | present => exact ⟨_, system, .of_step (.reregistered answer) rfl, mirrors⟩
    | added coordinator =>
      have rest : Act.Respects (Follows ref) (do
          Container.onClose invoke container (.deregister ref)
          if coordinator.signalHook then hook ref
          return true) := by
        refine .bind frame (follows_onClose participants container _) fun _ => ?_
        split
        · exact .bind frame (respects_hook frame ref) fun _ => .of_pure frame _
        · exact .of_pure frame _
      obtain ⟨events, later, leads, shows⟩ := rest _ _ (mirrors.change fun _ => coordinator)
      have first := Leads.of_step (.registered answer) rfl
      exact ⟨_, later, first.trans leads, shows⟩
  · exact respects_registerContainer frame (fun _ _ => .of_other same _)
      (follows_onClose participants container _)

/-- Adding an action to any coordinator is part of a schedule of this one. -/
theorem follows_add (other : CoordinatorRef) (stage : ActionStage) (name : String)
    (participant : Participant) :
    Act.Respects (Follows ref) (add other stage name participant) := by
  have frame := Follows.framing ref
  by_cases same : ref = other
  · subst same
    intro world system mirrors
    obtain ⟨events, later, leads, shows, -⟩ := add_goes mirrors stage name participant
    exact ⟨events, later, leads, shows⟩
  · refine .look frame (fun _ => rfl) fun held =>
      .bind frame (fun _ => .of_other same _) fun _ => ?_
    split
    · exact .of_pure frame _
    · exact .bind frame (fun _ => .of_other same _) fun _ => .of_pure frame _

/-- A run of an application is part of a schedule, if what the participants do is. -/
theorem Follows.running (participants : ∀ call, Act.Respects (Follows ref) (invoke call)) :
    RunFraming (Follows ref) invoke where
  toFraming := framing ref
  calls := participants
  makeStore := fun _ => of_coordinators rfl
  beginClose store := by
    refine .look (framing ref) (fun _ => rfl) fun held => ?_
    split
    · exact .of_pure (framing ref) _
    · exact fun _ => of_coordinators rfl
  make kind options := by
    obtain ⟨id, tracking, _, _⟩ := options
    cases id <;> cases tracking <;> exact fun _ => of_coordinators rfl
  registers := follows_registerContainer participants
  triggers := follows_trigger participants
  onClose := follows_onClose participants
  refresh container :=
    Container.respects_refresh ((coordinating ref).containing container) participants
  close := follows_close participants
  attach _ _ := fun _ => of_coordinators rfl

/-- Every command that leaves all coordinators in use is part of a schedule, if what the
participants do is. -/
theorem Follows.steady (participants : ∀ call, Act.Respects (Follows ref) (invoke call)) :
    SteadyFraming (Follows ref) invoke where
  toRunFraming := running participants
  restock _ _ := fun _ => of_coordinators rfl
  makeCoordinator _ := fun _ system mirrors =>
    ⟨[], system, .refl none system, mirrors.of_appended rfl⟩
  deregisters _ container :=
    .look (framing ref) (fun _ => rfl) fun _ =>
      .bind (framing ref) (fun _ => of_step (.deregistered container) fun _ => .deregistered)
        fun _ => .of_pure (framing ref) _
  adds := follows_add
  removes _ id :=
    .look (framing ref) (fun _ => rfl) fun _ =>
      .bind (framing ref) (fun _ => of_step (.removed id) fun _ => .removed) fun _ =>
        .of_pure (framing ref) _

end

end ShutdownCoordinator

/-- A command leaves a coordinator in use: it neither tears it down nor drops it. -/
def Command.Retains (ref : CoordinatorRef) (command : Command) : Prop :=
  command ≠ .teardown ref ∧ command ≠ .dropCoordinator ref

section

open ShutdownCoordinator

variable {ref : CoordinatorRef}

/-- A command that leaves a coordinator in use goes through a schedule of it. -/
theorem Command.follows_of_retains {invoke : Invoker}
    (participants : ∀ call, Act.Respects (Follows ref) (invoke call)) {command : Command}
    (retains : command.Retains ref) : Act.Respects (Follows ref) (command.carryOut invoke) := by
  obtain ⟨stands, held⟩ := retains
  cases ending : command.isEnding with
  | false => exact (Follows.steady participants).respects_command ending
  | true =>
    cases command with
    | teardown other =>
      have different : ref ≠ other := fun same => stands (by rw [same])
      exact respects_teardown (Follows.framing ref) fun _ _ => .of_other different _
    | dropCoordinator other =>
      have different : ref ≠ other := fun same => held (by rw [same])
      exact fun _ => .of_other different _
    | _ => cases ending

/-- Participants that leave a coordinator in use go through a schedule of it whenever they are
called, however deep the calls are nested. -/
theorem Behaviour.follows {behaviour : Behaviour}
    (retains : ∀ call, (behaviour call).Within (Command.Retains ref)) (limit depth : Nat)
    (call : Call) : Act.Respects (Follows ref) (behaviour.invoker limit depth call) :=
  holds_invoker (Act.Respects.composes (Follows.framing ref)) (fun _ _ => .of_coordinators rfl)
    (fun _ participants _ => Command.follows_of_retains participants) retains limit depth call

/-- A program that leaves a coordinator in use, among participants that do, goes through a schedule
of it. -/
theorem Program.follows {behaviour : Behaviour}
    (others : ∀ call, (behaviour call).Within (Command.Retains ref)) (limit depth : Nat)
    {program : Program α} (retains : program.Within (Command.Retains ref)) :
    Act.Respects (Follows ref) (program.carryOut (behaviour.invoker limit depth)) :=
  holds (Act.Respects.composes (Follows.framing ref))
    (fun _ => Command.follows_of_retains (behaviour.follows others limit depth)) retains

end

end Launchpad
