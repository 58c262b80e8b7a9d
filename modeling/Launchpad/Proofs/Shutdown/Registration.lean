import Launchpad.Proofs.Shutdown.Schedule
import Mathlib.Data.List.Nodup

/-!
# What is registered before a shutdown

As long as nobody took the registrations, a coordinator holds exactly what the history added and did
not take away since, in the order of the additions.
-/

namespace Launchpad.ShutdownCoordinator

namespace Event

/-- Whether a registration was accepted. -/
def accepts : Event → Bool
  | registered _ | reregistered _ | added _ _ => true
  | _ => false

/-- Whether a registration was refused because a shutdown had begun. -/
def refuses : Event → Bool
  | registrationRefused _ | additionRefused _ _ => true
  | _ => false

/-- Whether the event is part of a shutdown or the end of a trigger. -/
def ofShutdown : Event → Bool
  | took _ _ | began _ _ | ended _ _ | threw _ _ | finished _ | returned _ _ | rethrew _ => true
  | _ => false

/-- The container that was added to the registered ones. -/
def container? : Event → Option ContainerRef
  | registered container => some container
  | _ => none

/-- Whether a container was taken off the registered ones. -/
def forgetsContainer : Event → ContainerRef → Bool
  | deregistered gone, container => container = gone
  | _, _ => false

/-- The action that was added to a stage. -/
def action? (wanted : ActionStage) : Event → Option ShutdownAction
  | added stage action => if stage = wanted then some action else none
  | _ => none

/-- Whether an action was taken away. -/
def forgetsAction : Event → ShutdownAction → Bool
  | removed gone, action => action.id = gone
  | _, _ => false

end Event

/-- What a history added and did not take away since, in the order of the additions. -/
def standing {α : Type} (adds : Event → Option α) (forgets : Event → α → Bool) :
    List Event → List α
  | [] => []
  | event :: later =>
    match adds event with
    | some item =>
      if later.any (forgets · item) then standing adds forgets later
      else item :: standing adds forgets later
    | none => standing adds forgets later

/-- What an event does to that: first it takes away, then it adds. -/
theorem standing_append_singleton {α : Type} (adds : Event → Option α)
    (forgets : Event → α → Bool) (events : List Event) (event : Event) :
    standing adds forgets (events ++ [event]) =
      (standing adds forgets events).filter (fun item => !forgets event item) ++
        (adds event).toList := by
  induction events with
  | nil => cases adding : adds event <;> simp [standing, adding]
  | cons first later ih =>
    cases adding : adds first with
    | none => simp [standing, adding, ih]
    | some item =>
      by_cases gone : later.any (forgets · item)
      · simp [standing, adding, gone, ih]
      · cases last : forgets event item <;> simp [standing, adding, gone, last, ih]

/-- The containers that are registered after a history. -/
def standingContainers : List Event → List ContainerRef :=
  standing Event.container? Event.forgetsContainer

/-- The actions of a stage that are waiting after a history. -/
def standingActions (stage : ActionStage) : List Event → List ShutdownAction :=
  standing (Event.action? stage) Event.forgetsAction

/-- How the last event changes which containers are registered. -/
theorem standingContainers_append (events : List Event) (event : Event) :
    standingContainers (events ++ [event]) =
      match event with
      | .registered container => standingContainers events ++ [container]
      | .deregistered container => (standingContainers events).filter (· ≠ container)
      | _ => standingContainers events := by
  unfold standingContainers
  rw [standing_append_singleton]
  cases event <;> simp [Event.container?, Event.forgetsContainer]

/-- How the last event changes which actions wait in a stage. -/
theorem standingActions_append (stage : ActionStage) (events : List Event) (event : Event) :
    standingActions stage (events ++ [event]) =
      match event with
      | .added other action =>
        if other = stage then standingActions stage events ++ [action]
        else standingActions stage events
      | .removed id => (standingActions stage events).filter (·.id ≠ id)
      | _ => standingActions stage events := by
  unfold standingActions
  rw [standing_append_singleton]
  cases event with
  | added other action => by_cases same : other = stage <;>
      simp [Event.action?, Event.forgetsAction, same]
  | _ => simp [Event.action?, Event.forgetsAction]

/-- A coordinator holds what stands after a history. -/
structure Holds (coordinator : ShutdownCoordinator) (events : List Event) : Prop where
  containers : coordinator.containers = standingContainers events
  actions : coordinator.actions = standingActions .shutdown events
  postClose : coordinator.postClose = standingActions .postClose events
  distinct : coordinator.containers.Nodup

/-- It keeps doing so until a shutdown begins. -/
theorem Holds.step {events : List Event} {event : Event} {system next : System}
    (holds : Holds system.coordinator events) (taken : Step system event next)
    (outside : event.ofShutdown = false) : Holds next.coordinator (events ++ [event]) := by
  obtain ⟨containers, actions, postClose, distinct⟩ := holds
  cases taken with
  -- Each event changes one of the three lists, in the coordinator as in what the events leave
  -- standing.
  | registered accepted =>
    obtain ⟨-, unknown, rfl⟩ := register_eq_added_iff.1 accepted
    refine ⟨?_, ?_, ?_, ?_⟩
    · simp [standingContainers_append, containers]
    · simpa [standingActions_append] using actions
    · simpa [standingActions_append] using postClose
    · exact distinct.append (List.nodup_singleton _) (by simpa using unknown)
  | deregistered =>
    refine ⟨?_, ?_, ?_, distinct.filter _⟩
    · simp [standingContainers_append, deregister, containers]
    · simpa [standingActions_append, deregister] using actions
    · simpa [standingActions_append, deregister] using postClose
  | @added stage _ _ _ accepted =>
    obtain ⟨-, rfl⟩ := addAction_eq_some_iff.1 accepted
    cases stage with
    | shutdown =>
      refine ⟨?_, ?_, ?_, distinct⟩
      · simpa [standingContainers_append, putAction] using containers
      · simp [standingActions_append, putAction, actions]
      · simpa [standingActions_append, putAction] using postClose
    | postClose =>
      refine ⟨?_, ?_, ?_, distinct⟩
      · simpa [standingContainers_append, putAction] using containers
      · simpa [standingActions_append, putAction] using actions
      · simp [standingActions_append, putAction, postClose]
  | removed =>
    refine ⟨?_, ?_, ?_, distinct⟩
    · simpa [standingContainers_append, removeAction] using containers
    · simp [standingActions_append, removeAction, actions]
    · simp [standingActions_append, removeAction, postClose]
  | numbered taken =>
    obtain ⟨rfl, rfl⟩ := Prod.mk.inj taken
    refine ⟨?_, ?_, ?_, distinct⟩
    · simpa [standingContainers_append] using containers
    · simpa [standingActions_append] using actions
    · simpa [standingActions_append] using postClose
  | reregistered | registrationRefused | additionRefused | called | slept | woke =>
    refine ⟨?_, ?_, ?_, distinct⟩
    · simpa [standingContainers_append] using containers
    · simpa [standingActions_append] using actions
    · simpa [standingActions_append] using postClose
  | _ => cases outside

/-- The numbers of actions tell actions apart: those that are held, and those whose number was taken
but not used yet. -/
structure Numbered (nextAction : Nat) (numbers : List ActionId) (held : List ShutdownAction) :
    Prop where
  nodup : (numbers ++ held.map (·.id)).Nodup
  below : ∀ id ∈ numbers ++ held.map (·.id), id.number < nextAction

namespace Numbered

variable {nextAction : Nat} {numbers : List ActionId} {held less : List ShutdownAction}

/-- A number that is taken is new, and in use from then on. -/
theorem take (numbered : Numbered nextAction numbers held) :
    Numbered (nextAction + 1) (⟨nextAction⟩ :: numbers) held where
  nodup := by
    refine List.nodup_cons.2 ⟨fun used => ?_, numbered.nodup⟩
    exact absurd (numbered.below _ used) (Nat.lt_irrefl nextAction)
  below id member := by
    obtain rfl | before := List.mem_cons.1 member
    · exact Nat.lt_succ_self nextAction
    · exact Nat.lt_succ_of_lt (numbered.below id before)

/-- Numbers stay distinct when actions are taken away. -/
theorem of_sublist (numbered : Numbered nextAction numbers held) (fewer : less.Sublist held) :
    Numbered nextAction numbers less where
  nodup := numbered.nodup.sublist ((List.Sublist.refl numbers).append (fewer.map _))
  below id member :=
    numbered.below id (((List.Sublist.refl numbers).append (fewer.map _)).subset member)

/-- The order of the actions does not matter to their numbers. -/
theorem of_perm (numbered : Numbered nextAction numbers held) (same : held.Perm less) :
    Numbered nextAction numbers less where
  nodup := ((same.map _).append_left numbers).nodup_iff.1 numbered.nodup
  below id member := numbered.below id (((same.map _).append_left numbers).mem_iff.2 member)

/-- A number that is used for an action that is not kept. -/
theorem drop (numbered : Numbered nextAction numbers held) (id : ActionId) :
    Numbered nextAction (numbers.erase id) held where
  nodup := numbered.nodup.sublist (List.erase_sublist.append (List.Sublist.refl _))
  below other member :=
    numbered.below other ((List.erase_sublist.append (List.Sublist.refl _)).subset member)

/-- A number that is used for an action that is kept. -/
theorem use (numbered : Numbered nextAction numbers held) {action : ShutdownAction}
    (known : action.id ∈ numbers) :
    Numbered nextAction (numbers.erase action.id) (action :: held) := by
  have same : (numbers ++ held.map (·.id)).Perm
      (numbers.erase action.id ++ (action :: held).map (·.id)) := by
    rw [List.map_cons]
    exact ((List.perm_cons_erase known).append_right _).trans List.perm_middle.symm
  exact ⟨same.nodup_iff.1 numbered.nodup,
    fun id member => numbered.below id (same.mem_iff.2 member)⟩

/-- An action that has a number of its own is none of the held ones. -/
theorem ne_of_mem (numbered : Numbered nextAction numbers held) {id : ActionId}
    (known : id ∈ numbers) {action : ShutdownAction} (kept : action ∈ held) : action.id ≠ id := by
  rintro rfl
  exact (List.nodup_append.1 numbered.nodup).2.2 _ known _ (List.mem_map_of_mem kept) rfl

end Numbered

/-- The state before anybody took the registrations. -/
structure Waiting (events : List Event) (system : System) : Prop where
  idle : system.coordinator.status = .idle
  holds : Holds system.coordinator events
  numbered : Numbered system.coordinator.nextAction system.numbers
    (system.coordinator.actions ++ system.coordinator.postClose)
  calls : ∀ call, system.calls call = .absent ∨ system.calls call = .arrived
  untouched : ∀ event ∈ events, event.ofShutdown = false ∧ event.refuses = false

/-- A new coordinator waits for its shutdown. -/
theorem Waiting.initial (signalHook : Bool) :
    Waiting [] { coordinator := { signalHook } } where
  idle := rfl
  holds := ⟨rfl, rfl, rfl, List.nodup_nil⟩
  numbered := ⟨List.nodup_nil, fun _ member => absurd member List.not_mem_nil⟩
  calls _ := .inl rfl
  untouched _ member := absurd member List.not_mem_nil

/-- A call that takes the registrations ends this state; everything else keeps it. -/
theorem Waiting.step {events : List Event} {event : Event} {system next : System}
    (waiting : Waiting events system) (taken : Step system event next) :
    Waiting (events ++ [event]) next ∨
      ∃ call, event = .took call system.coordinator.begin.1 ∧
        next = (system.change system.coordinator.begin.2).move call
          (.working system.coordinator.begin.1.work) := by
  have accepting : system.coordinator.accepting = true := by simp [accepting, waiting.idle]
  have numbered := waiting.numbered
  have holds := waiting.holds.step taken
  have untouched (outside : event.ofShutdown = false) (kept : event.refuses = false) :
      ∀ earlier ∈ events ++ [event], earlier.ofShutdown = false ∧ earlier.refuses = false := by
    intro earlier member
    obtain before | last := List.mem_append.1 member
    · exact waiting.untouched earlier before
    · obtain rfl := List.mem_singleton.1 last
      exact ⟨outside, kept⟩
  cases taken with
  | registered accepted =>
    obtain ⟨-, -, rfl⟩ := register_eq_added_iff.1 accepted
    exact .inl ⟨waiting.idle, holds rfl, numbered, waiting.calls, untouched rfl rfl⟩
  | reregistered | deregistered =>
    exact .inl ⟨waiting.idle, holds rfl, numbered, waiting.calls, untouched rfl rfl⟩
  | registrationRefused refused =>
    have closed := register_eq_refused_iff.1 refused
    simp [accepting] at closed
  | numbered taken =>
    obtain ⟨rfl, rfl⟩ := Prod.mk.inj taken
    exact .inl ⟨waiting.idle, holds rfl, numbered.take, waiting.calls, untouched rfl rfl⟩
  | @added stage action _ known accepted =>
    obtain ⟨-, rfl⟩ := addAction_eq_some_iff.1 accepted
    have used := numbered.use known
    refine .inl ⟨?_, holds rfl, ?_, waiting.calls, untouched rfl rfl⟩
    · cases stage <;> exact waiting.idle
    · cases stage with
      | shutdown =>
        refine used.of_perm ?_
        simpa [putAction] using List.perm_middle.symm
      | postClose =>
        refine used.of_perm ?_
        simpa [putAction, ← List.append_assoc] using (List.perm_append_singleton action _).symm
  | additionRefused _ refused =>
    have closed := addAction_eq_none_iff.1 refused
    simp [accepting] at closed
  | removed =>
    refine .inl ⟨waiting.idle, holds rfl, ?_, waiting.calls, untouched rfl rfl⟩
    exact numbered.of_sublist (List.filter_sublist.append List.filter_sublist)
  | @called call =>
    refine .inl ⟨waiting.idle, holds rfl, numbered, fun other => ?_, untouched rfl rfl⟩
    by_cases same : other = call
    · simp [same]
    · simpa [same] using waiting.calls other
  | @took call _ _ _ idle =>
    obtain ⟨-, rfl, rfl⟩ := enter_eq_begun_iff.1 idle
    exact .inr ⟨call, rfl, rfl⟩
  -- Nobody works before a call has taken the registrations, so no call can be asleep, busy or
  -- leaving.
  | slept _ occupied => cases waiting.idle.symm.trans (enter_eq_occupied_iff.1 occupied)
  | late _ done => cases waiting.idle.symm.trans (enter_eq_finished_iff.1 done)
  | @woke call asleep | @began call _ _ asleep | @ended call _ _ _ asleep
  | @threw call _ _ asleep | @finished call asleep | @unwound call asleep
  | @returned call asleep | @rethrew call asleep =>
    obtain absent | arrived := waiting.calls call
    · cases absent.symm.trans asleep
    · cases arrived.symm.trans asleep

end Launchpad.ShutdownCoordinator
