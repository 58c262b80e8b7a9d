import Launchpad.Proofs.Shutdown.Conformance
import Launchpad.Proofs.Shutdown.Once

/-!
# Triggers from inside a shutdown

What a shutdown closes and runs is carried out in the thread of the call that began it, and may
operate the same coordinator. A trigger that is called there meets the shutdown in progress and
sleeps until it is finished, while its own thread would have to finish it: the shutdown stands still
for ever. The other operations come back, and without such a trigger the call can always go on to
its end.
-/

namespace Launchpad.ShutdownCoordinator

/-- Whether a call has come to its end. -/
def Progress.isOver : Progress → Bool
  | .returned _ | .thrown => true
  | _ => false

/-- Whether a call runs a shutdown. -/
def Progress.isRunning : Progress → Bool
  | .working _ | .busy _ _ | .unwinding | .leaving _ => true
  | _ => false

/-- A call that runs a shutdown has not come to its end. -/
theorem Progress.isOver_of_isRunning {progress : Progress} (running : progress.isRunning = true) :
    progress.isOver = false := by
  cases progress <;> first | rfl | cases running

namespace Event

/-- The call that goes on when the thing it was busy with comes back. -/
def resumes? : Event → Option Nat
  | ended call _ | threw call _ => some call
  | _ => none

/-- Whoever goes on after a thing came back is the one whose thing it was. -/
theorem worker?_of_resumes? {event : Event} {call : Nat} (resumes : event.resumes? = some call) :
    event.worker? = some call := by
  cases event <;> first | exact resumes | cases resumes

/-- What the call of a shutdown does is part of the shutdown. -/
theorem ofShutdown_of_worker? {event : Event} {call : Nat} (own : event.worker? = some call) :
    event.ofShutdown = true := by
  cases event <;> first | rfl | cases own

end Event

section

variable {system next : System} {event : Event} {events after : List Event} {taken : Registrations}
  {outer inner call : Nat} {progress : Progress} {work : ShutdownWork} {rest : List ShutdownWork}

/-- A call that runs a shutdown took the registrations. -/
theorem Runs.underway_of_isRunning (runs : Runs events system)
    (running : (system.calls call).isRunning = true) :
    ∃ taken after, Underway call taken after system := by
  obtain waiting | ⟨_, winner, taken, after, -, underway⟩ := runs.course
  · obtain absent | arrived := waiting.calls call
    · rw [absent] at running
      cases running
    · rw [arrived] at running
      cases running
  · have own : ¬ Bystander (system.calls call) := by
      intro bystander
      generalize system.calls call = progress at running bystander
      cases bystander <;> cases running
    obtain rfl := underway.eq_winner rfl own
    exact ⟨taken, after, underway⟩

/-- While a call is about something it closes or runs, the shutdown is in progress. -/
theorem Underway.status_of_busy (underway : Underway call taken after system)
    (busy : system.calls call = .busy work rest) :
    system.coordinator.status = .inProgress := by
  have stage := underway.stage
  rw [busy] at stage
  generalize system.coordinator.status = status at stage
  cases stage
  rfl

/-- While a call runs a shutdown, the coordinator counts as triggered. -/
theorem Runs.isTriggered_of_isRunning (runs : Runs events system)
    (running : (system.calls call).isRunning = true) : system.coordinator.isTriggered = true := by
  obtain ⟨_, _, underway⟩ := runs.underway_of_isRunning running
  simpa [isTriggered] using underway.stage.ne_idle

/-- A call is about something it closes or runs, and a call that was made there has not come
back. -/
structure Caught (system : System) (outer inner : Nat) : Prop where
  busy : ∃ work rest, system.calls outer = .busy work rest
  held : system.calls inner = .arrived ∨ system.calls inner = .asleep

namespace Caught

/-- A call is moved on that is not the outer one; if it is the inner one, it stays before its end.
-/
theorem move (caught : Caught system outer inner) (aside : outer ≠ call)
    (own : inner = call → progress = .arrived ∨ progress = .asleep) :
    Caught (system.move call progress) outer inner where
  busy := by
    obtain ⟨work, rest, busy⟩ := caught.busy
    exact ⟨work, rest, (System.calls_move_of_ne _ _ aside).trans busy⟩
  held := by
    by_cases same : inner = call
    · subst same
      rw [System.calls_move_self]
      exact own rfl
    · rw [System.calls_move_of_ne _ _ same]
      exact caught.held

/-- Until the outer call goes on, nothing of the shutdown happens and no trigger comes back. -/
theorem step (caught : Caught system outer inner) (underway : Underway outer taken after system)
    (stepped : Step system event next) (stays : event.resumes? ≠ some outer) :
    Caught next outer inner ∧ event.ofShutdown = false := by
  obtain ⟨work, rest, busy⟩ := caught.busy
  have status := underway.status_of_busy busy
  have aside {call : Nat} {progress : Progress} (reached : system.calls call = progress)
      (other : progress ≠ .busy work rest) : outer ≠ call := by
    rintro rfl
    exact other (reached.symm.trans busy)
  cases stepped with
  | registered | reregistered | registrationRefused | deregistered | numbered | added
  | additionRefused | removed => exact ⟨⟨caught.busy, caught.held⟩, rfl⟩
  | called absent => exact ⟨caught.move (aside absent nofun) fun _ => .inl rfl, rfl⟩
  | slept arrived => exact ⟨caught.move (aside arrived nofun) fun _ => .inr rfl, rfl⟩
  | woke asleep => exact ⟨caught.move (aside asleep nofun) fun _ => .inl rfl, rfl⟩
  | took _ idle => cases status.symm.trans (enter_eq_begun_iff.1 idle).1
  | late _ done => cases status.symm.trans (enter_eq_finished_iff.1 done)
  | ended resumed | threw resumed =>
    obtain rfl := underway.eq_winner resumed nofun
    exact absurd rfl stays
  | began reached | finished reached | unwound reached | returned reached | rethrew reached =>
    obtain rfl := underway.eq_winner reached nofun
    cases busy.symm.trans reached

end Caught

end

/-- A system in which it is known whose thread a call is made in. -/
structure Threads where
  system : System
  /-- The call in whose course another one is made, by something that it closes or runs. -/
  within : Nat → Option Nat := fun _ => none

namespace Threads

/-- Whether every call that was made in the course of another one is over. -/
def Free (threads : Threads) (call : Nat) : Prop :=
  ∀ inner, threads.within inner = some call → (threads.system.calls inner).isOver = true

/-- One event. A call is made by what another call closes or runs, or in a thread of its own, and
what a call closes or runs does not come back before the calls that it made are over. -/
inductive Step : Threads → Event → Threads → Prop where
  | inside {threads outer inner work rest system}
      (busy : threads.system.calls outer = .busy work rest) (free : threads.Free outer)
      (called : ShutdownCoordinator.Step threads.system (.called inner) system) :
      Step threads (.called inner)
        { system, within := Function.update threads.within inner (some outer) }
  | aside {threads event system}
      (stepped : ShutdownCoordinator.Step threads.system event system)
      (free : ∀ call, event.resumes? = some call → threads.Free call) :
      Step threads event { threads with system }

/-- What can happen to a new coordinator, and where it leads. -/
inductive Runs : List Event → Threads → Prop where
  | initial (signalHook : Bool) : Runs [] { system := { coordinator := { signalHook } } }
  | step {events threads event next} (prior : Runs events threads)
      (taken : Step threads event next) : Runs (events ++ [event]) next

/-- Events one after the other. -/
inductive Steps : Threads → List Event → Threads → Prop where
  | nil {threads} : Steps threads [] threads
  | cons {threads event next events final} (taken : Step threads event next)
      (rest : Steps next events final) : Steps threads (event :: events) final

/-- A call that runs a shutdown waits for its end: it called a trigger in the course of it, which
sleeps. -/
def WaitsForItself (threads : Threads) (call : Nat) : Prop :=
  (threads.system.calls call).isRunning = true ∧
    ∃ inner, threads.within inner = some call ∧ threads.system.calls inner = .asleep

/-- A call runs a shutdown that stands still: whatever happens, nothing of it does, and no trigger
comes back. -/
def Stuck (threads : Threads) (call : Nat) : Prop :=
  (threads.system.calls call).isRunning = true ∧
    ∀ later final, Steps threads later final → ∀ event ∈ later, event.ofShutdown = false

/-- A call can come to its end by what it does itself. -/
def Ends (threads : Threads) (call : Nat) : Prop :=
  ∃ later final, Steps threads later final ∧ (∀ event ∈ later, event.worker? = some call) ∧
    (final.system.calls call).isOver = true

section

variable {threads next final : Threads} {event : Event} {events later : List Event}
  {outer inner call : Nat}

/-- Which thread a call is made in makes no difference to the coordinator. -/
theorem Step.system (step : Step threads event next) :
    ShutdownCoordinator.Step threads.system event next.system := by
  cases step with
  | inside _ _ called => exact called
  | aside stepped _ => exact stepped

/-- Every run with threads is a run. -/
theorem Runs.system (runs : Runs events threads) :
    ShutdownCoordinator.Runs events threads.system := by
  induction runs with
  | initial signalHook => exact .initial signalHook
  | step _ taken ih => exact ih.step taken.system

/-- A run goes on with whatever can happen next. -/
theorem Runs.append (runs : Runs events threads) (steps : Steps threads later final) :
    Runs (events ++ later) final := by
  induction steps generalizing events with
  | nil => simpa using runs
  | cons taken _ ih =>
    rw [List.append_cons]
    exact ih (runs.step taken)

/-- A call that has not come back keeps the one in whose course it was made. -/
theorem not_free (caught : Caught threads.system outer inner)
    (within : threads.within inner = some outer) : ¬ threads.Free outer := by
  intro free
  have ended := free inner within
  obtain arrived | asleep := caught.held
  · rw [arrived] at ended
    cases ended
  · rw [asleep] at ended
    cases ended

/-- A call that was made in the course of another one stays caught in it, and meanwhile nothing of
the shutdown happens. -/
theorem Step.stays_caught (step : Step threads event next) (runs : Runs events threads)
    (caught : Caught threads.system outer inner) (within : threads.within inner = some outer) :
    Caught next.system outer inner ∧ next.within inner = some outer ∧
      event.ofShutdown = false := by
  obtain ⟨work, rest, busy⟩ := caught.busy
  obtain ⟨taken, after, underway⟩ := runs.system.underway_of_isRunning (by rw [busy]; rfl)
  have stays : event.resumes? ≠ some outer := by
    cases step with
    | inside => nofun
    | aside _ free => exact fun resumed => not_free caught within (free outer resumed)
  obtain ⟨caught', silent⟩ := caught.step underway step.system stays
  refine ⟨caught', ?_, silent⟩
  cases step with
  | aside => exact within
  | @inside _ made _ _ _ _ _ called =>
    cases called with
    | called absent =>
      have older : inner ≠ made := by
        rintro rfl
        obtain arrived | asleep := caught.held
        · cases arrived.symm.trans absent
        · cases asleep.symm.trans absent
      exact (Function.update_of_ne older ..).trans within

/-- Every call that was made in the course of another one is caught in it. -/
theorem Runs.caught (runs : Runs events threads) (within : threads.within inner = some outer) :
    Caught threads.system outer inner := by
  induction runs with
  | initial => cases within
  | @step _ threads _ _ prior taken ih =>
    by_cases before : threads.within inner = some outer
    · exact (taken.stays_caught prior (ih before) before).1
    · cases taken with
      | aside => exact absurd within before
      | @inside other made work rest _ busy _ called =>
        obtain rfl : inner = made := by
          by_contra older
          exact before ((Function.update_of_ne older ..).symm.trans within)
        obtain rfl : other = outer := by simpa using within
        cases called with
        | called absent =>
          have differs : other ≠ inner := by
            rintro rfl
            cases busy.symm.trans absent
          exact ⟨⟨work, rest, (System.calls_move_of_ne _ _ differs).trans busy⟩,
            .inl (System.calls_move_self ..)⟩

/-- A call that was made in the course of a shutdown keeps it from going on for ever: whatever
happens later, nothing of the shutdown does. -/
theorem Steps.silent (steps : Steps threads later final) (runs : Runs events threads)
    (within : threads.within inner = some outer) :
    ∀ event ∈ later, event.ofShutdown = false := by
  induction steps generalizing events with
  | nil => simp
  | cons taken _ ih =>
    obtain ⟨-, within', silent⟩ := taken.stays_caught runs (runs.caught within) within
    exact List.forall_mem_cons.2 ⟨silent, ih (runs.step taken) within'⟩

/-- What a call does itself takes it on, if nothing was called in its course. -/
theorem Ends.of_step {system : System}
    (stepped : ShutdownCoordinator.Step threads.system event system)
    (own : event.worker? = some call) (alone : ∀ inner, threads.within inner ≠ some call)
    (ends : Ends { threads with system } call) : threads.Ends call := by
  obtain ⟨later, final, steps, owns, ended⟩ := ends
  refine ⟨event :: later, final, .cons (.aside stepped ?_) steps,
    List.forall_mem_cons.2 ⟨own, owns⟩, ended⟩
  intro resumed resumes inner within
  have same := (Event.worker?_of_resumes? resumes).symm.trans own
  exact absurd (within.trans same) (alone inner)

/-- The end of a shutdown that is marked as finished. -/
theorem ends_of_leaving {completed : Bool}
    (leaving : threads.system.calls call = .leaving completed)
    (alone : ∀ inner, threads.within inner ≠ some call) : threads.Ends call := by
  cases completed with
  | true =>
    refine .of_step (.returned leaving) rfl alone ⟨[], _, .nil, by simp, ?_⟩
    simp [Progress.isOver]
  | false =>
    refine .of_step (.rethrew leaving) rfl alone ⟨[], _, .nil, by simp, ?_⟩
    simp [Progress.isOver]

/-- What the call is about comes back. -/
theorem Ends.of_busy {work : ShutdownWork} {rest : List ShutdownWork}
    (busy : threads.system.calls call = .busy work rest)
    (alone : ∀ inner, threads.within inner ≠ some call)
    (ends : Ends { threads with system := threads.system.move call (.working rest) } call) :
    threads.Ends call :=
  have ended : ShutdownCoordinator.Step threads.system (.ended call none) _ := .ended busy
  .of_step ended rfl alone ends

/-- The rest of the work is done one thing after the other. -/
theorem ends_of_working {rest : List ShutdownWork}
    (working : threads.system.calls call = .working rest)
    (alone : ∀ inner, threads.within inner ≠ some call) : threads.Ends call := by
  induction rest generalizing threads with
  | nil =>
    refine .of_step (.finished working) rfl alone ?_
    exact ends_of_leaving (System.calls_move_self ..) alone
  | cons work rest ih =>
    refine .of_step (.began working) rfl alone ?_
    refine .of_busy (System.calls_move_self ..) alone ?_
    exact ih (System.calls_move_self ..) alone

/-- A call that runs a shutdown can come to its end, if nothing was called in its course. -/
theorem ends_of_isRunning (running : (threads.system.calls call).isRunning = true)
    (alone : ∀ inner, threads.within inner ≠ some call) : threads.Ends call := by
  cases reached : threads.system.calls call with
  | working rest => exact ends_of_working reached alone
  | busy work rest =>
    refine .of_busy reached alone ?_
    exact ends_of_working (System.calls_move_self ..) alone
  | unwinding =>
    refine .of_step (.unwound reached) rfl alone ?_
    exact ends_of_leaving (System.calls_move_self ..) alone
  | leaving completed => exact ends_of_leaving reached alone
  | absent | arrived | asleep | returned | thrown =>
    rw [reached] at running
    cases running

/-- A shutdown stands still exactly if a trigger was called in the course of it. -/
theorem Runs.stuck_iff (runs : Runs events threads) :
    threads.Stuck call ↔ ∃ inner, threads.within inner = some call := by
  constructor
  · rintro ⟨running, still⟩
    by_contra none
    obtain ⟨later, final, steps, own, ended⟩ :=
      ends_of_isRunning running fun inner within => none ⟨inner, within⟩
    cases steps with
    | nil => cases ended.symm.trans (Progress.isOver_of_isRunning running)
    | @cons _ event _ _ _ taken rest =>
      have acts := Event.ofShutdown_of_worker? (own event List.mem_cons_self)
      cases acts.symm.trans (still _ _ (.cons taken rest) event List.mem_cons_self)
  · rintro ⟨inner, within⟩
    obtain ⟨work, rest, busy⟩ := (runs.caught within).busy
    exact ⟨by rw [busy]; rfl, fun _ _ steps => steps.silent runs within⟩

/-- A trigger that was called in the course of a shutdown sleeps until the shutdown is finished, and
changes nothing. -/
theorem Runs.waits (runs : Runs events threads) (within : threads.within inner = some call) :
    ∃ later final, Steps threads later final ∧ (∀ event ∈ later, event = .slept inner) ∧
      final.system.coordinator = threads.system.coordinator ∧ final.WaitsForItself call := by
  have caught := runs.caught within
  obtain ⟨work, rest, busy⟩ := caught.busy
  have running : (threads.system.calls call).isRunning = true := by rw [busy]; rfl
  obtain arrived | asleep := caught.held
  · obtain ⟨_, _, underway⟩ := runs.system.underway_of_isRunning running
    have occupied := enter_eq_occupied_iff.2 (underway.status_of_busy busy)
    have differs : call ≠ inner := by
      rintro rfl
      cases busy.symm.trans arrived
    refine ⟨[.slept inner], _, .cons (.aside (.slept arrived occupied) nofun) .nil, by simp, rfl,
      ?_, inner, within, System.calls_move_self ..⟩
    rwa [System.calls_move_of_ne _ _ differs]
  · exact ⟨[], threads, .nil, by simp, rfl, running, inner, within, asleep⟩

end

/-- Every operation but a trigger comes back, whatever the calls are about. -/
structure Operable (threads : Threads) : Prop where
  registers : ∀ container, ∃ event next, Step threads event next ∧
    event ∈ [.registered container, .reregistered container, .registrationRefused container]
  deregisters : ∀ container, ∃ next, Step threads (.deregistered container) next
  adds : ∀ stage name participant, ∃ id between event next,
    Step threads (.numbered id) between ∧ Step between event next ∧
      event ∈ [.added stage { id, name, participant },
        .additionRefused stage { id, name, participant }]
  removes : ∀ id, ∃ next, Step threads (.removed id) next
  /-- Whoever asks whether the coordinator was triggered is told at once, and changes nothing. -/
  asks : ∀ invoke ref world, Mirrors threads.system ref world →
    ∃ held, ((Command.coordinator ref).carryOut invoke).result world = (.ok held, world) ∧
      held.isTriggered = threads.system.coordinator.isTriggered

/-- No operation but a trigger waits for anything. -/
theorem operable (threads : Threads) : threads.Operable where
  registers container := by
    cases answer : threads.system.coordinator.register container with
    | refused => exact ⟨_, _, .aside (.registrationRefused answer) nofun, by simp⟩
    | present => exact ⟨_, _, .aside (.reregistered answer) nofun, by simp⟩
    | added => exact ⟨_, _, .aside (.registered answer) nofun, by simp⟩
  deregisters _ := ⟨_, .aside .deregistered nofun⟩
  adds stage name participant := by
    cases taken : threads.system.coordinator.takeNumber with
    | mk id numbered =>
      have known : id ∈ id :: threads.system.numbers := List.mem_cons_self
      have first := Step.aside (.numbered taken) nofun
      cases answer : numbered.addAction stage { id, name, participant } with
      | none =>
        exact ⟨id, _, _, _, first, .aside (.additionRefused known answer) nofun, by simp⟩
      | some =>
        exact ⟨id, _, _, _, first, .aside (.added known answer) nofun, by simp⟩
  removes _ := ⟨_, .aside .removed nofun⟩
  asks _ ref world mirrors := ⟨world.coordinator ref, rfl, by rw [mirrors.coordinator]⟩

/-- What a trigger that is called in the course of a shutdown does to it. -/
structure Reentrant (threads : Threads) : Prop where
  /-- A shutdown stands still for ever exactly if a trigger was called in the course of it. -/
  stuck_iff : ∀ call, threads.Stuck call ↔ ∃ inner, threads.within inner = some call
  /-- That trigger sleeps until the shutdown is finished, so that the shutdown waits for itself. -/
  waits : ∀ call inner, threads.within inner = some call →
    ∃ later final, Steps threads later final ∧ (∀ event ∈ later, event = .slept inner) ∧
      final.system.coordinator = threads.system.coordinator ∧ final.WaitsForItself call
  /-- While something is being closed or run, a trigger that one thread carries out is a
  deadlock. -/
  deadlocks : ∀ call work rest, threads.system.calls call = .busy work rest →
    ∀ invoke ref world, Mirrors threads.system ref world →
      (trigger invoke ref).result world = (.error .deadlocked, world)
  /-- Without such a trigger a shutdown never waits for itself, and its call can come to its end. -/
  ends : ∀ call, (threads.system.calls call).isRunning = true →
    (∀ inner, threads.within inner ≠ some call) → ¬ threads.WaitsForItself call ∧ threads.Ends call
  /-- The other operations come back even from inside a shutdown. -/
  operable : threads.Operable
  /-- Whoever asks there is told that the shutdown has begun. -/
  triggered : ∀ call, (threads.system.calls call).isRunning = true →
    threads.system.coordinator.isTriggered = true

/-- A shutdown waits for itself exactly if something that it closes or runs calls a trigger of the
same coordinator; any other operation may be called there. -/
theorem Runs.reentrant {events : List Event} {threads : Threads} (runs : Runs events threads) :
    threads.Reentrant where
  stuck_iff _ := runs.stuck_iff
  waits _ _ := runs.waits
  deadlocks call work rest busy invoke ref world mirrors := by
    obtain ⟨_, _, underway⟩ := runs.system.underway_of_isRunning (by rw [busy]; rfl)
    have occupied : (world.coordinator ref).enter = .occupied := by
      rw [mirrors.coordinator]
      exact enter_eq_occupied_iff.2 (underway.status_of_busy busy)
    have begins : (trigger invoke ref).result world =
        (proceed invoke ref (world.coordinator ref).enter).result world := rfl
    rw [begins, occupied]
    rfl
  ends _ running alone :=
    ⟨fun ⟨_, inner, within, _⟩ => alone inner within, ends_of_isRunning running alone⟩
  operable := threads.operable
  triggered _ := runs.system.isTriggered_of_isRunning

/-- A shutdown whose only action calls a trigger. -/
def reentering : List Event :=
  let again : ShutdownAction := { id := ⟨1⟩, name := "again", participant := "again" }
  [.numbered ⟨1⟩, .added .shutdown again, .called 0,
    .took 0 { containers := [], actions := [again], postClose := [] }, .began 0 (.run again),
    .called 1, .slept 1]

/-- The schedule can happen, and in the end the shutdown waits for itself. -/
theorem runs_reentering :
    ∃ threads, Runs reentering threads ∧ threads.within 1 = some 0 ∧ threads.WaitsForItself 0 := by
  have steps : ∃ threads, Steps { system := { coordinator := {} } } reentering threads ∧
      threads.within 1 = some 0 ∧ threads.WaitsForItself 0 :=
    ⟨_, .cons (.aside (.numbered rfl) nofun) <| .cons (.aside (.added (by decide) rfl) nofun) <|
      .cons (.aside (.called rfl) nofun) <| .cons (.aside (.took rfl rfl) nofun) <|
      .cons (.aside (.began rfl) nofun) <|
      .cons (@Step.inside _ 0 1 _ _ _ rfl nofun (.called rfl)) <|
      .cons (.aside (.slept rfl rfl) nofun) .nil, rfl, rfl, 1, rfl, rfl⟩
  obtain ⟨threads, steps, within, waits⟩ := steps
  exact ⟨threads, (Runs.initial false).append steps, within, waits⟩

/-- There is a run in which a shutdown stands still for ever. -/
theorem Runs.reentrant_reentering :
    ∃ threads, Runs reentering threads ∧ threads.Reentrant ∧ threads.Stuck 0 := by
  obtain ⟨threads, runs, within, -⟩ := runs_reentering
  exact ⟨threads, runs, runs.reentrant, (runs.reentrant.stuck_iff 0).2 ⟨1, within⟩⟩

end Threads

/-- The action of a shutdown triggers the coordinator again. -/
def triggersAgain : Behaviour
  | .shutdownAction _ => .perform (.trigger ⟨0⟩) fun _ => .done ()
  | _ => .panic "unexpected call"

/-- Adds an action and begins a shutdown. -/
def shutsDownOne : Program Bool :=
  .perform (.addAction ⟨0⟩ .shutdown "again" "again") fun _ =>
    .perform (.trigger ⟨0⟩) fun answer => .done answer

/-- A trigger that an action calls never comes back, nor does the shutdown that runs the action. -/
theorem shutdown_waits_for_itself :
    (∃ threads, Threads.Runs Threads.reentering threads ∧ threads.WaitsForItself 0) ∧
      ∃ last, (shutsDownOne.carryOut (triggersAgain.invoker 1 0)).run.run { coordinators := [{}] } =
        (.error .deadlocked, last) ∧ (last.coordinator ⟨0⟩).status = .inProgress := by
  obtain ⟨threads, runs, -, waits⟩ := Threads.runs_reentering
  exact ⟨⟨threads, runs, waits⟩, _, rfl, rfl⟩

end Launchpad.ShutdownCoordinator
