import Launchpad.Proofs.Shutdown.Registration

/-!
# One shutdown, exactly once

The call that takes the registrations is alone in working on them, whatever other callers do at the
same time. `Underway` says what holds from that moment on; every event keeps it.
-/

namespace Launchpad.ShutdownCoordinator

namespace Event

/-- What is told to close or to run. -/
def work? : Event → Option ShutdownWork
  | began _ work => some work
  | _ => none

/-- The call whose shutdown the event belongs to, once it took the registrations. -/
def worker? : Event → Option Nat
  | began call _ | ended call _ | threw call _ | finished call | returned call true
  | rethrew call => some call
  | _ => none

/-- Whether a call begins a shutdown. -/
def takes : Event → Bool
  | took _ _ => true
  | _ => false

end Event

/-- Everything that was told to close or to run, in order. -/
def workIn (events : List Event) : List ShutdownWork := events.filterMap Event.work?

/-- An event that tells nothing to close or to run. -/
theorem workIn_append_of_none {event : Event} (idle : event.work? = none) (events : List Event) :
    workIn (events ++ [event]) = workIn events := by
  simp [workIn, idle]

/-- The work of a history grows by what begins. -/
@[simp] theorem workIn_append_began (events : List Event) (call : Nat) (work : ShutdownWork) :
    workIn (events ++ [.began call work]) = workIn events ++ [work] := by
  simp [workIn, Event.work?]

/-- A call did all the work it took. -/
structure Completed (winner : Nat) (taken : Registrations) (after : List Event) : Prop where
  unharmed : ∀ work, Event.threw winner work ∉ after
  work : workIn after = taken.work

/-- A call did the work it took up to a thing that threw. -/
inductive Broken (winner : Nat) (taken : Registrations) (after : List Event) : Prop where
  | at_work (done : List ShutdownWork) (work : ShutdownWork) (rest : List ShutdownWork)
      (split : taken.work = done ++ work :: rest) (stopped : workIn after = done ++ [work])
      (threw : Event.threw winner work ∈ after)

/-- How far the call that took the registrations has come, and the status of the coordinator. -/
inductive Stage (winner : Nat) (taken : Registrations) (after : List Event) :
    Progress → ShutdownStatus → Prop where
  | working {rest} (unharmed : ∀ work, Event.threw winner work ∉ after)
      (split : taken.work = workIn after ++ rest) :
      Stage winner taken after (.working rest) .inProgress
  | busy {done work rest} (unharmed : ∀ work, Event.threw winner work ∉ after)
      (begun : workIn after = done ++ [work]) (split : taken.work = done ++ work :: rest) :
      Stage winner taken after (.busy work rest) .inProgress
  | unwinding (broken : Broken winner taken after) :
      Stage winner taken after .unwinding .inProgress
  | leaving (completed : Completed winner taken after) :
      Stage winner taken after (.leaving true) .done
  | leavingBroken (broken : Broken winner taken after) :
      Stage winner taken after (.leaving false) .done
  | returned (completed : Completed winner taken after) :
      Stage winner taken after (.returned true) .done
  | thrown (broken : Broken winner taken after) : Stage winner taken after .thrown .done

section

variable {winner : Nat} {taken : Registrations} {after : List Event} {event : Event}

/-- An event that is not part of the shutdown of a call. -/
theorem unharmed_append (unharmed : ∀ work, Event.threw winner work ∉ after)
    (calm : ∀ work, event ≠ .threw winner work) :
    ∀ work, Event.threw winner work ∉ after ++ [event] := by
  intro work member
  obtain before | last := List.mem_append.1 member
  · exact unharmed work before
  · exact calm work (List.mem_singleton.1 last).symm

/-- A shutdown that has done everything stays so while nothing throws and nothing else begins. -/
theorem Completed.append (completed : Completed winner taken after)
    (calm : ∀ work, event ≠ .threw winner work) (idle : event.work? = none) :
    Completed winner taken (after ++ [event]) where
  unharmed := unharmed_append completed.unharmed calm
  work := (workIn_append_of_none idle after).trans completed.work

/-- A shutdown that was broken off stays so while nothing else begins. -/
theorem Broken.append (broken : Broken winner taken after) (idle : event.work? = none) :
    Broken winner taken (after ++ [event]) := by
  obtain ⟨done, work, rest, split, stopped, threw⟩ := broken
  have same := workIn_append_of_none idle after
  exact ⟨done, work, rest, split, same.trans stopped, List.mem_append_left _ threw⟩

/-- A shutdown that has begun is not forgotten. -/
theorem Stage.ne_idle {progress : Progress} {status : ShutdownStatus}
    (stage : Stage winner taken after progress status) : status ≠ .idle := by
  cases stage <;> exact fun same => by cases same

/-- Whoever has left marked the shutdown as finished before. -/
theorem Stage.done_of_gone {progress : Progress} {status : ShutdownStatus}
    (stage : Stage winner taken after progress status)
    (gone : progress = .returned true ∨ progress = .thrown) : status = .done := by
  obtain rfl | rfl := gone <;> cases stage <;> rfl

/-- An event that is not part of the shutdown leaves its stage alone. -/
theorem Stage.append {progress : Progress} {status : ShutdownStatus}
    (stage : Stage winner taken after progress status) (outside : event.worker? = none) :
    Stage winner taken (after ++ [event]) progress status := by
  have calm : ∀ work, event ≠ .threw winner work := by
    rintro work rfl
    cases outside
  have idle : event.work? = none := by cases event <;> first | rfl | cases outside
  have same := workIn_append_of_none idle after
  cases stage with
  | working unharmed split => exact .working (unharmed_append unharmed calm) (by rw [same, split])
  | busy unharmed begun split =>
    exact .busy (unharmed_append unharmed calm) (same.trans begun) split
  | unwinding broken => exact .unwinding (broken.append idle)
  | leaving completed => exact .leaving (completed.append calm idle)
  | leavingBroken broken => exact .leavingBroken (broken.append idle)
  | returned completed => exact .returned (completed.append calm idle)
  | thrown broken => exact .thrown (broken.append idle)

end

/-- What a call that did not take the registrations can be about. -/
inductive Bystander : Progress → Prop where
  | absent : Bystander .absent
  | arrived : Bystander .arrived
  | asleep : Bystander .asleep
  | late : Bystander (.returned false)

/-- The state from the moment on in which a call took the registrations. -/
structure Underway (winner : Nat) (taken : Registrations) (after : List Event) (system : System) :
    Prop where
  stage : Stage winner taken after (system.calls winner) system.coordinator.status
  finished : Event.finished winner ∈ after ↔ system.coordinator.status = .done
  others : ∀ call, call ≠ winner → Bystander (system.calls call)
  awake : system.calls winner = .returned true ∨ system.calls winner = .thrown →
    ∀ call, system.calls call ≠ .asleep
  own : ∀ event ∈ after, ∀ call, event.worker? = some call → call = winner
  closed : ∀ event ∈ after, event.accepts = false ∧ event.takes = false
  returned : Event.returned winner true ∈ after → system.calls winner = .returned true
  rethrew : Event.rethrew winner ∈ after → system.calls winner = .thrown
  numbered : Numbered system.coordinator.nextAction system.numbers
    (taken.actions ++ taken.postClose)
  refused : ∀ stage action, Event.additionRefused stage action ∈ after →
    ∀ held ∈ taken.actions ++ taken.postClose, held.id ≠ action.id

section

variable {winner : Nat} {taken : Registrations} {after : List Event} {event : Event}
  {system next : System}

/-- Whoever began a shutdown closed the coordinator. -/
theorem Underway.accepting_eq_false (underway : Underway winner taken after system) :
    system.coordinator.accepting = false := by
  simp [accepting, underway.stage.ne_idle]

/-- An event that is none of the shutdown's own. -/
theorem mem_of_mem_append_singleton {earlier : Event} (member : earlier ∈ after ++ [event])
    (different : earlier ≠ event) : earlier ∈ after := by
  simpa [different] using member

/-- What happens outside the shutdown while it is under way. -/
theorem Underway.outside (underway : Underway winner taken after system)
    (outside : event.worker? = none) (closed : event.accepts = false ∧ event.takes = false)
    (stays : next.calls winner = system.calls winner)
    (status : next.coordinator.status = system.coordinator.status)
    (others : ∀ call, call ≠ winner → Bystander (next.calls call))
    (awake : system.calls winner = .returned true ∨ system.calls winner = .thrown →
      ∀ call, next.calls call ≠ .asleep)
    (numbered : Numbered next.coordinator.nextAction next.numbers
      (taken.actions ++ taken.postClose))
    (refused : ∀ stage action, event = .additionRefused stage action →
      ∀ held ∈ taken.actions ++ taken.postClose, held.id ≠ action.id) :
    Underway winner taken (after ++ [event]) next := by
  have other {own : Event} {call : Nat} (working : own.worker? = some call) : own ≠ event := by
    rintro rfl
    cases outside.symm.trans working
  exact {
    stage := by
      rw [stays, status]
      exact underway.stage.append outside
    finished := by
      rw [status, ← underway.finished]
      exact ⟨fun member => mem_of_mem_append_singleton member (other rfl), List.mem_append_left _⟩
    others
    awake := fun gone => awake (stays ▸ gone)
    own := by
      intro earlier member call working
      exact underway.own earlier (mem_of_mem_append_singleton member (other working)) call working
    closed := List.forall_mem_append.2 ⟨underway.closed, List.forall_mem_singleton.2 closed⟩
    returned := fun member =>
      stays.trans (underway.returned (mem_of_mem_append_singleton member (other rfl)))
    rethrew := fun member =>
      stays.trans (underway.rethrew (mem_of_mem_append_singleton member (other rfl)))
    numbered
    refused := by
      intro stage action member
      obtain before | last := List.mem_append.1 member
      · exact underway.refused stage action before
      · exact refused stage action (List.mem_singleton.1 last).symm }

/-- What the shutdown itself does next. -/
theorem Underway.inside (underway : Underway winner taken after system)
    (working : event.worker? = some winner)
    (active : system.calls winner ≠ .returned true ∧ system.calls winner ≠ .thrown)
    (stage : Stage winner taken (after ++ [event]) (next.calls winner) next.coordinator.status)
    (finished : Event.finished winner ∈ after ++ [event] ↔ next.coordinator.status = .done)
    (others : ∀ call, call ≠ winner →
      next.calls call = system.calls call ∨ next.calls call = .arrived)
    (awake : next.calls winner = .returned true ∨ next.calls winner = .thrown →
      ∀ call, next.calls call ≠ .asleep)
    (returned : event = .returned winner true → next.calls winner = .returned true)
    (rethrew : event = .rethrew winner → next.calls winner = .thrown)
    (nextAction : next.coordinator.nextAction = system.coordinator.nextAction)
    (numbers : next.numbers = system.numbers) :
    Underway winner taken (after ++ [event]) next where
  stage := stage
  finished := finished
  others call different := by
    obtain same | arrived := others call different
    · rw [same]
      exact underway.others call different
    · rw [arrived]
      exact .arrived
  awake := awake
  own := by
    refine List.forall_mem_append.2 ⟨underway.own, List.forall_mem_singleton.2 fun call other => ?_⟩
    exact (Option.some.inj (working.symm.trans other)).symm
  closed := by
    refine List.forall_mem_append.2 ⟨underway.closed, List.forall_mem_singleton.2 ?_⟩
    cases event <;> first | exact ⟨rfl, rfl⟩ | cases working
  returned member := by
    obtain before | last := List.mem_append.1 member
    · exact absurd (underway.returned before) active.1
    · exact returned (List.mem_singleton.1 last).symm
  rethrew member := by
    obtain before | last := List.mem_append.1 member
    · exact absurd (underway.rethrew before) active.2
    · exact rethrew (List.mem_singleton.1 last).symm
  numbered := by
    rw [nextAction, numbers]
    exact underway.numbered
  refused stage action member := by
    obtain before | last := List.mem_append.1 member
    · exact underway.refused stage action before
    · obtain rfl := List.mem_singleton.1 last
      cases working

/-- A call that works on the registrations is the one that took them. -/
theorem Underway.eq_winner (underway : Underway winner taken after system) {call : Nat}
    {progress : Progress} (reached : system.calls call = progress)
    (busy : ¬ Bystander progress) : call = winner := by
  by_contra different
  exact busy (reached ▸ underway.others call different)

/-- Another call comes, sleeps, wakes or leaves. -/
theorem Underway.move_other (underway : Underway winner taken after system) {call : Nat}
    {progress : Progress} (different : call ≠ winner) (outside : event.worker? = none)
    (closed : event.accepts = false ∧ event.takes = false ∧ event.refuses = false)
    (bystander : Bystander progress)
    (sleeps : progress = .asleep → system.coordinator.status ≠ .done) :
    Underway winner taken (after ++ [event]) (system.move call progress) := by
  have stays := system.calls_move_of_ne progress different.symm
  refine underway.outside outside ⟨closed.1, closed.2.1⟩ stays rfl ?_ ?_ underway.numbered ?_
  · intro other away
    by_cases same : other = call
    · subst same
      rw [System.calls_move_self]
      exact bystander
    · rw [System.calls_move_of_ne _ _ same]
      exact underway.others other away
  · intro gone other
    have done : system.coordinator.status = .done := underway.stage.done_of_gone gone
    by_cases same : other = call
    · subst same
      rw [System.calls_move_self]
      exact fun asleep => sleeps asleep done
    · rw [System.calls_move_of_ne _ _ same]
      exact underway.awake gone other
  · rintro stage action rfl
    cases closed.2.2

/-- A call that has not met the lock is not the one that took the registrations. -/
theorem Underway.ne_winner (underway : Underway winner taken after system) {call : Nat}
    {progress : Progress} (reached : system.calls call = progress)
    (outside : progress = .absent ∨ progress = .arrived ∨ progress = .asleep) : call ≠ winner := by
  rintro rfl
  have stage := underway.stage
  rw [reached] at stage
  obtain rfl | rfl | rfl := outside <;> cases stage

/-- Only one event marks the shutdown as finished. -/
theorem Underway.finished_append (underway : Underway winner taken after system)
    (other : event ≠ .finished winner) :
    Event.finished winner ∈ after ++ [event] ↔ system.coordinator.status = .done := by
  rw [← underway.finished]
  simp [other.symm]

/-- The shutdown goes on, and its call stays. -/
theorem Underway.move_own (underway : Underway winner taken after system)
    {coordinator : ShutdownCoordinator} {progress : Progress}
    (working : event.worker? = some winner) (back : event ≠ .returned winner true)
    (thrown : event ≠ .rethrew winner)
    (active : system.calls winner ≠ .returned true ∧ system.calls winner ≠ .thrown)
    (stays : progress ≠ .returned true ∧ progress ≠ .thrown)
    (stage : Stage winner taken (after ++ [event]) progress coordinator.status)
    (finished : Event.finished winner ∈ after ++ [event] ↔ coordinator.status = .done)
    (nextAction : coordinator.nextAction = system.coordinator.nextAction) :
    Underway winner taken (after ++ [event])
      ((system.change coordinator).move winner progress) := by
  refine underway.inside working active ?_ finished ?_ ?_ (fun same => absurd same back)
    (fun same => absurd same thrown) nextAction rfl
  · rw [System.calls_move_self]
    exact stage
  · exact fun other away => .inl (System.calls_move_of_ne _ _ away)
  · rw [System.calls_move_self]
    rintro (same | same)
    · exact absurd same stays.1
    · exact absurd same stays.2

/-- The call of the shutdown wakes everybody and leaves. -/
theorem Underway.leave (underway : Underway winner taken after system) {progress : Progress}
    (working : event.worker? = some winner) (unfinished : event ≠ .finished winner)
    (active : system.calls winner ≠ .returned true ∧ system.calls winner ≠ .thrown)
    (stage : Stage winner taken (after ++ [event]) progress system.coordinator.status)
    (returned : event = .returned winner true → progress = .returned true)
    (rethrew : event = .rethrew winner → progress = .thrown) (gone : progress ≠ .asleep) :
    Underway winner taken (after ++ [event]) (system.wakeAll.move winner progress) := by
  refine underway.inside working active ?_ (underway.finished_append unfinished) ?_ ?_ ?_ ?_ rfl rfl
  · rw [System.calls_move_self]
    exact stage
  · intro other away
    rw [System.calls_move_of_ne _ _ away]
    by_cases asleep : system.calls other = .asleep
    · exact .inr (by simp [System.wakeAll, asleep])
    · exact .inl (System.calls_wakeAll_of_ne asleep)
  · intro _ other
    by_cases same : other = winner
    · rw [same, System.calls_move_self]
      exact gone
    · rw [System.calls_move_of_ne _ _ same]
      exact system.calls_wakeAll_ne other
  · rwa [System.calls_move_self]
  · rwa [System.calls_move_self]

/-- Every event keeps the shutdown on its course. -/
theorem Underway.step (underway : Underway winner taken after system)
    (stepped : Step system event next) : Underway winner taken (after ++ [event]) next := by
  have refusing := underway.accepting_eq_false
  have numbered := underway.numbered
  have stage := underway.stage
  generalize status : system.coordinator.status = reached at stage
  cases stepped with
  -- A coordinator whose shutdown is under way takes nothing in.
  | registered accepted =>
    have accepting := (register_eq_added_iff.1 accepted).1
    simp [refusing] at accepting
  | reregistered present =>
    have accepting := (register_eq_present_iff.1 present).1
    simp [refusing] at accepting
  | registrationRefused | deregistered | removed =>
    exact underway.outside rfl ⟨rfl, rfl⟩ rfl rfl underway.others underway.awake numbered
      (fun _ _ same => by cases same)
  | numbered taken =>
    obtain ⟨rfl, rfl⟩ := Prod.mk.inj taken
    exact underway.outside rfl ⟨rfl, rfl⟩ rfl rfl underway.others underway.awake numbered.take
      (fun _ _ same => by cases same)
  | added _ accepted =>
    have accepting := (addAction_eq_some_iff.1 accepted).1
    simp [refusing] at accepting
  | @additionRefused _ action known =>
    refine underway.outside rfl ⟨rfl, rfl⟩ rfl rfl underway.others underway.awake
      (numbered.drop action.id) ?_
    rintro _ _ ⟨⟩ held member
    exact numbered.ne_of_mem known member
  -- The calls that are not the winner come, sleep, wake up and leave without touching the work.
  | @called call absent =>
    have different := underway.ne_winner absent (by simp)
    exact underway.move_other different rfl ⟨rfl, rfl, rfl⟩ .arrived nofun
  | took _ idle => exact absurd (enter_eq_begun_iff.1 idle).1 underway.stage.ne_idle
  | @slept call arrived occupied =>
    have different := underway.ne_winner arrived (by simp)
    refine underway.move_other different rfl ⟨rfl, rfl, rfl⟩ .asleep fun _ done => ?_
    cases done.symm.trans (enter_eq_occupied_iff.1 occupied)
  | @woke call asleep =>
    have different := underway.ne_winner asleep (by simp)
    exact underway.move_other different rfl ⟨rfl, rfl, rfl⟩ .arrived nofun
  | @late call arrived =>
    have different := underway.ne_winner arrived (by simp)
    exact underway.move_other different rfl ⟨rfl, rfl, rfl⟩ .late nofun
  -- Only the winner has work, so each of these events is its own, and its stage says which one it
  -- is.
  | @began call work rest working =>
    obtain rfl := underway.eq_winner working nofun
    rw [working] at stage
    cases stage with
    | working unharmed split =>
      refine underway.move_own rfl nofun nofun (by simp [working]) (by simp) ?_
        (underway.finished_append nofun) rfl
      rw [status]
      exact .busy (unharmed_append unharmed nofun) (workIn_append_began _ _ _) split
  | @ended call work rest failure busy =>
    obtain rfl := underway.eq_winner busy nofun
    rw [busy] at stage
    cases stage with
    | busy unharmed begun split =>
      refine underway.move_own rfl nofun nofun (by simp [busy]) (by simp) ?_
        (underway.finished_append nofun) rfl
      rw [status]
      refine .working (unharmed_append unharmed nofun) ?_
      rw [workIn_append_of_none rfl, begun, split]
      simp
  | @threw call work rest busy =>
    obtain rfl := underway.eq_winner busy nofun
    rw [busy] at stage
    cases stage with
    | @busy done _ _ unharmed begun split =>
      refine underway.move_own rfl nofun nofun (by simp [busy]) (by simp) ?_
        (underway.finished_append nofun) rfl
      rw [status]
      have same : workIn (after ++ [.threw call work]) = workIn after :=
        workIn_append_of_none rfl after
      exact .unwinding ⟨done, work, rest, split, same.trans begun, by simp⟩
  | @finished call idle =>
    obtain rfl := underway.eq_winner idle nofun
    rw [idle] at stage
    cases stage with
    | working unharmed split =>
      refine underway.move_own rfl nofun nofun (by simp [idle]) (by simp) ?_
        (by simp [finish]) rfl
      refine .leaving ⟨unharmed_append unharmed nofun, ?_⟩
      rw [workIn_append_of_none rfl, split, List.append_nil]
  | @unwound call unwinding =>
    obtain rfl := underway.eq_winner unwinding nofun
    rw [unwinding] at stage
    cases stage with
    | unwinding broken =>
      refine underway.move_own rfl nofun nofun (by simp [unwinding]) (by simp) ?_
        (by simp [finish]) rfl
      exact .leavingBroken (broken.append rfl)
  | @returned call leaving =>
    obtain rfl := underway.eq_winner leaving nofun
    rw [leaving] at stage
    cases stage with
    | leaving completed =>
      refine underway.leave rfl nofun (by simp [leaving]) ?_ (fun _ => rfl) nofun nofun
      rw [status]
      exact .returned (completed.append nofun rfl)
  | @rethrew call leaving =>
    obtain rfl := underway.eq_winner leaving nofun
    rw [leaving] at stage
    cases stage with
    | leavingBroken broken =>
      refine underway.leave rfl nofun (by simp [leaving]) ?_ nofun (fun _ => rfl) nofun
      rw [status]
      exact .thrown (broken.append rfl)

end

end Launchpad.ShutdownCoordinator
