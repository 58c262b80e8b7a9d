import Launchpad.Proofs.Shutdown.Schedule

/-!
# What a teardown does to those who wait

A teardown waits like a trigger until no shutdown is under way, and makes the coordinator idle
again. Both are woken together, and whoever has the lock first goes on. A trigger that has waited
looks at the status once more: it answers false, and begins nothing, as long as there was no
teardown, but begins a shutdown of its own if a teardown came first.
-/

namespace Launchpad.ShutdownCoordinator

/-- An event of a schedule, or the section of a teardown that drops every registration. -/
inductive Occurrence where
  | event (event : Event)
  | rearmed
  deriving DecidableEq, Repr

/-- What can happen to a coordinator that is also torn down. -/
inductive Occurs : System → Occurrence → System → Prop where
  | event {system event next} (taken : Step system event next) : Occurs system (.event event) next
  | rearmed {system} (ended : system.coordinator.status ≠ .inProgress) :
      Occurs system .rearmed (system.change system.coordinator.rearm)

/-- Occurrences one after the other. -/
inductive Course : System → List Occurrence → System → Prop where
  | nil {system} : Course system [] system
  | cons {system occurrence next occurrences last} (taken : Occurs system occurrence next)
      (rest : Course next occurrences last) : Course system (occurrence :: occurrences) last

variable {system next last : System} {call : Nat} {taken : Registrations}

/-- Courses that follow each other can be read as one. -/
theorem Course.append {middle : System} {before after : List Occurrence}
    (course : Course system before middle) (goesOn : Course middle after last) :
    Course system (before ++ after) last := by
  induction course with
  | nil => exact goesOn
  | cons taken _ ih => exact .cons taken (ih goesOn)

/-- Nothing but a teardown makes a coordinator idle whose shutdown has begun. -/
theorem Step.stays_triggered {event : Event} (step : Step system event next)
    (triggered : system.coordinator.status ≠ .idle) : next.coordinator.status ≠ .idle := by
  cases step with
  | registered accepted =>
    obtain ⟨accepts, -, -⟩ := register_eq_added_iff.1 accepted
    simp [accepting, triggered] at accepts
  | added numbered accepted =>
    obtain ⟨accepts, -⟩ := addAction_eq_some_iff.1 accepted
    simp [accepting, triggered] at accepts
  | took arrived idle => exact absurd (enter_eq_begun_iff.1 idle).1 triggered
  | numbered taken =>
    cases taken
    exact triggered
  | finished | unwound => simp [finish]
  | _ => exact triggered

/-- Whether a call waits for the shutdown of another one, or has come back after it. -/
def Progress.isWaiting : Progress → Bool
  | asleep | arrived | returned false => true
  | _ => false

/-- A shutdown has begun, and a trigger waits for it or has come back with the answer false. -/
structure Waits (call : Nat) (system : System) : Prop where
  triggered : system.coordinator.status ≠ .idle
  waiting : (system.calls call).isWaiting = true

/-- Another call moves on, or this one still waits. -/
theorem System.isWaiting_move {other : Nat} {progress : Progress}
    (waiting : (system.calls call).isWaiting = true)
    (still : (system.calls other).isWaiting = false ∨ progress.isWaiting = true) :
    ((system.move other progress).calls call).isWaiting = true := by
  by_cases same : call = other
  · subst same
    rw [calls_move_self]
    rcases still with gone | still
    · rw [waiting] at gone
      cases gone
    · exact still
  · rwa [calls_move_of_ne _ _ same]

/-- Being woken by a call that leaves is no end of waiting. -/
theorem System.isWaiting_leave {other : Nat} {completed : Bool} {progress : Progress}
    (waiting : (system.calls call).isWaiting = true)
    (leaving : system.calls other = .leaving completed) :
    ((system.wakeAll.move other progress).calls call).isWaiting = true := by
  have woken : (system.wakeAll.calls call).isWaiting = true := by
    unfold wakeAll
    dsimp only
    split
    · rfl
    · exact waiting
  apply isWaiting_move woken
  left
  rw [calls_wakeAll_of_ne (by simp [leaving]), leaving]
  rfl

/-- A trigger goes on waiting, and begins nothing, until it answers false. -/
theorem Waits.step {event : Event} (waits : Waits call system) (step : Step system event next) :
    Waits call next ∧ (∀ taken, event ≠ .took call taken) ∧ event ≠ .returned call true := by
  have triggered := step.stays_triggered waits.triggered
  have waiting := waits.waiting
  cases step with
  | took arrived idle => exact absurd (enter_eq_begun_iff.1 idle).1 waits.triggered
  | slept arrived | woke arrived | late arrived =>
    exact ⟨⟨triggered, System.isWaiting_move waiting (.inr rfl)⟩, nofun, nofun⟩
  | called before | began before | ended before | threw before | unwound before | finished before =>
    have away : (system.calls _).isWaiting = false := congrArg Progress.isWaiting before
    exact ⟨⟨triggered, System.isWaiting_move waiting (.inl away)⟩, nofun, nofun⟩
  | rethrew leaving => exact ⟨⟨triggered, System.isWaiting_leave waiting leaving⟩, nofun, nofun⟩
  | returned leaving =>
    refine ⟨⟨triggered, System.isWaiting_leave waiting leaving⟩, nofun, ?_⟩
    rintro ⟨⟩
    rw [leaving] at waiting
    cases waiting
  | _ => exact ⟨⟨triggered, waiting⟩, nofun, nofun⟩

/-- Until the coordinator is torn down, a call that waits begins no shutdown of its own and does not
answer true. -/
theorem Waits.course {occurrences : List Occurrence} (waits : Waits call system)
    (course : Course system occurrences last) (untorn : .rearmed ∉ occurrences) :
    (∀ taken, .event (.took call taken) ∉ occurrences) ∧
      .event (.returned call true) ∉ occurrences := by
  induction course with
  | nil => simp
  | cons taken rest ih =>
    rw [List.mem_cons, not_or] at untorn
    cases taken with
    | rearmed => exact absurd rfl untorn.1
    | event step =>
      obtain ⟨still, begins, answers⟩ := waits.step step
      obtain ⟨later, afterwards⟩ := ih still untorn.2
      simp [later, afterwards, Ne.symm answers, fun taken => Ne.symm (begins taken)]

/-- A trigger that has found the shutdown of another call under way begins none of its own and
answers false, unless the coordinator is torn down after that. -/
theorem Course.waits_out {occurrences : List Occurrence}
    (course : Course system (.event (.slept call) :: occurrences) last)
    (untorn : .rearmed ∉ occurrences) :
    (∀ taken, .event (.took call taken) ∉ occurrences) ∧
      ∀ answer, .event (.returned call answer) ∈ occurrences → answer = false := by
  cases course with
  | cons slept rest =>
    cases slept with
    | event step =>
      cases step with
      | slept arrived occupied =>
        have waits : Waits call (system.move call .asleep) := by
          refine ⟨?_, by simp [Progress.isWaiting]⟩
          rw [System.coordinator_move, enter_eq_occupied_iff.1 occupied]
          nofun
        obtain ⟨begins, answers⟩ := waits.course rest untorn
        refine ⟨begins, ?_⟩
        rintro (_ | _) among
        · rfl
        · exact absurd among answers

/-- A trigger that has been woken can begin another shutdown once the coordinator is torn down. -/
theorem Course.took_of_rearmed (arrived : system.calls call = .arrived)
    (ended : system.coordinator.status ≠ .inProgress) :
    ∃ last, Course system [.rearmed, .event (.took call ⟨[], [], []⟩), .event (.finished call),
        .event (.returned call true)] last ∧
      last.coordinator.status = .done ∧ last.calls call = .returned true := by
  have working (system : System) (progress : Progress) :
      (system.move call progress).calls call = progress :=
    System.calls_move_self system call progress
  refine ⟨_, .cons (.rearmed ended) (.cons (.event (.took arrived rfl)) (.cons
    (.event (.finished (working _ _))) (.cons (.event (.returned (working _ _))) .nil))), rfl, ?_⟩
  exact working _ _

/-- A trigger waits for the first shutdown of a new coordinator, and a teardown has the lock before
it: the same trigger answers true after a second shutdown. -/
theorem Course.overtaken :
    ∃ last, Course { coordinator := {} }
        [.event (.called 0), .event (.called 1), .event (.took 0 ⟨[], [], []⟩), .event (.slept 1),
          .event (.finished 0), .event (.returned 0 true), .rearmed,
          .event (.took 1 ⟨[], [], []⟩), .event (.finished 1), .event (.returned 1 true)] last ∧
      last.coordinator.status = .done ∧ last.calls 1 = .returned true := by
  have shutDown : ∃ last, Course { coordinator := {} }
      [.event (.called 0), .event (.called 1), .event (.took 0 ⟨[], [], []⟩), .event (.slept 1),
        .event (.finished 0), .event (.returned 0 true)] last ∧
      last.coordinator.status = .done ∧ last.calls 1 = .arrived :=
    ⟨_, .cons (.event (.called rfl)) (.cons (.event (.called rfl)) (.cons (.event (.took rfl rfl))
      (.cons (.event (.slept rfl rfl)) (.cons (.event (.finished rfl))
        (.cons (.event (.returned rfl)) .nil))))), rfl, rfl⟩
  obtain ⟨middle, first, done, woken⟩ := shutDown
  obtain ⟨last, second, outcome⟩ := took_of_rearmed woken (by simp [done])
  exact ⟨last, first.append second, outcome⟩

end Launchpad.ShutdownCoordinator
