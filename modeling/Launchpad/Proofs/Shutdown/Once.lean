import Launchpad.Proofs.Shutdown.Exclusion

/-!
# What every schedule of a coordinator guarantees

At most one call begins a shutdown. It closes and runs exactly what was registered at that moment,
in order and once; nothing is registered any more; every other trigger comes back after the
shutdown is finished.
-/

namespace Launchpad.ShutdownCoordinator

/-- What holds of a history in which a call took the registrations, and of the state it led to. -/
structure Orderly (before : List Event) (winner : Nat) (taken : Registrations) (after : List Event)
    (system : System) : Prop where
  /-- Until then nothing is closed or run, no trigger comes back and no registration is refused. -/
  untouched : ∀ event ∈ before, event.ofShutdown = false ∧ event.refuses = false
  containers : taken.containers = standingContainers before
  actions : taken.actions = standingActions .shutdown before
  postClose : taken.postClose = standingActions .postClose before
  /-- Nothing is taken twice. -/
  distinct : (taken.containers.map ShutdownWork.close ++ taken.actions.map ShutdownWork.run ++
    taken.postClose.map ShutdownWork.run).Nodup
  /-- From then on every registration is refused, and no other call begins a shutdown. -/
  closed : ∀ event ∈ after, event.accepts = false ∧ event.takes = false
  /-- No other call closes or runs anything, answers true or throws. -/
  alone : ∀ event ∈ after, ∀ call, event.worker? = some call → call = winner
  /-- Nothing is done that was not taken, nothing twice, and nothing before what stands ahead of it:
  first the containers, then the actions, then the actions of the last stage. That a close failed
  does not matter. -/
  work : workIn after <+:
    taken.containers.map .close ++ taken.actions.map .run ++ taken.postClose.map .run
  containerRefused : ∀ container, Event.registrationRefused container ∈ after →
    container ∉ standingContainers before → .close container ∉ workIn after
  actionRefused : ∀ stage action, Event.additionRefused stage action ∈ after →
    ∀ ran, .run ran ∈ workIn after → ran.id ≠ action.id
  /-- Every container was closed, unless a close threw. -/
  closes : Event.finished winner ∈ after →
    (∀ container, Event.threw winner (.close container) ∉ after) →
      taken.containers.map .close <+: workIn after
  /-- Every action was run as well, unless one threw. -/
  completes : Event.finished winner ∈ after → (∀ work, Event.threw winner work ∉ after) →
    workIn after = taken.containers.map .close ++ taken.actions.map .run ++ taken.postClose.map .run
  /-- Whether or not something threw, the coordinator stays done. -/
  done : Event.finished winner ∈ after → system.coordinator.status = .done
  /-- The call answers true after a shutdown that went through, once. -/
  returned : ∀ earlier call later, after = earlier ++ .returned call true :: later →
    Event.finished winner ∈ earlier ∧ (∀ work, Event.threw winner work ∉ after) ∧
      Event.returned winner true ∉ earlier
  /-- It throws after a shutdown in which something threw. -/
  rethrew : ∀ earlier call later, after = earlier ++ .rethrew call :: later →
    Event.finished winner ∈ earlier ∧ ∃ work, Event.threw winner work ∈ earlier
  /-- Other calls answer false, and only after the shutdown is finished. -/
  late : ∀ earlier call later, after = earlier ++ .returned call false :: later →
    call ≠ winner ∧ Event.finished winner ∈ earlier
  /-- The call can always go on until it has left. -/
  progress : system.calls winner = .returned true ∨ system.calls winner = .thrown ∨
    ∃ event next, event.worker? = some winner ∧ Step system event next
  /-- Once it has left, nobody sleeps, and whoever comes to the lock answers false. -/
  awake : system.calls winner = .returned true ∨ system.calls winner = .thrown →
    ∀ call, system.calls call ≠ .asleep ∧
      (system.calls call = .arrived → system.coordinator.enter = .finished)

/-- What every schedule guarantees. -/
structure Lawful (events : List Event) (system : System) : Prop where
  /-- Without a shutdown nothing is closed or run, no trigger comes back and no registration is
  refused. -/
  untouched : (∀ event ∈ events, event.takes = false) →
    ∀ event ∈ events, event.ofShutdown = false ∧ event.refuses = false
  shutdown : ∀ before winner taken after, events = before ++ .took winner taken :: after →
    Orderly before winner taken after system

/-- A call takes the registrations. -/
theorem Waiting.begin {events : List Event} {system : System} (waiting : Waiting events system)
    (call : Nat) :
    Underway call system.coordinator.begin.1 []
      ((system.change system.coordinator.begin.2).move call
        (.working system.coordinator.begin.1.work)) where
  stage := by
    rw [System.calls_move_self]
    exact .working (fun _ => List.not_mem_nil) rfl
  finished := ⟨fun member => absurd member List.not_mem_nil, nofun⟩
  others other different := by
    rw [System.calls_move_of_ne _ _ different, System.calls_change]
    obtain absent | arrived := waiting.calls other
    · rw [absent]
      exact .absent
    · rw [arrived]
      exact .arrived
  awake := by simp
  own _ member := absurd member List.not_mem_nil
  closed _ member := absurd member List.not_mem_nil
  returned member := absurd member List.not_mem_nil
  rethrew member := absurd member List.not_mem_nil
  numbered := waiting.numbered
  refused _ _ member := absurd member List.not_mem_nil

/-- A schedule has not come to a shutdown yet, or a shutdown is under way. -/
theorem Runs.course {events : List Event} {system : System} (runs : Runs events system) :
    Waiting events system ∨ ∃ before winner taken after,
      events = before ++ .took winner taken :: after ∧ Underway winner taken after system := by
  induction runs with
  | initial signalHook => exact .inl (.initial signalHook)
  | @step events system event next _ taken ih =>
    obtain waiting | ⟨before, winner, taken', after, rfl, underway⟩ := ih
    · obtain still | ⟨call, rfl, rfl⟩ := waiting.step taken
      · exact .inl still
      · exact .inr ⟨events, call, _, [], rfl, waiting.begin call⟩
    · exact .inr ⟨before, winner, taken', after ++ [event], by simp, underway.step taken⟩

/-- As long as a coordinator is idle, nobody began a shutdown. -/
theorem Runs.waiting {events : List Event} {system : System} (runs : Runs events system)
    (idle : system.coordinator.status = .idle) : Waiting events system := by
  obtain waiting | ⟨_, _, _, _, -, underway⟩ := runs.course
  · exact waiting
  · exact absurd idle underway.stage.ne_idle

/-- Wherever a history shows a call that took the registrations, a shutdown is under way since. -/
theorem Runs.underway {before after : List Event} {winner : Nat} {taken : Registrations}
    {system : System} (runs : Runs (before ++ .took winner taken :: after) system) :
    Underway winner taken after system ∧
      ∃ opening, Waiting before opening ∧ taken = opening.coordinator.begin.1 := by
  induction after using List.reverseRecOn generalizing system with
  | nil =>
    obtain ⟨opening, prior, stepped⟩ := runs.of_append_singleton
    cases stepped with
    | took arrived entered =>
      obtain ⟨idle, rfl, rfl⟩ := enter_eq_begun_iff.1 entered
      have waiting := prior.waiting idle
      exact ⟨waiting.begin winner, opening, waiting, rfl⟩
  | append_singleton after last ih =>
    rw [← List.cons_append, ← List.append_assoc] at runs
    obtain ⟨earlier, prior, stepped⟩ := runs.of_append_singleton
    obtain ⟨underway, opening⟩ := ih prior
    exact ⟨underway.step stepped, opening⟩

section

variable {winner : Nat} {taken : Registrations} {before after : List Event} {progress : Progress}
  {status : ShutdownStatus} {system : System}

/-- What a trigger takes has no duplicates: neither a container nor an action is there twice. -/
theorem Waiting.nodup_work (waiting : Waiting before system) :
    system.coordinator.begin.1.work.Nodup := by
  have actions := (List.nodup_append.1 waiting.numbered.nodup).2.1.of_map
  refine List.Nodup.append ?_ ?_ ?_
  · exact waiting.holds.distinct.map fun _ _ same => ShutdownWork.close.inj same
  · exact actions.map fun _ _ same => ShutdownWork.run.inj same
  · intro work closing running
    obtain ⟨container, -, rfl⟩ := List.mem_map.1 closing
    obtain ⟨action, -, same⟩ := List.mem_map.1 running
    cases same

/-- What is done is the first part of what was taken. -/
theorem Stage.work_prefix (stage : Stage winner taken after progress status) :
    workIn after <+: taken.work := by
  cases stage with
  | working _ split => exact ⟨_, split.symm⟩
  | @busy done work rest _ begun split => exact ⟨rest, by simp [begun, split]⟩
  | leaving completed | returned completed => exact completed.work ▸ List.prefix_rfl
  | unwinding broken | leavingBroken broken | thrown broken =>
    obtain ⟨done, work, rest, split, stopped, -⟩ := broken
    exact ⟨rest, by simp [stopped, split]⟩

/-- A finished shutdown went through, or something threw. -/
theorem Stage.completed_or_broken (stage : Stage winner taken after progress .done) :
    Completed winner taken after ∨ Broken winner taken after := by
  cases stage with
  | leaving completed | returned completed => exact .inl completed
  | leavingBroken broken | thrown broken => exact .inr broken

/-- Whoever leaves marked the shutdown as finished before. -/
theorem Stage.done_of_leaving (stage : Stage winner taken after progress status) {completed : Bool}
    (leaving : progress = .leaving completed) : status = .done := by
  subst leaving
  cases stage <;> rfl

/-- A call that answers true has done everything. -/
theorem Stage.completed (stage : Stage winner taken after progress status)
    (returned : progress = .returned true) : Completed winner taken after := by
  subst returned
  cases stage with
  | returned completed => exact completed

/-- A call that is about to throw was stopped by a thing that threw. -/
theorem Stage.broken (stage : Stage winner taken after progress status)
    (leaving : progress = .leaving false) : Broken winner taken after := by
  subst leaving
  cases stage with
  | leavingBroken broken => exact broken

/-- An action that throws leaves the containers closed. -/
theorem Broken.closes (broken : Broken winner taken after)
    (closed : ∀ container, Event.threw winner (.close container) ∉ after) :
    taken.containers.map .close <+: workIn after := by
  obtain ⟨done, work, rest, split, stopped, threw⟩ := broken
  have all : taken.containers.map .close <+: taken.work := List.prefix_append _ _
  have some : workIn after <+: taken.work := ⟨rest, by simp [stopped, split]⟩
  obtain beyond | inside := List.prefix_or_prefix_of_prefix all some
  · exact beyond
  · -- The thing that threw would be a container.
    obtain ⟨container, -, rfl⟩ := List.mem_map.1 (inside.subset (by simp [stopped] : work ∈ _))
    exact absurd threw (closed container)

/-- The call of a shutdown can go on until it has left. -/
theorem Stage.goes_on (stage : Stage winner taken after (system.calls winner) status) :
    system.calls winner = .returned true ∨ system.calls winner = .thrown ∨
      ∃ event next, event.worker? = some winner ∧ Step system event next := by
  generalize reached : system.calls winner = progress at stage
  cases stage with
  | @working rest =>
    cases rest with
    | nil => exact .inr (.inr ⟨_, _, rfl, .finished reached⟩)
    | cons work rest => exact .inr (.inr ⟨_, _, rfl, .began reached⟩)
  | busy => exact .inr (.inr ⟨.ended winner none, _, rfl, .ended reached⟩)
  | unwinding => exact .inr (.inr ⟨_, _, rfl, .unwound reached⟩)
  | leaving => exact .inr (.inr ⟨_, _, rfl, .returned reached⟩)
  | leavingBroken => exact .inr (.inr ⟨_, _, rfl, .rethrew reached⟩)
  | returned => exact .inl rfl
  | thrown => exact .inr (.inl rfl)

end

/-- Every event after a call took the registrations happens while the shutdown is under way. -/
theorem Runs.underway_at {before earlier later : List Event} {winner : Nat} {taken : Registrations}
    {event : Event} {final : System}
    (runs : Runs (before ++ .took winner taken :: (earlier ++ event :: later)) final) :
    ∃ system next, Underway winner taken earlier system ∧ Step system event next := by
  rw [← List.cons_append, ← List.append_assoc] at runs
  obtain ⟨system, next, prior, stepped⟩ := runs.at_event
  exact ⟨system, next, prior.underway.1, stepped⟩

/-- Whatever callers do at the same time, at most one shutdown takes place, and it does exactly what
was registered when it began. -/
theorem Runs.lawful {events : List Event} {system : System} (runs : Runs events system) :
    Lawful events system := by
  refine ⟨fun untaken => ?_, ?_⟩
  · obtain waiting | ⟨before, winner, taken, after, rfl, -⟩ := runs.course
    · exact waiting.untouched
    · have taking := untaken (.took winner taken) (by simp)
      cases taking
  · rintro before winner taken after rfl
    -- The run falls into the wait before the shutdown began and the course of the shutdown since.
    obtain ⟨underway, opening, waiting, rfl⟩ := runs.underway
    have finishing (finished : Event.finished winner ∈ after) :
        Completed winner opening.coordinator.begin.1 after ∨
          Broken winner opening.coordinator.begin.1 after := by
      have stage := underway.stage
      rw [underway.finished.1 finished] at stage
      exact stage.completed_or_broken
    have work := underway.stage.work_prefix
    exact {
      untouched := waiting.untouched
      containers := waiting.holds.containers
      actions := waiting.holds.actions
      postClose := waiting.holds.postClose
      distinct := by
        rw [← Registrations.work_eq]
        exact waiting.nodup_work
      closed := underway.closed
      alone := underway.own
      work := by rwa [Registrations.work_eq] at work
      containerRefused := by
        intro container _ unknown closing
        have taken := work.subset closing
        simp [Registrations.work, begin, waiting.holds.containers, unknown] at taken
      actionRefused := by
        intro stage action refused ran running
        refine underway.refused stage action refused ran ?_
        simpa [Registrations.work] using work.subset running
      closes := by
        intro finished closed
        obtain completed | broken := finishing finished
        · rw [completed.work]
          exact List.prefix_append _ _
        · exact broken.closes closed
      completes := by
        intro finished unharmed
        obtain completed | ⟨_, work, _, _, _, threw⟩ := finishing finished
        · rw [completed.work, Registrations.work_eq]
        · exact absurd threw (unharmed work)
      done := underway.finished.1
      returned := by
        rintro earlier call later rfl
        obtain rfl := underway.own (.returned call true) (by simp) call rfl
        -- What a call answers is judged by the state in which it left, not by the last one.
        obtain ⟨there, _, meanwhile, stepped⟩ := runs.underway_at
        cases stepped with
        | returned leaving =>
          refine ⟨meanwhile.finished.2 (meanwhile.stage.done_of_leaving leaving), ?_, ?_⟩
          · exact (underway.stage.completed (underway.returned (by simp))).unharmed
          · intro before
            cases leaving.symm.trans (meanwhile.returned before)
      rethrew := by
        rintro earlier call later rfl
        obtain rfl := underway.own (.rethrew call) (by simp) call rfl
        obtain ⟨there, _, meanwhile, stepped⟩ := runs.underway_at
        cases stepped with
        | rethrew leaving =>
          refine ⟨meanwhile.finished.2 (meanwhile.stage.done_of_leaving leaving), ?_⟩
          obtain ⟨_, work, _, _, _, threw⟩ := meanwhile.stage.broken leaving
          exact ⟨work, threw⟩
      late := by
        rintro earlier call later rfl
        obtain ⟨there, _, meanwhile, stepped⟩ := runs.underway_at
        cases stepped with
        | late arrived done =>
          have finished := meanwhile.finished.2 (enter_eq_finished_iff.1 done)
          exact ⟨meanwhile.ne_winner arrived (by simp), finished⟩
      progress := underway.stage.goes_on
      awake := by
        intro gone call
        have done := underway.stage.done_of_gone gone
        exact ⟨underway.awake gone call, fun _ => enter_eq_finished_iff.2 done⟩ }

/-- A container that fails to close, an action that throws, and a trigger and a registration that
come too late. -/
theorem Runs.lawful_thrown :
    let action : ShutdownAction := { id := ⟨1⟩, name := "flush", participant := "flush" }
    let taken : Registrations := { containers := [⟨0⟩], actions := [action], postClose := [] }
    let schedule : List Event :=
      [.registered ⟨0⟩, .numbered ⟨1⟩, .added .shutdown action, .called 0, .called 1, .took 0 taken,
        .slept 1, .registrationRefused ⟨1⟩, .began 0 (.close ⟨0⟩), .deregistered ⟨0⟩,
        .ended 0 (some (.text "stuck")), .began 0 (.run action), .threw 0 (.run action),
        .finished 0, .rethrew 0, .returned 1 false]
    ∃ system, Runs schedule system ∧ Lawful schedule system := by
  intro action taken schedule
  have steps : ∃ system, Steps { coordinator := {} } schedule system :=
    ⟨_, .cons (.registered rfl) <| .cons (.numbered rfl) <| .cons (.added (by decide) rfl) <|
      .cons (.called rfl) <| .cons (.called rfl) <| .cons (.took rfl rfl) <|
      .cons (.slept rfl rfl) <| .cons (.registrationRefused rfl) <| .cons (.began rfl) <|
      .cons .deregistered <| .cons (.ended rfl) <| .cons (.began rfl) <| .cons (.threw rfl) <|
      .cons (.unwound rfl) <| .cons (.rethrew rfl) <| .cons (.late rfl rfl) .nil⟩
  obtain ⟨system, steps⟩ := steps
  have runs : Runs schedule system := (Runs.initial false).append steps
  exact ⟨system, runs, runs.lawful⟩

end Launchpad.ShutdownCoordinator
