import Launchpad.Proofs.Shutdown.Conformance
import Launchpad.Proofs.Shutdown.Once

/-!
# Actions that are removed

A removal answers true as long as its action waits for a shutdown, and then the action never runs.
It answers false once the action was removed, and also once a trigger has taken the action, whether
it has come to the action by then or not: the action runs all the same when its turn comes.
-/

namespace Launchpad.ShutdownCoordinator

/-! ## The actions that were added -/

/-- The action that an event adds. -/
def Event.addition? : Event → Option ShutdownAction
  | added _ action => some action
  | _ => none

/-- Every action that was added, in order. -/
def additions (events : List Event) : List ShutdownAction := events.filterMap Event.addition?

section

variable {system next final : System} {event : Event} {events earlier since : List Event}
  {stage other : ActionStage} {action held : ShutdownAction}

/-- Numbers tell all actions apart that were ever added. -/
theorem Step.numbered_additions (step : Step system event next)
    (numbered : Numbered system.coordinator.nextAction system.numbers (additions events)) :
    Numbered next.coordinator.nextAction next.numbers (additions (events ++ [event])) := by
  have grown : additions (events ++ [event]) = additions events ++ event.addition?.toList := by
    rw [additions, additions, List.filterMap_append]
    cases added : event.addition? <;> simp [added]
  have same (none : event.addition? = none) :
      additions (events ++ [event]) = additions events := by
    rw [grown, none, Option.toList_none, List.append_nil]
  cases step with
  | @added stage action _ known accepted =>
    obtain ⟨-, rfl⟩ := addAction_eq_some_iff.1 accepted
    rw [grown]
    have used := (numbered.use known).of_perm (List.perm_append_singleton action _).symm
    cases stage <;> exact used
  | numbered taken =>
    obtain ⟨rfl, rfl⟩ := Prod.mk.inj taken
    rw [same rfl]
    exact numbered.take
  | additionRefused =>
    rw [same rfl]
    exact numbered.drop _
  | registered accepted =>
    obtain ⟨-, -, rfl⟩ := register_eq_added_iff.1 accepted
    rw [same rfl]
    exact numbered
  | took _ entered =>
    obtain ⟨-, -, rfl⟩ := enter_eq_begun_iff.1 entered
    rw [same rfl]
    exact numbered
  | _ =>
    rw [same rfl]
    exact numbered

/-- The numbers of all actions that were ever added, and of those to come, are distinct. -/
theorem Runs.numbered_additions (runs : Runs events system) :
    Numbered system.coordinator.nextAction system.numbers (additions events) := by
  induction runs with
  | initial => exact ⟨List.nodup_nil, fun _ member => absurd member List.not_mem_nil⟩
  | step _ taken ih => exact taken.numbered_additions ih

/-- Every action that was added has an id of its own. -/
theorem Runs.distinct_ids (runs : Runs events system) : ((additions events).map (·.id)).Nodup :=
  (List.nodup_append.1 runs.numbered_additions.nodup).2.1

/-! ## The actions that stand -/

/-- What stands was added first and not taken away since, or stands without that addition. -/
theorem mem_standing_cons {α : Type} {adds : Event → Option α} {forgets : Event → α → Bool}
    {item : α} :
    item ∈ standing adds forgets (event :: events) ↔
      (adds event = some item ∧ events.any (forgets · item) = false) ∨
        item ∈ standing adds forgets events := by
  rw [standing]
  cases adds event with
  | none => simp
  | some first =>
    by_cases same : first = item
    · subst same
      cases gone : events.any (forgets · first) <;> simp [gone]
    · cases gone : events.any (forgets · first) <;> simp [gone, same, Ne.symm same]

/-- An action that is added to a stage is added. -/
theorem Event.addition?_of_action? (adds : event.action? stage = some held) :
    event.addition? = some held := by
  cases event with
  | added other action =>
    rw [Event.action?] at adds
    split at adds
    · exact adds
    · cases adds
  | _ => cases adds

/-- An action that waits was added before. -/
theorem mem_additions_of_standing (stands : held ∈ standingActions stage events) :
    held ∈ additions events := by
  induction events with
  | nil => cases stands
  | cons event events ih =>
    rw [additions, List.filterMap_cons]
    obtain ⟨adds, -⟩ | stands := mem_standing_cons.1 stands
    · rw [Event.addition?_of_action? adds]
      exact List.mem_cons_self
    · cases event.addition? with
      | none => exact ih stands
      | some _ => exact List.mem_cons_of_mem _ (ih stands)

/-- An action that was not removed stands. -/
theorem standing_of_kept (earlier : List Event) (kept : .removed action.id ∉ since) :
    action ∈ standingActions stage (earlier ++ .added stage action :: since) := by
  induction earlier with
  | nil =>
    refine mem_standing_cons.2 (.inl ⟨if_pos rfl, List.any_eq_false.2 fun event among gone => ?_⟩)
    cases event with
    | removed id =>
      obtain rfl : action.id = id := by simpa [Event.forgetsAction] using gone
      exact kept among
    | _ => cases gone
  | cons event earlier ih => exact mem_standing_cons.2 (.inr ih)

/-- After its removal an action does not stand any more, and no other has its id. -/
theorem id_ne_of_removed
    (distinct : ((additions (earlier ++ .added stage action :: since)).map (·.id)).Nodup)
    (removed : .removed action.id ∈ since)
    (stands : held ∈ standingActions other (earlier ++ .added stage action :: since)) :
    held.id ≠ action.id := by
  induction earlier with
  | nil =>
    obtain ⟨adds, stays⟩ | stands := mem_standing_cons.1 stands
    · cases Event.addition?_of_action? adds
      have gone := List.any_eq_false.1 stays _ removed
      simp [Event.forgetsAction] at gone
    · intro same
      have known : held.id ∈ (additions since).map (·.id) :=
        List.mem_map_of_mem (mem_additions_of_standing stands)
      rw [same] at known
      exact (List.nodup_cons.1 distinct).1 known
  | cons event earlier ih =>
    rw [List.cons_append, additions, List.filterMap_cons] at distinct
    obtain ⟨adds, -⟩ | stands := mem_standing_cons.1 stands
    · rw [Event.addition?_of_action? adds] at distinct
      intro same
      have known : action.id ∈ (additions (earlier ++ .added stage action :: since)).map (·.id) :=
        List.mem_map_of_mem (List.mem_filterMap.2 ⟨.added stage action, by simp, rfl⟩)
      rw [← same] at known
      exact (List.nodup_cons.1 distinct).1 known
    · cases new : event.addition? with
      | none =>
        rw [new] at distinct
        exact ih distinct stands
      | some _ =>
        rw [new] at distinct
        exact ih (List.nodup_cons.1 distinct).2 stands

/-- Before a shutdown, a coordinator has the actions that stand. -/
theorem Holds.mem_iff {coordinator : ShutdownCoordinator} (holds : Holds coordinator events) :
    held ∈ coordinator.actions ++ coordinator.postClose ↔
      ∃ stage, held ∈ standingActions stage events := by
  rw [List.mem_append, holds.actions, holds.postClose]
  constructor
  · rintro (first | second)
    · exact ⟨.shutdown, first⟩
    · exact ⟨.postClose, second⟩
  · rintro ⟨stage, stands⟩
    cases stage
    · exact .inl stands
    · exact .inr stands

/-- Before a shutdown, an action is waiting unless it was removed. -/
theorem Waiting.hasAction_iff (waiting : Waiting (earlier ++ .added stage action :: since) system)
    (distinct : ((additions (earlier ++ .added stage action :: since)).map (·.id)).Nodup) :
    system.coordinator.hasAction action.id = true ↔ .removed action.id ∉ since := by
  rw [hasAction, List.any_eq_true]
  constructor
  · rintro ⟨held, member, same⟩ removed
    obtain ⟨other, stands⟩ := waiting.holds.mem_iff.1 member
    exact id_ne_of_removed distinct removed stands (of_decide_eq_true same)
  · intro kept
    exact ⟨action, waiting.holds.mem_iff.2 ⟨stage, standing_of_kept earlier kept⟩,
      decide_eq_true rfl⟩

/-! ## Before and after a shutdown begins -/

/-- A call only works on registrations after it took them. -/
theorem Runs.triggered_of_working {call : Nat} {progress : Progress} (runs : Runs events system)
    (reached : system.calls call = progress) (working : ¬ Bystander progress) :
    system.coordinator.status ≠ .idle := by
  intro idle
  obtain absent | arrived := (runs.waiting idle).calls call
  · exact working (reached ▸ absent ▸ .absent)
  · exact working (reached ▸ arrived ▸ .arrived)

/-- From the moment a shutdown begins, no action is waiting. -/
theorem Runs.no_actions (runs : Runs events system)
    (triggered : system.coordinator.status ≠ .idle) :
    system.coordinator.actions = [] ∧ system.coordinator.postClose = [] := by
  induction runs with
  | initial => exact absurd rfl triggered
  | @step events system event next prior taken ih =>
    cases taken with
    | registered accepted =>
      obtain ⟨-, -, rfl⟩ := register_eq_added_iff.1 accepted
      exact ih triggered
    | numbered taken =>
      obtain ⟨rfl, rfl⟩ := Prod.mk.inj taken
      exact ih triggered
    | @added stage _ _ _ accepted =>
      obtain ⟨accepting, rfl⟩ := addAction_eq_some_iff.1 accepted
      have idle : system.coordinator.status = .idle := of_decide_eq_true accepting
      cases stage <;> exact absurd idle triggered
    | removed =>
      obtain ⟨actions, postClose⟩ := ih triggered
      constructor
      · change system.coordinator.actions.filter _ = []
        rw [actions, List.filter_nil]
      · change system.coordinator.postClose.filter _ = []
        rw [postClose, List.filter_nil]
    | took _ entered =>
      obtain ⟨-, -, rfl⟩ := enter_eq_begun_iff.1 entered
      exact ⟨rfl, rfl⟩
    | finished reached => exact ih (prior.triggered_of_working reached nofun)
    | unwound reached => exact ih (prior.triggered_of_working reached nofun)
    | _ => exact ih triggered

/-- What is added is added before a shutdown. -/
theorem Runs.untaken_until_added (runs : Runs (earlier ++ .added stage action :: since) system) :
    ∀ event ∈ earlier, event.ofShutdown = false ∧ event.refuses = false := by
  obtain ⟨opening, _, prior, taken⟩ := runs.at_event
  cases taken with
  | added _ accepted =>
    obtain ⟨accepting, -⟩ := addAction_eq_some_iff.1 accepted
    exact (prior.waiting (of_decide_eq_true accepting)).untouched

/-- Only a shutdown takes anything. -/
theorem Event.takes_of_ofShutdown (outside : event.ofShutdown = false) : event.takes = false := by
  cases event with
  | took => cases outside
  | _ => rfl

/-- A run goes on until a shutdown begins, or has come to a shutdown since. -/
theorem Runs.waiting_or_underway (runs : Runs (earlier ++ since) system)
    (untaken : ∀ event ∈ earlier, event.takes = false) :
    Waiting (earlier ++ since) system ∨ ∃ first call taken rest opening,
      since = first ++ .took call taken :: rest ∧ Underway call taken rest system ∧
        Waiting (earlier ++ first) opening ∧ taken = opening.coordinator.begin.1 := by
  by_cases taken : ∃ event ∈ since, event.takes = true
  · obtain ⟨event, among, takes⟩ := taken
    obtain ⟨first, rest, rfl⟩ := List.append_of_mem among
    cases event with
    | took call taken =>
      rw [← List.append_assoc] at runs
      obtain ⟨underway, opening, waiting, begun⟩ := runs.underway
      exact .inr ⟨first, call, taken, rest, opening, rfl, underway, waiting, begun⟩
    | _ => cases takes
  · obtain waiting | ⟨before, winner, registrations, after, split, -⟩ := runs.course
    · exact .inl waiting
    · have among : .took winner registrations ∈ earlier ++ since := by
        rw [split]
        exact List.mem_append_right _ List.mem_cons_self
      obtain before | later := List.mem_append.1 among
      · cases untaken _ before
      · exact absurd ⟨_, later, rfl⟩ taken

/-- A shutdown runs only what it took. -/
theorem Underway.mem_of_began {winner call : Nat} {taken : Registrations} {ran : ShutdownAction}
    (underway : Underway winner taken events system) (began : .began call (.run ran) ∈ events) :
    ran ∈ taken.actions ++ taken.postClose := by
  have done : .run ran ∈ workIn events := List.mem_filterMap.2 ⟨_, began, rfl⟩
  simpa [Registrations.work] using underway.stage.work_prefix.subset done

/-- A shutdown that went through has run what it took. -/
theorem Underway.began_of_finished {winner : Nat} {taken : Registrations}
    (underway : Underway winner taken events system) (finished : .finished winner ∈ events)
    (unharmed : ∀ work, .threw winner work ∉ events)
    (member : action ∈ taken.actions ++ taken.postClose) :
    .began winner (.run action) ∈ events := by
  have stage := underway.stage
  rw [underway.finished.1 finished] at stage
  obtain completed | ⟨_, work, _, _, _, threw⟩ := stage.completed_or_broken
  · have done : .run action ∈ workIn events := by
      rw [completed.work]
      simpa [Registrations.work] using member
    obtain ⟨event, among, works⟩ := List.mem_filterMap.1 done
    cases event with
    | began call work =>
      obtain rfl : work = .run action := Option.some.inj works
      obtain rfl : call = winner := underway.own _ among call rfl
      exact among
    | _ => cases works
  · exact absurd threw (unharmed work)

end

/-! ## What a removal answers -/

/-- What a removal answers after a history. -/
def Answers (events : List Event) (id : ActionId) (answer : Bool) : Prop :=
  ∃ system, Runs events system ∧ system.coordinator.hasAction id = answer

/-- What it means that the removal of an action that was added gives its answer. -/
structure Removal (earlier : List Event) (stage : ActionStage) (action : ShutdownAction)
    (since : List Event) (answer : Bool) (later : List Event) : Prop where
  /-- The answer is true as long as the action was not removed and no shutdown has begun. -/
  waiting : answer = true ↔ .removed action.id ∉ since ∧ ∀ event ∈ since, event.takes = false
  /-- An action whose removal answers true has not run, and it never does. -/
  never : answer = true → ∀ call ran, .began call (.run ran) ∈
    earlier ++ .added stage action :: (since ++ .removed action.id :: later) → ran.id ≠ action.id
  /-- If the answer is false, an earlier removal answered true, or the action has been run, or a
  trigger has taken it that has not come to it yet, and runs it unless something throws before. -/
  gone : answer = false →
    (∃ first rest, since = first ++ .removed action.id :: rest ∧
      Answers (earlier ++ .added stage action :: first) action.id true) ∨
    (∃ call, .began call (.run action) ∈ since) ∨
    ∃ call taken, .took call taken ∈ since ∧ action ∈ taken.actions ++ taken.postClose ∧
      (.finished call ∈ since ++ .removed action.id :: later →
        (∀ work, .threw call work ∉ since ++ .removed action.id :: later) →
        .began call (.run action) ∈ later)

section

variable {earlier since later : List Event} {stage : ActionStage} {action : ShutdownAction}
  {prior final : System}

/-- Since it was added, an action has waited, or a shutdown has begun. -/
theorem Runs.since_added (runs : Runs (earlier ++ .added stage action :: (since ++ later)) final)
    (untaken : ∀ event ∈ since, event.takes = false) :
    Waiting (earlier ++ .added stage action :: (since ++ later)) final ∨
      ∃ first call taken rest opening, later = first ++ .took call taken :: rest ∧
        Underway call taken rest final ∧
        Waiting (earlier ++ .added stage action :: (since ++ first)) opening ∧
        taken = opening.coordinator.begin.1 := by
  have before : ∀ event ∈ earlier ++ .added stage action :: since, event.takes = false := by
    intro event among
    obtain before | rfl | after := List.mem_append.1 among |>.imp_right List.mem_cons.1
    · exact Event.takes_of_ofShutdown (runs.untaken_until_added event before).1
    · rfl
    · exact untaken event after
  rw [← List.cons_append, ← List.append_assoc] at runs ⊢
  simpa using runs.waiting_or_underway before

/-- If an action was removed before a shutdown began, the first removal answered true. -/
theorem Runs.answers_first (runs : Runs (earlier ++ .added stage action :: since) prior)
    (untaken : ∀ event ∈ since, event.takes = false) (removed : .removed action.id ∈ since) :
    ∃ first rest, since = first ++ .removed action.id :: rest ∧
      Answers (earlier ++ .added stage action :: first) action.id true := by
  obtain ⟨first, rest, rfl, fresh⟩ := List.eq_append_cons_of_mem removed
  refine ⟨first, rest, rfl, ?_⟩
  rw [← List.cons_append, ← List.append_assoc] at runs
  obtain ⟨system, start⟩ := runs.of_append
  refine ⟨system, start, ?_⟩
  rw [← List.append_nil first] at start
  obtain waiting | ⟨_, _, _, _, _, split, -⟩ :=
    start.since_added fun event among => untaken event (List.mem_append_left _ among)
  · exact (waiting.hasAction_iff start.distinct_ids).2 (by rwa [List.append_nil])
  · cases List.nil_eq_append_iff.1 split |>.2

/-- An action that was removed before a shutdown began is never run. -/
theorem Runs.id_ne_of_began
    (runs : Runs (earlier ++ .added stage action :: (since ++ .removed action.id :: later)) final)
    (untaken : ∀ event ∈ since, event.takes = false) {call : Nat} {ran : ShutdownAction}
    (began : .began call (.run ran) ∈
      earlier ++ .added stage action :: (since ++ .removed action.id :: later)) :
    ran.id ≠ action.id := by
  rw [List.append_cons since] at runs began
  have known : ∀ event ∈ since ++ [.removed action.id], event.takes = false :=
    List.forall_mem_append.2 ⟨untaken, List.forall_mem_singleton.2 rfl⟩
  obtain waiting | ⟨first, winner, taken, rest, opening, rfl, underway, waiting, rfl⟩ :=
    runs.since_added known
  · cases (waiting.untouched _ began).1
  · rw [← List.append_assoc, ← List.cons_append, ← List.append_assoc] at runs began
    obtain before | here | after := List.mem_append.1 began |>.imp_right List.mem_cons.1
    · cases (waiting.untouched _ before).1
    · cases here
    · obtain ⟨other, stands⟩ := waiting.holds.mem_iff.1 (underway.mem_of_began after)
      obtain ⟨store, start⟩ := runs.of_append
      exact id_ne_of_removed start.distinct_ids (by simp) stands

/-- A shutdown that goes through comes later to what it took and has not come to. -/
theorem Runs.began_later {rest : List Event} {id : ActionId} {call : Nat} {taken : Registrations}
    (runs : Runs (earlier ++ .took call taken :: (rest ++ .removed id :: later)) final)
    (member : action ∈ taken.actions ++ taken.postClose)
    (unrun : .began call (.run action) ∉ rest)
    (finished : .finished call ∈ rest ++ .removed id :: later)
    (unharmed : ∀ work, .threw call work ∉ rest ++ .removed id :: later) :
    .began call (.run action) ∈ later := by
  have began := runs.underway.1.began_of_finished finished unharmed member
  obtain early | same | late := List.mem_append.1 began |>.imp_right List.mem_cons.1
  · exact absurd early unrun
  · cases same
  · exact late

/-- While a shutdown is under way, the removal of an action answers false: it was removed before, or
it has been run, or the shutdown has yet to come to it. -/
theorem Underway.removal {first rest : List Event} {call : Nat} {taken : Registrations}
    {opening : System} (underway : Underway call taken rest prior)
    (waiting : Waiting (earlier ++ .added stage action :: first) opening)
    (begun : taken = opening.coordinator.begin.1)
    (before : Runs (earlier ++ .added stage action :: (first ++ .took call taken :: rest)) prior)
    (runs : Runs (earlier ++ .added stage action ::
      (first ++ .took call taken :: rest ++ .removed action.id :: later)) final) :
    Removal earlier stage action (first ++ .took call taken :: rest)
      (prior.coordinator.hasAction action.id) later := by
  have untouched : ∀ event ∈ first, event.ofShutdown = false := fun event among =>
    (waiting.untouched event (by simp [among])).1
  have took : .took call taken ∈ first ++ .took call taken :: rest :=
    List.mem_append_right _ List.mem_cons_self
  have answer : prior.coordinator.hasAction action.id = false := by
    obtain ⟨actions, postClose⟩ := before.no_actions underway.stage.ne_idle
    rw [hasAction, actions, postClose]
    rfl
  rw [answer]
  refine ⟨⟨fun holds => absurd holds Bool.false_ne_true, fun known => by cases known.2 _ took⟩,
    fun holds => absurd holds Bool.false_ne_true, fun _ => ?_⟩
  -- What becomes of the action: an earlier removal took it, it has begun, or it is among what the
  -- winner took and still has to run.
  by_cases removed : .removed action.id ∈ first
  · have untaken : ∀ event ∈ first, event.takes = false := fun event among =>
      Event.takes_of_ofShutdown (untouched event among)
    rw [← List.cons_append, ← List.append_assoc] at before
    obtain ⟨store, start⟩ := before.of_append
    obtain ⟨early, late, rfl, answers⟩ := start.answers_first untaken removed
    exact .inl ⟨early, late ++ .took call taken :: rest, by simp, answers⟩
  by_cases ran : ∃ other, .began other (.run action) ∈ first ++ .took call taken :: rest
  · exact .inr (.inl ran)
  have member : action ∈ taken.actions ++ taken.postClose := by
    rw [begun]
    exact waiting.holds.mem_iff.2 ⟨stage, standing_of_kept earlier removed⟩
  refine .inr (.inr ⟨call, taken, took, member, fun finished unharmed => ?_⟩)
  rw [List.append_assoc, List.cons_append] at runs finished unharmed
  rw [← List.cons_append, ← List.append_assoc] at runs
  have unrun : .began call (.run action) ∉ rest := fun began =>
    ran ⟨call, List.mem_append_right _ (List.mem_cons_of_mem _ began)⟩
  have unharmed : ∀ work, .threw call work ∉ rest ++ .removed action.id :: later :=
    fun work threw => unharmed work (List.mem_append_right _ (List.mem_cons_of_mem _ threw))
  refine runs.began_later member unrun ?_ unharmed
  obtain early | same | late := List.mem_append.1 finished |>.imp_right List.mem_cons.1
  · cases untouched _ early
  · cases same
  · exact late

/-- What the removal of an action that was added answers, and what that means. -/
theorem Runs.removal (before : Runs (earlier ++ .added stage action :: since) prior)
    (runs : Runs (earlier ++ .added stage action :: (since ++ .removed action.id :: later)) final) :
    Removal earlier stage action since (prior.coordinator.hasAction action.id) later := by
  have start : Runs (earlier ++ .added stage action :: ([] ++ since)) prior := before
  obtain waiting | ⟨first, call, taken, rest, opening, rfl, underway, waiting, begun⟩ :=
    start.since_added nofun
  · have answer := waiting.hasAction_iff before.distinct_ids
    have untaken : ∀ event ∈ since, event.takes = false := fun event among =>
      Event.takes_of_ofShutdown (waiting.untouched event (by simp [among])).1
    refine ⟨?_, fun _ call ran began => runs.id_ne_of_began untaken began, fun refused => ?_⟩
    · rw [answer]
      exact ⟨fun kept => ⟨kept, untaken⟩, And.left⟩
    · refine .inl (before.answers_first untaken (Decidable.not_not.1 fun kept => ?_))
      rw [answer.2 kept] at refused
      cases refused
  · exact underway.removal waiting begun before runs

end

/-- What additions and removals tell, whatever else happens. -/
structure Accountable (events : List Event) (system : System) : Prop where
  /-- Every action that was added has an id of its own. -/
  distinct : ((additions events).map (·.id)).Nodup
  removals : ∀ earlier stage action since later answer,
    events = earlier ++ .added stage action :: (since ++ .removed action.id :: later) →
    Answers (earlier ++ .added stage action :: since) action.id answer →
    Removal earlier stage action since answer later
  /-- The operations that are carried out now are such events, and give these answers. -/
  adds : ∀ ref world stage name participant, Mirrors system ref world →
    ∃ more later, Steps system more later ∧
      Mirrors later ref ((add ref stage name participant).result world).2 ∧
      Admitted stage name participant more ((add ref stage name participant).result world).1
  removes : ∀ ref world id, Mirrors system ref world →
    Answers events id (system.coordinator.hasAction id) ∧
      ((remove ref id).result world).1 = .ok (system.coordinator.hasAction id) ∧
      ∃ later, Steps system [.removed id] later ∧ Mirrors later ref ((remove ref id).result world).2
  /-- A trigger that is carried out now is a call of such a schedule, whatever the participants do
  that leave the coordinator in use. -/
  triggers : ∀ (behaviour : Behaviour) (limit depth : Nat) ref world,
    (∀ call, (behaviour call).Within (Command.Retains ref)) → Mirrors system ref world →
    ∃ call more later, system.calls call = .absent ∧ Steps system more later ∧
      Mirrors later ref ((trigger (behaviour.invoker limit depth) ref).result world).2 ∧
      Told call more ((trigger (behaviour.invoker limit depth) ref).result world).1
  /-- Whatever else such participants and programs do is such a schedule, too. -/
  programs : ∀ {α : Type} (program : Program α) (behaviour : Behaviour) (limit depth : Nat)
    ref world,
    (∀ call, (behaviour call).Within (Command.Retains ref)) →
    program.Within (Command.Retains ref) → Mirrors system ref world →
    ∃ more later, Steps system more later ∧
      Mirrors later ref ((program.carryOut (behaviour.invoker limit depth)).result world).2

/-- Whatever callers do with a coordinator at the same time, each action gets an id of its own, and
a removal tells whether the action is still waiting. -/
theorem Runs.removals_tell {events : List Event} {system : System} (runs : Runs events system) :
    Accountable events system where
  distinct := runs.distinct_ids
  removals := by
    rintro earlier stage action since later _ rfl ⟨prior, before, rfl⟩
    exact before.removal runs
  adds ref world stage name participant mirrors := by
    obtain ⟨more, later, leads, shows, tells⟩ := add_goes mirrors stage name participant
    exact ⟨more, later, leads.steps, shows, tells⟩
  removes ref world id mirrors := by
    obtain ⟨answers, step, shows⟩ := remove_goes mirrors id
    exact ⟨⟨system, runs, rfl⟩, answers, _, .cons step .nil, shows⟩
  triggers behaviour limit depth ref world others mirrors := by
    obtain ⟨call, more, later, absent, leads, shows, told⟩ :=
      trigger_goes (behaviour.follows others limit depth) mirrors
    exact ⟨call, more, later, absent, leads.steps, shows, told⟩
  programs program behaviour limit depth ref world others retains mirrors := by
    obtain ⟨more, later, leads, shows⟩ :=
      program.follows others limit depth retains world system mirrors
    exact ⟨more, later, leads.steps, shows⟩

/-- An action of a shutdown removes another one that the shutdown has yet to come to. -/
theorem Runs.removals_tell_pending :
    let first : ShutdownAction := { id := ⟨1⟩, name := "first", participant := "first" }
    let second : ShutdownAction := { id := ⟨2⟩, name := "second", participant := "second" }
    let taken : Registrations := { containers := [], actions := [first], postClose := [second] }
    let before : List Event :=
      [.numbered ⟨1⟩, .added .shutdown first, .numbered ⟨2⟩, .added .postClose second, .called 0,
        .took 0 taken, .began 0 (.run first)]
    let after : List Event :=
      [.ended 0 none, .began 0 (.run second), .ended 0 none, .finished 0, .returned 0 true]
    ∃ system, Runs (before ++ .removed ⟨2⟩ :: after) system ∧
      Accountable (before ++ .removed ⟨2⟩ :: after) system ∧ Answers before ⟨2⟩ false := by
  intro first second taken before after
  have opens : ∃ system, Steps { coordinator := {} } before system ∧
      system.coordinator.hasAction ⟨2⟩ = false ∧
      ∃ last, Steps system (.removed ⟨2⟩ :: after) last :=
    ⟨_, .cons (.numbered rfl) <| .cons (.added (by decide) rfl) <| .cons (.numbered rfl) <|
      .cons (.added (by decide) rfl) <| .cons (.called rfl) <| .cons (.took rfl rfl) <|
      .cons (.began rfl) .nil, rfl, _, .cons .removed <| .cons (.ended rfl) <| .cons (.began rfl) <|
      .cons (.ended rfl) <| .cons (.finished rfl) <| .cons (.returned rfl) .nil⟩
  obtain ⟨system, steps, waits, last, goesOn⟩ := opens
  have runs := (Runs.initial false).append steps
  have all := runs.append goesOn
  exact ⟨last, all, all.removals_tell, system, runs, waits⟩

/-- The first action of a shutdown removes the second. -/
def removesNext : Behaviour
  | .shutdownAction participant =>
    if participant.name = "first" then
      .perform (.removeAction ⟨0⟩ ⟨2⟩) fun answer =>
        .perform (.remark (.flag answer)) fun _ => .done ()
    else .done ()
  | _ => .panic "unexpected call"

/-- Adds two actions and begins a shutdown. -/
def shutsDownTwo : Program Bool :=
  .perform (.addAction ⟨0⟩ .shutdown "first" "first") fun _ =>
    .perform (.addAction ⟨0⟩ .shutdown "second" "second") fun _ =>
      .perform (.trigger ⟨0⟩) fun answer => .done answer

/-- A removal answers false although the action was neither removed before nor run, and then the
action is run. -/
theorem runs_after_removal :
    ∃ last, (shutsDownTwo.carryOut (removesNext.invoker 1 0)).run.run { coordinators := [{}] } =
        (.ok true, last) ∧
      last.remarks = #[.flag false] ∧
      last.journal = #[.called 0 (.shutdownAction "first"), .answered 0 none,
        .called 0 (.shutdownAction "second"), .answered 0 none] :=
  ⟨_, rfl, rfl, rfl⟩

end Launchpad.ShutdownCoordinator
