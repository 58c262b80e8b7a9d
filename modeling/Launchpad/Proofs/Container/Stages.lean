import Launchpad.Proofs.Container.Moments

/-!
# What the moments of a container lead to

A stage is a world together with what the closes that are under way still owe it: callbacks that
they took from the container and have not run yet, and announcements that they have not made yet. A
close takes callbacks before it runs any, and those that it runs may close the container, give it
callbacks and so on; so neither the container nor the program knows what is owed, and a stage says
it. Every moment leads from a stage to a stage. What a container is owed and what was done for it
balance at every moment, and therefore over all of them.
-/

namespace Launchpad

/-- What the end of a container depends on stays as it is, and nobody is called. -/
structure Steady (ref : ContainerRef) (before after : World) : Prop where
  made : ref.index < before.containers.length → ref.index < after.containers.length
  closed : ref.index < before.containers.length →
    (after.container ref).isClosed = (before.container ref).isClosed
  callbacks : ref.index < before.containers.length →
    (after.container ref).closeCallbacks = (before.container ref).closeCallbacks
  refreshFailure : ref.index < before.containers.length →
    (after.container ref).refreshFailure = (before.container ref).refreshFailure
  calls : after.calls = before.calls

namespace Steady

variable {ref : ContainerRef}

theorem refl (world : World) : Steady ref world world :=
  ⟨fun made => made, fun _ => rfl, fun _ => rfl, fun _ => rfl, rfl⟩

theorem trans {first second third : World} (start : Steady ref first second)
    (rest : Steady ref second third) : Steady ref first third where
  made there := rest.made (start.made there)
  closed there := (rest.closed (start.made there)).trans (start.closed there)
  callbacks there := (rest.callbacks (start.made there)).trans (start.callbacks there)
  refreshFailure there :=
    (rest.refreshFailure (start.made there)).trans (start.refreshFailure there)
  calls := rest.calls.trans start.calls

/-- The containers are left as they are. -/
theorem of_containers {before after : World} (same : after.containers = before.containers)
    (calls : after.calls = before.calls) : Steady ref before after where
  made there := by rwa [same]
  closed _ := by rw [World.container, World.container, same]
  callbacks _ := by rw [World.container, World.container, same]
  refreshFailure _ := by rw [World.container, World.container, same]
  calls := calls

/-- A container is changed in a way that the end of this one does not depend on. -/
theorem modifyContainer (world : World) (held : ContainerRef) {change : Container → Container}
    (kept : held = ref → (change (world.container ref)).isClosed = (world.container ref).isClosed ∧
      (change (world.container ref)).closeCallbacks = (world.container ref).closeCallbacks ∧
      (change (world.container ref)).refreshFailure = (world.container ref).refreshFailure) :
    Steady ref world (world.modifyContainer held change) := by
  have made : ref.index < world.containers.length →
      ref.index < (world.modifyContainer held change).containers.length := by
    intro there
    simpa [World.modifyContainer] using there
  by_cases same : held = ref
  · subst same
    obtain ⟨closed, callbacks, refreshFailure⟩ := kept rfl
    refine ⟨made, ?_, ?_, ?_, rfl⟩ <;> intro there <;>
      rw [World.container_modifyContainer_self _ _ _ there] <;> assumption
  · have other : (world.modifyContainer held change).container ref = world.container ref :=
      World.container_modifyContainer_of_ne (Ne.symm same) change
    refine ⟨made, ?_, ?_, ?_, rfl⟩ <;> intro _ <;> rw [other]

/-- Records and furnishings do not concern the end of a container. -/
theorem framing (ref : ContainerRef) : Framing (Steady ref) where
  refl := refl
  trans := trans
  aside containers _ _ journal :=
    of_containers containers (by rw [World.calls, World.calls, journal])
  furnish world held change furnishes := by
    apply modifyContainer
    rintro rfl
    refine ⟨?_, furnishes.closeCallbacks, furnishes.refreshFailure⟩
    rw [Container.isClosed, Container.isClosed, furnishes.phase]

/-- A container that is made is none of those that there are. -/
theorem make {world after : World} {made : List Container}
    (added : after.containers = world.containers ++ made) (calls : after.calls = world.calls) :
    Steady ref world after := by
  have same : ref.index < world.containers.length → after.container ref = world.container ref := by
    intro there
    rw [World.container, World.container, added, List.getElem?_append_left there]
  refine ⟨?_, ?_, ?_, ?_, calls⟩ <;> intro there
  · rw [added, List.length_append]
    omega
  all_goals rw [same there]

end Steady

/-- A command was carried out as it is recorded. -/
def Exchange.Genuine (exchange : Exchange) : Prop :=
  ∃ invoke : Invoker,
    (exchange.command.carryOut invoke).result exchange.found = (.ok exchange.answer, exchange.left)

namespace Container

/-- A world with what a close still owes: callbacks that are to run, and an announcement. -/
structure Stage where
  world : World
  due : List CloseCallback := []
  unannounced : Nat := 0

/-- What a moment leads to. -/
inductive Step (ref : ContainerRef) : Stage → Moment → Stage → Prop
  | called {world due unannounced} (depth : Nat) (call : Call) :
      Step ref ⟨world, due, unannounced⟩ ⟨world, .called call⟩
        ⟨world.note (.called depth call), due, unannounced⟩
  | asked {world due unannounced exchange} (found : exchange.found = world)
      (genuine : exchange.Genuine)
      (other : ∀ participant, exchange.command ≠ .onClose ref participant) :
      Step ref ⟨world, due, unannounced⟩ ⟨world, .asked exchange⟩ ⟨world, due, unannounced⟩
  | kept {world due unannounced participant answer left}
      (genuine : Exchange.Genuine ⟨.onClose ref participant, world, answer, left⟩)
      (isOpen : (world.container ref).isClosed = false) :
      Step ref ⟨world, due, unannounced⟩
        ⟨world, .asked ⟨.onClose ref participant, world, answer, left⟩⟩
        ⟨world.modifyContainer ref (·.addCallback (.custom participant)), due, unannounced⟩
  | passed {world due unannounced participant answer left}
      (genuine : Exchange.Genuine ⟨.onClose ref participant, world, answer, left⟩)
      (closed : (world.container ref).isClosed = true) :
      Step ref ⟨world, due, unannounced⟩
        ⟨world, .asked ⟨.onClose ref participant, world, answer, left⟩⟩
        ⟨world, .custom participant :: due, unannounced⟩
  | shut {world due unannounced} (isOpen : (world.container ref).isClosed = false) :
      Step ref ⟨world, due, unannounced⟩ ⟨world, .shut⟩
        ⟨world.modifyContainer ref fun _ => (world.container ref).shut,
          (world.container ref).closeCallbacks ++ due,
          unannounced + if (world.container ref).isActive then 1 else 0⟩
  | announced {world due unannounced} (closed : (world.container ref).isClosed = true) :
      Step ref ⟨world, due, unannounced + 1⟩
        ⟨world, .announced (.contextClosed (world.container ref).id)⟩ ⟨world, due, unannounced⟩
  | ran {world due unannounced} (closed : (world.container ref).isClosed = true) (depth : Nat)
      (participant : Participant) :
      Step ref ⟨world, .custom participant :: due, unannounced⟩
        ⟨world, .ran (.custom participant)⟩
        ⟨world.note (.called depth (.containerClosed participant)), due, unannounced⟩
  | tookOff {world due unannounced} (closed : (world.container ref).isClosed = true)
      (coordinator : CoordinatorRef) :
      Step ref ⟨world, .deregister coordinator :: due, unannounced⟩
        ⟨world, .ran (.deregister coordinator)⟩ ⟨world, due, unannounced⟩

/-- Moments one after the other. What happens between them is none of the container's end. -/
inductive Passes (ref : ContainerRef) : Stage → List Moment → Stage → Prop
  | done {stage} : Passes ref stage [] stage
  | quiet {world between due unannounced moments last} (steady : Steady ref world between)
      (rest : Passes ref ⟨between, due, unannounced⟩ moments last) :
      Passes ref ⟨world, due, unannounced⟩ moments last
  | step {first moment between moments last} (step : Step ref first moment between)
      (rest : Passes ref between moments last) : Passes ref first (moment :: moments) last

variable {ref : ContainerRef} {first between last : Stage} {moments more : List Moment}
  {moment : Moment}

namespace Passes

/-- Moments up to a stage, and moments from it. -/
theorem append (start : Passes ref first moments between) (rest : Passes ref between more last) :
    Passes ref first (moments ++ more) last := by
  induction start with
  | done => exact rest
  | quiet steady _ ih => exact .quiet steady (ih rest)
  | step step _ ih => exact .step step (ih rest)

/-- Nothing happens that the end of the container depends on. -/
theorem of_steady {world after : World} {due : List CloseCallback} {unannounced : Nat}
    (steady : Steady ref world after) :
    Passes ref ⟨world, due, unannounced⟩ [] ⟨after, due, unannounced⟩ := .quiet steady .done

/-- What comes before and after a moment. -/
theorem at_moment (passes : Passes ref first (moments ++ moment :: more) last) :
    ∃ before after, Passes ref first moments before ∧ Step ref before moment after ∧
      Passes ref after more last := by
  generalize whole : moments ++ moment :: more = all at passes
  induction passes generalizing moments with
  | done => simp at whole
  | quiet steady _ ih =>
    obtain ⟨before, after, start, step, rest⟩ := ih whole
    exact ⟨before, after, .quiet steady start, step, rest⟩
  | step here goesOn ih =>
    cases moments with
    | nil =>
      cases whole
      exact ⟨_, _, .done, here, goesOn⟩
    | cons other others =>
      cases whole
      obtain ⟨before, after, start, step, rest⟩ := ih rfl
      exact ⟨before, after, .step here start, step, rest⟩

end Passes

/-- A container that was made, has nothing left to run once it is closed, and is refreshed unless
something in its life is against it. -/
structure Sound (ref : ContainerRef) (world : World) : Prop where
  made : ref.index < world.containers.length
  settled : (world.container ref).isClosed = true → (world.container ref).closeCallbacks = []
  plain : (world.container ref).refreshFailure = none

/-- One for a closed container, and none for an open one. -/
def ended (ref : ContainerRef) (world : World) : Nat :=
  if (world.container ref).isClosed then 1 else 0

/-- The callbacks that are still to run. -/
def owed (ref : ContainerRef) (stage : Stage) : List CloseCallback :=
  stage.due ++ (stage.world.container ref).closeCallbacks

/-- What a moment says of the stages before and after it. -/
structure Entry (ref : ContainerRef) (first : Stage) (moment : Moment) (last : Stage) : Prop where
  found : moment.world = first.world
  sound : Sound ref first.world → Sound ref last.world
  ended : Sound ref first.world →
    ended ref last.world = ended ref first.world + if moment.isShut then 1 else 0
  announced : last.unannounced + (if moment.isAnnounced then 1 else 0) =
    first.unannounced + if moment.isEnd ref then 1 else 0
  callbacks : Sound ref first.world → ∀ callback,
    (owed ref last).count callback + moment.runs?.toList.count callback =
      (owed ref first).count callback + (moment.gives? ref).toList.count callback
  calls : last.world.calls = first.world.calls ++ moment.call?.toList

namespace Entry

/-- A moment at which nothing changes but that participants are called. -/
theorem of_aside {world after : World} {due due' : List CloseCallback}
    {unannounced unannounced' : Nat} {happening : Happening}
    (same : after.containers = world.containers)
    (shut : Moment.isShut ⟨world, happening⟩ = false)
    (announced :
      unannounced' + (if Moment.isAnnounced ⟨world, happening⟩ then 1 else 0) = unannounced)
    (callbacks : ∀ callback,
      due'.count callback + (Moment.runs? ⟨world, happening⟩).toList.count callback =
        due.count callback + (Moment.gives? ref ⟨world, happening⟩).toList.count callback)
    (calls : after.calls = world.calls ++ (Moment.call? ⟨world, happening⟩).toList) :
    Entry ref ⟨world, due, unannounced⟩ ⟨world, happening⟩ ⟨after, due', unannounced'⟩ := by
  have container : after.container ref = world.container ref := by
    rw [World.container, World.container, same]
  refine ⟨rfl, ?_, ?_, ?_, ?_, calls⟩
  · rintro ⟨made, settled, plain⟩
    refine ⟨?_, ?_, ?_⟩
    · rwa [same]
    · rwa [container]
    · rwa [container]
  · intro _
    simp [Container.ended, container, shut]
  · simp [Moment.isEnd, shut, announced]
  · intro _ callback
    have balance := callbacks callback
    simp only [owed, container, List.count_append]
    omega

end Entry

/-- Only a registration of a close callback with the container gives it one. -/
theorem gives?_asked {world : World} {exchange : Exchange}
    (other : ∀ participant, exchange.command ≠ .onClose ref participant) :
    Moment.gives? ref ⟨world, .asked exchange⟩ = none := by
  unfold Moment.gives?
  split
  · rename_i held participant _ _ _ asked
    cases asked
    rw [if_neg]
    rintro rfl
    exact other participant rfl
  · rfl

/-- A registration of a close callback with the container gives it one, whatever the answer is. -/
theorem gives?_onClose (world found left : World) (participant : Participant)
    (answer : (Command.onClose ref participant).Answer) :
    Moment.gives? ref ⟨world, .asked ⟨.onClose ref participant, found, answer, left⟩⟩ =
      some (.custom participant) := if_pos rfl

/-- Every step adds to what has ended, what was announced and what has run just what its moment
says. -/
theorem Step.entry (step : Step ref first moment last) : Entry ref first moment last := by
  cases step with
  | called depth call => exact .of_aside rfl rfl rfl (fun _ => rfl) (World.calls_note ..)
  | asked found genuine other =>
    refine .of_aside rfl rfl rfl (fun callback => ?_) (List.append_nil _).symm
    rw [gives?_asked other]
    rfl
  | passed genuine closed =>
    refine .of_aside rfl rfl rfl (fun callback => ?_) (List.append_nil _).symm
    rw [gives?_onClose, ← List.count_append, List.count_append]
    simp [Moment.runs?, List.count_cons]
  | announced closed => exact .of_aside rfl rfl rfl (fun _ => rfl) (List.append_nil _).symm
  | ran closed depth participant =>
    refine .of_aside rfl rfl rfl (fun callback => ?_) (World.calls_note ..)
    simp [Moment.runs?, Moment.gives?, List.count_cons]
  | tookOff closed coordinator =>
    refine .of_aside rfl rfl rfl (fun callback => ?_) (List.append_nil _).symm
    simp [Moment.runs?, Moment.gives?, List.count_cons]
  | @kept world due unannounced participant answer left genuine isOpen =>
    have changed : Sound ref world → (world.modifyContainer ref
        (·.addCallback (.custom participant))).container ref =
          (world.container ref).addCallback (.custom participant) := fun sound =>
      World.container_modifyContainer_self _ _ _ sound.made
    have still : ((world.container ref).addCallback (.custom participant)).isClosed = false :=
      isOpen
    refine ⟨rfl, ?_, ?_, rfl, ?_, (List.append_nil _).symm⟩
    · intro sound
      refine ⟨by simpa [World.modifyContainer] using sound.made, ?_, ?_⟩ <;> rw [changed sound]
      · exact fun closed => absurd closed (by rw [still]; exact Bool.false_ne_true)
      · exact sound.plain
    · intro sound
      simp [Container.ended, changed sound, still, isOpen, Moment.isShut]
    · intro sound callback
      simp only [owed, changed sound, gives?_onClose, Moment.runs?]
      simp [addCallback, List.count_append]
      omega
  | @shut world due unannounced isOpen =>
    have changed : Sound ref world → (world.modifyContainer ref
        fun _ => (world.container ref).shut).container ref = (world.container ref).shut :=
      fun sound => World.container_modifyContainer_self _ _ _ sound.made
    refine ⟨rfl, ?_, ?_, ?_, ?_, (List.append_nil _).symm⟩
    · intro sound
      refine ⟨by simpa [World.modifyContainer] using sound.made, ?_, ?_⟩ <;> rw [changed sound]
      · exact fun _ => rfl
      · exact sound.plain
    · intro sound
      have closed : (world.container ref).shut.isClosed = true := rfl
      simp [Container.ended, changed sound, closed, isOpen, Moment.isShut]
    · simp [Moment.isAnnounced, Moment.isEnd, Moment.isShut]
    · intro sound callback
      simp only [owed, changed sound, Moment.runs?, Moment.gives?, List.count_append]
      simp [Container.shut]
      omega

/-- The first item is chosen or not, and the rest follows. -/
theorem filterMap_cons_toList {α β : Type} (choose : α → Option β) (item : α) (items : List α) :
    (item :: items).filterMap choose = (choose item).toList ++ items.filterMap choose := by
  rw [List.filterMap_cons]
  cases choose item <;> rfl

/-- What moments one after the other say of the stages before and after them. -/
structure Account (ref : ContainerRef) (first : Stage) (moments : List Moment) (last : Stage) :
    Prop where
  sound : Sound ref first.world → Sound ref last.world
  /-- The container is shut exactly when it becomes closed. -/
  ended : Sound ref first.world →
    ended ref last.world = ended ref first.world + moments.countP Moment.isShut
  /-- Every close of an active container is announced. -/
  announced : last.unannounced + moments.countP Moment.isAnnounced =
    first.unannounced + moments.countP (Moment.isEnd ref)
  /-- Every callback that was there or was given has run or is still owed. -/
  callbacks : Sound ref first.world → ∀ callback,
    (owed ref last).count callback + (moments.filterMap Moment.runs?).count callback =
      (owed ref first).count callback + (moments.filterMap (Moment.gives? ref)).count callback
  calls : last.world.calls = first.world.calls ++ moments.filterMap Moment.call?

/-- The account of a whole passage, by induction over its steps. -/
theorem Passes.account (passes : Passes ref first moments last) :
    Account ref first moments last := by
  induction passes with
  | done => exact ⟨fun sound => sound, fun _ => rfl, rfl, fun _ _ => rfl, (List.append_nil _).symm⟩
  | @quiet world between due unannounced moments last steady _ ih =>
    have sound : Sound ref world → Sound ref between := fun ⟨made, settled, plain⟩ =>
      ⟨steady.made made, by rwa [steady.closed made, steady.callbacks made],
        by rwa [steady.refreshFailure made]⟩
    refine ⟨ih.sound ∘ sound, ?_, ih.announced, ?_, ?_⟩
    · intro before
      rw [ih.ended (sound before), Container.ended, Container.ended, steady.closed before.made]
    · intro before callback
      rw [ih.callbacks (sound before), owed, owed, steady.callbacks before.made]
    · rw [ih.calls, steady.calls]
  | @step first moment between moments last step _ ih =>
    have entry := step.entry
    refine ⟨ih.sound ∘ entry.sound, ?_, ?_, ?_, ?_⟩
    · intro before
      rw [ih.ended (entry.sound before), entry.ended before, List.countP_cons]
      omega
    · have here := entry.announced
      have later := ih.announced
      rw [List.countP_cons, List.countP_cons]
      omega
    · intro before callback
      have here := entry.callbacks before callback
      have later := ih.callbacks (entry.sound before) callback
      rw [filterMap_cons_toList, filterMap_cons_toList, List.count_append, List.count_append]
      omega
    · rw [ih.calls, entry.calls, filterMap_cons_toList, List.append_assoc]

/-- A closed container stays closed. -/
theorem Account.stays (account : Account ref first moments last) (sound : Sound ref first.world)
    (closed : (first.world.container ref).isClosed = true) :
    (last.world.container ref).isClosed = true := by
  have count := account.ended sound
  unfold Container.ended at count
  rw [closed] at count
  cases after : (last.world.container ref).isClosed with
  | true => rfl
  | false =>
    simp only [after] at count
    simp only [if_true, Bool.false_eq_true, if_false] at count
    omega

/-- Whatever happens after the container is shut finds it closed. -/
theorem Passes.closed_since (passes : Passes ref first (moments ++ moment :: more) last)
    (sound : Sound ref first.world) (shuts : moment.isShut = true) :
    ∀ later ∈ more, Sound ref later.world ∧ (later.world.container ref).isClosed = true := by
  intro later among
  obtain ⟨before, after, start, step, rest⟩ := passes.at_moment
  have reached := start.account.sound sound
  have ended := step.entry.ended reached
  obtain ⟨earlier, others, rfl⟩ := List.append_of_mem among
  obtain ⟨found, left, between, here, -⟩ := rest.at_moment
  have sound' := step.entry.sound reached
  have closed : (after.world.container ref).isClosed = true := by
    cases isOpen : (after.world.container ref).isClosed with
    | true => rfl
    | false => simp [Container.ended, isOpen, shuts] at ended
  rw [here.entry.found]
  exact ⟨between.account.sound sound', between.account.stays sound' closed⟩

end Container

end Launchpad
