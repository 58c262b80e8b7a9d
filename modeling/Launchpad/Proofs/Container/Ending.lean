import Launchpad.Proofs.Bootstrap.Bookkeeping
import Launchpad.Proofs.Container.ExitCodes
import Launchpad.Proofs.Container.Sealing
import Launchpad.Proofs.Launch.Aftermath
import Launchpad.Proofs.Lifecycle.Delivery
import Launchpad.Proofs.Operation.Closing

/-!
# How an application ends gracefully

A graceful end has two operations that may fail, and carries both out: it announces its code, unless
that is zero, and then closes the container. Its plan tells them apart, so what happens between them
and what each of them answered can be spoken of.
-/

namespace Launchpad

/-- Whether a call belongs to the close of a container. -/
def Call.isClosing : Call → Bool
  | onEvent _ (.contextClosed _) => true
  | containerClosed _ => true
  | _ => false

namespace Container

/-- A close makes no other calls. -/
theorem close_only (invoke : Invoker) (ref : ContainerRef) :
    close (Invoker.only Call.isClosing invoke) ref = close invoke ref := by
  have callbacks :
      runCallback (Invoker.only Call.isClosing invoke) ref = runCallback invoke ref := by
    funext callback
    cases callback <;> rfl
  unfold close closeOnce
  rw [callbacks]
  rfl

/-- The end of a container whose code was announced: the container is closed, and if anything has
failed, that is logged and the code is not zero. -/
def closePlan (held : Container) (ref : ContainerRef) (code : ExitCode)
    (published : Except Failure Unit) : Plan ExitCode := do
  let closed ← Plan.ask (.close ref)
  match published, closed with
  | .ok (), .ok () => return code
  | .error failure, _ => unclean failure
  | .ok (), .error failure => unclean failure
where
  /-- Logs the failure; the code is not zero. -/
  unclean (failure : Failure) : Plan ExitCode := do
    Plan.ask (.log .error "Failed to exit cleanly" [
      ("context", held.id), ("error", failure.message)])
    return if code ≠ 0 then code else 1

/-- What an application intends that ends with a code. -/
def exitPlan (held : Container) (ref : ContainerRef) (code : ExitCode) : Plan ExitCode := do
  let published ←
    if code ≠ 0 then Plan.ask (.publish ref (.exitCode code)) else pure (.ok ())
  closePlan held ref code published

/-- The plan of the close that ends an exit is the conclusion of the exit. -/
theorem carryOut_closePlan (invoke : Invoker) (held : Container) (ref : ContainerRef)
    (code : ExitCode) (published : Except Failure Unit) :
    (closePlan held ref code published).carryOut invoke =
      exitWith.conclude invoke ref code held published := by
  rw [closePlan, Plan.carryOut_bind, Plan.carryOut_ask]
  refine congrArg _ (funext fun closed => ?_)
  cases published <;> cases closed <;> rfl

/-- The plan is what ends an application. -/
theorem result_exitWith (invoke : Invoker) (ref : ContainerRef) (code : ExitCode) (world : World) :
    (exitWith invoke ref code).result world =
      ((exitPlan (world.container ref) ref code).carryOut invoke).result world := by
  have looks : (Act.container ref).result world = (.ok (world.container ref), world) := rfl
  rw [exitWith, Act.result_bind, looks]
  dsimp only
  rw [exitPlan]
  split
  · rw [Plan.carryOut_bind, Plan.carryOut_ask]
    simp only [carryOut_closePlan]
    rfl
  · simp only [Plan.carryOut_bind, carryOut_closePlan]
    rfl

/-- The code that an end comes to: one that cannot be taken for a success if anything has failed. -/
def endCode (code : ExitCode) : (published closed : Except Failure Unit) → ExitCode
  | .ok (), .ok () => code
  | _, _ => if code ≠ 0 then code else 1

/-- The code was announced unless it is zero: what came of that, and the world that it left. -/
def Announced (invoke : Invoker) (ref : ContainerRef) (code : ExitCode) (world : World)
    (published : Except Failure Unit) (between : World) : Prop :=
  if code = 0 then published = .ok () ∧ between = world
  else (publish invoke ref (.exitCode code)).result world = (.ok published, between)

/-- The operations of an end with a code, in order. -/
def endMilestones (ref : ContainerRef) (code : ExitCode) : List Milestone :=
  Application.announcingMilestones (some ref) code ++ [.closing ref]

/-- How an application ends with a code: the operations that it has carried out, what it comes to,
and the world that it leaves. -/
inductive Ends (invoke : Invoker) (ref : ContainerRef) (code : ExitCode) (world : World) :
    List Milestone → Except Abort ExitCode → World → Prop where
  /-- The announcement did not come to its end. -/
  | unannounced {abort after} (opinion : code ≠ 0)
      (publishes : (publish invoke ref (.exitCode code)).result world = (.error abort, after)) :
      Ends invoke ref code world [.publishing ref (.exitCode code)] (.error abort) after
  /-- The close did not come to its end. -/
  | unclosed {published between abort after}
      (announced : Announced invoke ref code world published between)
      (closes : (close invoke ref).result between = (.error abort, after)) :
      Ends invoke ref code world (endMilestones ref code) (.error abort) after
  /-- Both came to their ends. At most a log record follows. -/
  | ended {published between closed after last}
      (announced : Announced invoke ref code world published between)
      (closes : (close invoke ref).result between = (.ok closed, after))
      (journal : last.journal = after.journal) (containers : last.containers = after.containers) :
      Ends invoke ref code world (endMilestones ref code) (.ok (endCode code published closed)) last

section

variable {invoke : Invoker} {ref : ContainerRef} {code : ExitCode} {world : World}

/-- The close of a container whose code was announced. -/
theorem ends_closePlan (held : Container) {published : Except Failure Unit} {between : World}
    (announced : Announced invoke ref code world published between) :
    let execution := (closePlan held ref code published).execution invoke between
    Ends invoke ref code world
      (Application.announcingMilestones (some ref) code ++ milestonesOf execution.replies)
      execution.result execution.world := by
  dsimp only
  cases closes : (close invoke ref).result between with
  | mk answer after =>
    have asked : ((Errand.close ref).carryOut invoke).run.run between = (answer, after) := closes
    cases answer with
    | error abort =>
      have broken : (closePlan held ref code published).execution invoke between =
          { record := [⟨between, ⟨.close ref, .error abort⟩, after⟩], result := .error abort,
            world := after } := by
        change Plan.execution invoke (.perform (.close ref) _) between = _
        rw [Plan.execution, asked]
      rw [broken]
      exact .unclosed announced closes
    | ok closed =>
      have goesOn : ∃ rest last, (closePlan held ref code published).execution invoke between =
          { record := ⟨between, ⟨.close ref, .ok closed⟩, after⟩ :: rest,
            result := .ok (endCode code published closed), world := last } ∧
          milestonesOf (rest.map (·.reply)) = [] ∧ last.journal = after.journal ∧
          last.containers = after.containers := by
        change ∃ rest last, Plan.execution invoke (.perform (.close ref) _) between = _ ∧ _
        rw [Plan.execution, asked]
        dsimp only
        cases published <;> cases closed <;> exact ⟨_, _, rfl, rfl, rfl, rfl⟩
      obtain ⟨rest, last, whole, quiet, journal, containers⟩ := goesOn
      have operations : milestonesOf
          ((closePlan held ref code published).execution invoke between).replies =
            [.closing ref] := by
        rw [whole]
        exact congrArg (Milestone.closing ref :: ·) quiet
      rw [operations, whole]
      exact .ended announced closes journal containers

/-- An end with a code announces it unless it is zero, and then closes the container. -/
theorem ends_exitPlan (held : Container) :
    let execution := (exitPlan held ref code).execution invoke world
    Ends invoke ref code world (milestonesOf execution.replies) execution.result
      execution.world := by
  dsimp only
  unfold exitPlan
  by_cases silent : code = 0
  · have announced : Announced invoke ref code world (.ok ()) world := by simp [Announced, silent]
    have ends := ends_closePlan held announced
    have nothing : Application.announcingMilestones (some ref) code = [] := by
      simp [Application.announcingMilestones, silent]
    rw [nothing] at ends
    rw [if_neg (not_not.2 silent)]
    exact ends
  · have opinion : Application.announcingMilestones (some ref) code =
        [.publishing ref (.exitCode code)] := by
      simp [Application.announcingMilestones, silent]
    rw [if_pos silent]
    change Ends invoke ref code world
      (milestonesOf (Plan.execution invoke (.perform (.publish ref (.exitCode code)) _)
        world).replies)
      (Plan.execution invoke (.perform (.publish ref (.exitCode code)) _) world).result
      (Plan.execution invoke (.perform (.publish ref (.exitCode code)) _) world).world
    cases publishes : (publish invoke ref (.exitCode code)).result world with
    | mk answer between =>
      have asked : ((Errand.publish ref (.exitCode code)).carryOut invoke).run.run world =
          (answer, between) := publishes
      rw [Plan.execution, asked]
      cases answer with
      | error abort => exact .unannounced silent publishes
      | ok published =>
        have announced : Announced invoke ref code world published between := by
          simp [Announced, silent, publishes]
        have ends := ends_closePlan held announced
        rw [opinion] at ends
        exact ends

/-- The code of an end is not zero if anything has failed, and at least one unless the code to be
announced is negative. -/
structure EndCodes (code : ExitCode) (published closed : Except Failure Unit) (value : ExitCode) :
    Prop where
  clean : published = .ok () → closed = .ok () → value = code
  unclean : published ≠ .ok () ∨ closed ≠ .ok () → value = if code ≠ 0 then code else 1
  atLeastOne : published ≠ .ok () ∨ closed ≠ .ok () → 0 ≤ code → 1 ≤ value
  success : value = 0 → code = 0 ∧ published = .ok () ∧ closed = .ok ()

/-- The code that an exit ends with, with or without a failure on the way. -/
theorem endCodes (code : ExitCode) (published closed : Except Failure Unit) :
    EndCodes code published closed (endCode code published closed) := by
  constructor <;> cases published <;> cases closed <;> grind [endCode]

/-- What an end that came to its end has done, besides the code that it comes to. -/
structure Completes (depth : Nat) (ref : ContainerRef) (code : ExitCode) (world : World)
    (published : Except Failure Unit) (between last : World) : Prop where
  /-- Whom the end has called: the listeners that the container had, about the code, up to the first
  that failed; and then whoever is called when a container is closed. -/
  calls : ∃ lines others, Writes depth (lines ++ others) world last ∧
    (if code = 0 then lines = [] else
      Asked depth (ApplicationListener.hears (.exitCode code)) (fun _ failure => failure)
        (world.container ref).listeners (.ok published) lines) ∧
    ∀ call ∈ others.filterMap JournalEntry.call?, call.isClosing = true
  /-- The container is closed. -/
  shut : ref.index < between.containers.length → (last.container ref).isClosed = true

/-- Whatever the participants do, a container is closed after a close. -/
theorem shut_of_close (calls : ∀ call : Call, Act.Respects (StaysClosed ref) (invoke call))
    {last : World} {answer : Except Failure Unit} (there : ref.index < world.containers.length)
    (ran : (close invoke ref).result world = (.ok answer, last)) :
    (last.container ref).isClosed = true := by
  have framing := StaysClosed.framing ref
  have once := closeOnce_of_close ran
  have made : ref.index < (world.modifyContainer ref countClose).containers.length := by
    simpa [World.modifyContainer] using there
  generalize world.modifyContainer ref countClose = counted at made once
  cases closed : (counted.container ref).isClosed with
  | true =>
    rw [closeOnce_of_closed closed] at once
    cases once
    exact closed
  | false =>
    -- The container is shut first, and whatever the close does after that opens nothing.
    obtain ⟨announced, unwound, announces, unwinds, logs⟩ := sections_of_closeOnce closed once
    have shut : ((counted.modifyContainer ref fun _ => (counted.container ref).shut).container
        ref).isClosed = true := by
      rw [World.container_modifyContainer_self _ _ _ made]
      rfl
    have announcing : Act.Respects (StaysClosed ref)
        (announceClose invoke ref (counted.container ref)) := by
      unfold announceClose
      split
      · refine .bind framing (respects_publish framing calls ref _) fun told => ?_
        split
        · exact .log framing _ _ _
        · exact .of_pure framing _
      · exact .of_pure framing _
    have unwinding : Act.Respects (StaysClosed ref)
        (Act.forEach (runCallback invoke ref) (counted.container ref).closeCallbacks) := by
      refine .forEach framing (fun callback => ?_) _
      cases callback with
      | custom participant => exact calls _
      | deregister coordinator =>
        refine .look framing (fun _ => rfl) fun known => ?_
        split
        · exact .of_pure framing _
        · exact .of_containers fun _ => rfl
    have logging : Act.Respects (StaysClosed ref)
        (Act.log .info "Context closed" [("context", (counted.container ref).id)]) :=
      .log framing _ _ _
    exact ((((announcing.leads announces).trans (unwinding.leads unwinds)).trans
      (logging.leads logs)) shut).1

end

/-- An end that came to its end has called whom it should, and the container is closed. -/
theorem completes_of_ended (behaviour : Behaviour) (limit depth : Nat) {ref : ContainerRef}
    {code : ExitCode} {world between after last : World} {published closed : Except Failure Unit}
    (announced : Announced (behaviour.invoker (limit + 1) depth) ref code world published between)
    (closes : (close (behaviour.invoker (limit + 1) depth) ref).result between =
      (.ok closed, after))
    (journal : last.journal = after.journal) (containers : last.containers = after.containers) :
    Completes depth ref code world published between last := by
  have closing : CallsOnly depth Call.isClosing between after := by
    have only := Container.respects_close
      ((CallsOnly.framing depth Call.isClosing).coordinating.containing ref)
      (behaviour.calls_only limit depth Call.isClosing)
    rw [close_only] at only
    exact only.leads closes
  obtain ⟨others, written, allowed⟩ := closing
  have finished : Writes depth others between last := by
    simpa using written.trans (.of_journal journal)
  constructor
  · unfold Announced at announced
    split at announced
    · rename_i silent
      obtain ⟨rfl, rfl⟩ := announced
      exact ⟨[], others, finished, by simp [silent], allowed⟩
    · rename_i opinion
      obtain ⟨lines, asked, told⟩ := asks_publish behaviour limit depth ref (.exitCode code) world
      rw [announced] at asked told
      exact ⟨lines, others, told.trans finished, by rwa [if_neg opinion], allowed⟩
  · intro there
    rw [World.container_congr containers]
    exact shut_of_close (behaviour.staysClosed ref (limit + 1) depth) there closes

/-- How an application ends gracefully. -/
structure GracefulEnd (invoke : Invoker) (depth : Nat) (ref : ContainerRef) (code : ExitCode)
    (world : World) (execution : Execution ExitCode) : Prop where
  /-- Only an announcement that does not come to its end keeps the container from being closed. -/
  ends : Ends invoke ref code world (milestonesOf execution.replies) execution.result
    execution.world
  /-- An end that comes to its end has announced the code once, unless it is zero, and then closed
  the container once, whatever came of the announcement. -/
  completed : ∀ value, execution.result = .ok value →
    milestonesOf execution.replies = endMilestones ref code ∧
    ∃ published closed between after, Announced invoke ref code world published between ∧
      (close invoke ref).result between = (.ok closed, after) ∧
      EndCodes code published closed value ∧
      Completes depth ref code world published between execution.world

/-- A graceful end combines the codes of the caller and of the container, announces the code that
this comes to unless it is zero, to the listeners that the container has, and closes the container,
whatever any of them answers. It comes to that code if both have succeeded. If one of them has
failed it comes to the code too, or to one in place of zero: that is at least one unless the code is
negative, and never zero. -/
theorem exit_announces_and_closes (behaviour : Behaviour) (limit depth : Nat) (ref : ContainerRef)
    (codes : List ExitCode) (world : World) :
    let invoke := behaviour.invoker (limit + 1) depth
    let code := ExitCode.combine (codes ++ (world.container ref).generators)
    let execution := (exitPlan (world.container ref) ref code).execution invoke world
    (exit invoke ref codes).result world = (execution.result, execution.world) ∧
      GracefulEnd invoke depth ref code world execution := by
  intro invoke code execution
  have ends : Ends invoke ref code world (milestonesOf execution.replies) execution.result
      execution.world := ends_exitPlan (world.container ref)
  refine ⟨?_, ends, fun value ended => ?_⟩
  · rw [result_exit, result_exitWith]
    exact Plan.run_carryOut invoke _ world
  · generalize milestonesOf execution.replies = milestones at ends ⊢
    rw [ended] at ends
    cases ends with
    | @ended published between closed after _ announced closes journal containers =>
      refine ⟨rfl, published, closed, between, after, announced, closes, endCodes .., ?_⟩
      exact completes_of_ended behaviour limit depth announced closes journal containers

/-- A container with listeners, the close of which may fail. -/
def attended (listeners : List ApplicationListener) (closeFailure : Option String) : World where
  containers := [{
    id := "attended"
    kind := .standalone
    phase := .active
    listeners
    tracking := closeFailure.map fun message => { closeFailure := some message } }]

/-- Listeners fail when they are told of an exit code. -/
def refusing : Behaviour
  | .onEvent _ (.exitCode _) => .done (.error (.text "busy"))
  | .onEvent .. => .done (.ok ())
  | _ => .panic "unexpected call"

/-- An application ends with a negative code although its listener has failed, or although its
container could not be closed. -/
theorem exit_below_one_after_failure :
    (∃ failure between last,
      (publish (refusing.invoker 1 0) ⟨0⟩ (.exitCode (-3))).result
        (attended [{ participant := "gate" }] none) = (.ok (.error failure), between) ∧
      (exit (refusing.invoker 1 0) ⟨0⟩ [-3]).result
        (attended [{ participant := "gate" }] none) = (.ok (-3), last)) ∧
    (∃ failure between closed last,
      (publish (refusing.invoker 1 0) ⟨0⟩ (.exitCode (-3))).result (attended [] (some "stuck")) =
        (.ok (.ok ()), between) ∧
      (close (refusing.invoker 1 0) ⟨0⟩).result between = (.ok (.error failure), closed) ∧
      (exit (refusing.invoker 1 0) ⟨0⟩ [-3]).result (attended [] (some "stuck")) =
        (.ok (-3), last)) ∧
    ¬ (1 : ExitCode) ≤ -3 :=
  ⟨⟨_, _, _, rfl, rfl⟩, ⟨_, _, _, _, rfl, rfl, rfl⟩, by decide⟩

end Container

end Launchpad
