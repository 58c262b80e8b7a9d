import Launchpad.Proofs.Launch.Following

/-!
# Plans confined to some errands

A plan is confined to a kind of errands if it asks for no others, whatever it is answered. The rules
follow the ways in which plans and steps are put together.
-/

namespace Launchpad

variable {kind : Errand → Bool}

namespace Plan

variable {α β : Type}

/-- Whatever is answered, the plan has only errands of a kind. -/
def Within (kind : Errand → Bool) (plan : Plan α) : Prop :=
  ∀ replies result, plan.Path replies result → ∀ reply ∈ replies, kind reply.errand = true

namespace Within

/-- A plan within a kind is within every wider kind. -/
theorem mono {other : Errand → Bool} {plan : Plan α} (within : plan.Within kind)
    (implies : ∀ errand, kind errand = true → other errand = true) : plan.Within other :=
  fun replies result path reply among => implies _ (within replies result path reply among)

/-- A plan without errands is within every kind. -/
theorem ofPure (answer : α) : (pure answer : Plan α).Within kind := by
  intro replies result path
  obtain ⟨rfl, -⟩ := path_pure_iff.1 path
  exact fun _ among => absurd among List.not_mem_nil

/-- A plan that is one errand is within the kind of that errand. -/
theorem ofAsk {errand : Errand} (allowed : kind errand = true) : (ask errand).Within kind := by
  intro replies result path
  obtain ⟨answer, rfl, -⟩ | ⟨abort, rfl, -⟩ := path_ask_iff.1 path <;>
    simpa using allowed

/-- Plans of a kind one after the other are of that kind. -/
theorem bind {plan : Plan α} {next : α → Plan β} (first : plan.Within kind)
    (second : ∀ answer, (next answer).Within kind) : (plan >>= next).Within kind := by
  intro replies result path reply among
  obtain ⟨answer, before, after, start, rest, rfl⟩ | ⟨start, -⟩ := path_bind_iff.1 path
  · obtain earlier | later := List.mem_append.1 among
    · exact first _ _ start reply earlier
    · exact second answer _ _ rest reply later
  · exact first _ _ start reply among

/-- What is of a kind for each item is so for all, up to the first failure. -/
theorem untilFailure {ε : Type} {call : α → Plan (Except ε Unit)}
    (calls : ∀ item, (call item).Within kind) (items : List α) :
    (Launchpad.untilFailure call items).Within kind := by
  induction items with
  | nil => exact ofPure _
  | cons item rest ih =>
    refine bind (calls item) ?_
    rintro (_ | _)
    · exact ofPure _
    · exact ih

/-- Building the factories of a catalog is of the kind of each build. -/
theorem gather {Factory Product : Type} {declarations : Declarations Factory} {capability : String}
    {build : String → Factory → Plan (Except Failure Product)} {rank : Product → Order}
    (builds : ∀ name factory, (build name factory).Within kind) :
    (Catalog.gather declarations capability build rank).Within kind := by
  have all : ∀ entries : List (String × String × Factory),
      (Declarations.buildAll capability (fun entry => build entry.1 entry.2) entries).Within
        kind := by
    intro entries
    induction entries with
    | nil => exact ofPure _
    | cons entry rest ih =>
      refine bind (builds _ _) ?_
      rintro (_ | _)
      · exact ofPure _
      · refine bind ih ?_
        rintro (_ | _) <;> exact ofPure _
  refine bind (all _) ?_
  rintro (_ | _) <;> exact ofPure _

end Within

end Plan

namespace StepM

variable {σ α β ε : Type}

/-- Whatever is answered, the step has only errands of a kind. -/
def Within (kind : Errand → Bool) (step : StepM σ α) : Prop :=
  ∀ start, (step.run.run start).Within kind

namespace Within

/-- A step within a kind is within every wider kind. -/
theorem mono {other : Errand → Bool} {step : StepM σ α} (within : Within kind step)
    (implies : ∀ errand, kind errand = true → other errand = true) : Within other step :=
  fun start => (within start).mono implies

/-- A step that answers at once makes no errands, so they are of any kind. -/
theorem ofDone {step : StepM σ α} (done : ∀ start, ∃ ended, step.run.run start = pure ended) :
    Within kind step := by
  intro start
  obtain ⟨ended, same⟩ := done start
  rw [same]
  exact .ofPure _

theorem ofPure (answer : α) : Within kind (pure answer : StepM σ α) := fun _ => .ofPure _

/-- Steps of a kind one after the other are of that kind. -/
theorem bind {step : StepM σ α} {next : α → StepM σ β} (first : Within kind step)
    (second : ∀ answer, Within kind (next answer)) : Within kind (step >>= next) := by
  intro start
  rw [run_bind]
  refine .bind (first start) ?_
  rintro ⟨_ | answer, between⟩
  · exact .ofPure _
  · exact second answer between

/-- A step that carries out a plan is of the kind of the plan. -/
theorem ofAct {plan : Plan α} (within : plan.Within kind) : Within kind (act plan : StepM σ α) := by
  intro start
  rw [run_act]
  exact .bind within fun _ => .ofPure _

/-- A step that is one errand is of the kind of that errand. -/
theorem ofAsk {errand : Errand} (allowed : kind errand = true) :
    Within kind (ask errand : StepM σ errand.Answer) :=
  ofAct (.ofAsk allowed)

/-- A step that checks a plan is of the kind of the plan. -/
theorem ofCheck {plan : Plan (Except ε α)} {toError : ε → LaunchError} (within : plan.Within kind) :
    Within kind (check toError plan : StepM σ α) := by
  intro start
  rw [run_check]
  exact .bind within fun _ => .ofPure _

/-- What is of a kind for each item is so for all of them. -/
theorem each {step : α → StepM σ Unit} (steps : ∀ item, Within kind (step item)) (items : List α) :
    Within kind (StepM.each step items) := by
  induction items with
  | nil => exact ofPure ()
  | cons item rest ih => exact bind (steps item) fun _ => ih

end Within

end StepM

namespace LifecycleBus

variable {σ : Type} {call : σ → RunListener → Plan (Except Failure Unit × σ)}

/-- Visiting listeners is of the kind of each visit. -/
theorem visit_within (calls : ∀ state listener, (call state listener).Within kind) (state : σ)
    (listeners : List RunListener) : (visit call state listeners).Within kind := by
  induction listeners generalizing state with
  | nil => exact .ofPure _
  | cons listener rest ih =>
    refine .bind (calls state listener) ?_
    rintro ⟨_ | _, between⟩
    · exact .ofPure _
    · exact ih between

/-- Giving a step its tags is of the kind of each tag. -/
theorem tagAll_within {startup : Startup}
    (tagging : ∀ step key text, kind (.tagPhase startup step key text) = true) (step : StartupStep)
    (tags : List (String × String)) : (tagAll startup step tags).Within kind := by
  induction tags generalizing step with
  | nil => exact .ofPure _
  | cons tag rest ih => exact .bind (.ofAsk (tagging ..)) fun step => ih step

/-- Going through a phase tags its step, visits the listeners and ends the step. -/
theorem goThrough_within {bus : LifecycleBus} {phase : LifecyclePhase}
    {tags : List (String × String)} {state : σ}
    (tagging : ∀ step key text, kind (.tagPhase bus.startup step key text) = true)
    (leaving : ∀ step, kind (.leavePhase bus.startup step) = true)
    (calls : ∀ state listener, (call state listener).Within kind) (step : StartupStep) :
    (bus.goThrough phase tags state call step).Within kind :=
  .bind (tagAll_within tagging _ _) fun _ => .bind (visit_within calls _ _) fun _ =>
    .bind (.ofAsk (leaving _)) fun _ => .ofPure _

/-- A dispatch begins the step of its phase and goes through the phase. -/
theorem dispatch_within {bus : LifecycleBus} {phase : LifecyclePhase}
    {tags : List (String × String)} {state : σ}
    (entering : kind (.enterPhase bus.startup phase) = true)
    (tagging : ∀ step key text, kind (.tagPhase bus.startup step key text) = true)
    (leaving : ∀ step, kind (.leavePhase bus.startup step) = true)
    (calls : ∀ state listener, (call state listener).Within kind) :
    (bus.dispatch phase tags state call).Within kind := by
  unfold dispatch
  split
  · exact .bind (.ofAsk entering) fun step => goThrough_within tagging leaving calls step
  · exact .ofPure _

end LifecycleBus

namespace Errand

/-- Whether an errand belongs to what a run does before it has a bus. -/
def isReadying : Errand → Bool
  | makeStore | setHeadless _ | build .. | applyBootstrapInitializer .. => true
  | _ => false

/-- Whether an errand is about the report of a failure: building a reporter, asking it, or logging
an error. -/
def isOfReport : Errand → Bool
  | buildReporter .. | report .. | log .error .. => true
  | _ => false

/-- Whether an errand has nothing to do with the report of a failure. -/
def isApart (errand : Errand) : Bool := !errand.isOfReport

end Errand

/-- Before there is a bus, factories are built and nothing else is done. -/
theorem Application.makeReady_within (application : Application) (given : List String) :
    StepM.Within Errand.isReadying (application.makeReady given) := by
  have applies : ∀ store, ∀ participants : List Participant, StepM.Within Errand.isReadying
      (StepM.each (fun participant => StepM.checked .bootstrapInitializer
        (Plan.ask (.applyBootstrapInitializer participant store))) participants :
        StepM Unit Unit) :=
    fun store => .each fun _ => .ofCheck (.ofAsk rfl)
  refine .bind ?_ fun store => .bind (.ofAsk rfl) fun _ => .bind ?_ fun bus => .ofPure _
  · refine .bind (.ofAsk rfl) fun store => .bind (applies _ _) fun _ => ?_
    refine .bind (.ofCheck (.gather fun _ _ => .ofAsk rfl)) fun declared => ?_
    exact .bind (applies _ _) fun _ => .ofPure _
  · refine .bind (.ofCheck (.gather fun _ _ => .ofAsk rfl)) fun declared => ?_
    exact .bind (.ofCheck (.gather fun _ _ => .ofAsk rfl)) fun _ => .ofPure _

/-- Closing the bootstrap store takes its actions, runs them and warns of those that fail. -/
theorem BootstrapStore.close_within {store : StoreRef} {container : ContainerRef}
    (begins : kind (.beginCloseStore store) = true)
    (runs : ∀ action, kind (.runCloseAction store container action) = true)
    (warns : ∀ message fields, kind (.log .warn message fields) = true) :
    (BootstrapStore.close store container).Within kind := by
  refine .bind (.ofAsk begins) ?_
  rintro (fault | actions)
  · exact .ofPure _
  · refine .bind (.untilFailure (fun action => .ofAsk (runs action)) actions) ?_
    rintro (failure | _)
    · exact .bind (.ofAsk (warns ..)) fun _ => .ofPure _
    · exact .ofPure _

/-- A step that dispatches is of the kind of the dispatch. -/
theorem LaunchM.dispatch_within {σ : Type}
    {plan : LifecycleBus → Plan (LifecycleBus.Dispatched σ)}
    (within : ∀ bus, (plan bus).Within kind) : StepM.Within kind (dispatch plan) := by
  intro launch
  rw [run_dispatch]
  exact .bind (within _) fun _ => .ofPure _

end Launchpad
