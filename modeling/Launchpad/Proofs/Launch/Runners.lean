import Launchpad.Proofs.Bootstrap.Bookkeeping
import Launchpad.Proofs.Catalog.Precedence
import Launchpad.Proofs.Launch.Following
import Launchpad.Proofs.Operation.Calling

/-!
# The order in which runners are called

A runner that is registered under several names is one instance. `Runner.Scheduled` is the order in
which the instances are called: each of them once, by precedence, those of one rank in the order of
their first registration. A run calls its runners in that order, up to the first that fails.
-/

namespace Launchpad

namespace Runner

/-- One runner after the other that has not occurred before. -/
theorem distinct_append_singleton (runners : List Runner) (runner : Runner) :
    distinct (runners ++ [runner]) =
      if (distinct runners).any (·.identity = runner.identity) then distinct runners
      else distinct runners ++ [runner] := List.foldl_append ..

/-- Where runners of one identity have one rank, the distinct ones are the first occurrences. -/
theorem distinct_eq_eraseDups {runners : List Runner}
    (fixed : ∀ one ∈ runners, ∀ other ∈ runners, one.identity = other.identity →
      one.order = other.order) : distinct runners = runners.eraseDups := by
  induction runners using List.reverseRecOn with
  | nil => rfl
  | append_singleton earlier runner ih =>
    have same : distinct earlier = earlier.eraseDups := ih fun one among other also =>
      fixed one (List.mem_append_left _ among) other (List.mem_append_left _ also)
    have known : (earlier.eraseDups.any (·.identity = runner.identity)) = true ↔
        runner ∈ earlier := by
      rw [List.any_eq_true]
      constructor
      · rintro ⟨other, among, alike⟩
        have listed := List.mem_eraseDups.1 among
        have identity := of_decide_eq_true alike
        have order := fixed other (List.mem_append_left _ listed) runner (by simp) identity
        obtain ⟨kind, participant⟩ := Prod.mk.inj identity
        have equal : other = runner := by
          cases other
          cases runner
          simp_all
        rwa [← equal]
      · exact fun among => ⟨runner, List.mem_eraseDups.2 among, by simp⟩
    rw [distinct_append_singleton, same, eraseDups_append_singleton]
    by_cases among : runner ∈ earlier
    · rw [if_pos among, if_pos (known.2 among)]
    · rw [if_neg among, if_neg (mt known.1 among)]

/-- The order in which the instances among some runners are called. -/
structure Scheduled (runners scheduled : List Runner) : Prop where
  /-- The runners that are called are those that there are. -/
  member : ∀ runner, runner ∈ scheduled ↔ runner ∈ runners
  /-- Each instance is called once. -/
  once : (scheduled.map identity).Nodup
  /-- Ranked runners come before unranked ones, and their ranks do not go down. -/
  ascends : scheduled.Pairwise fun first second =>
    ∀ rank, second.order = some rank → ∃ lower ≤ rank, first.order = some lower
  /-- Of two of one rank, the one that was registered first comes first. -/
  ties : scheduled.Pairwise fun first second =>
    first.order = second.order → runners.idxOf first < runners.idxOf second

section

variable {runners : List Runner}
  (fixed : ∀ one ∈ runners, ∀ other ∈ runners, one.identity = other.identity →
    one.order = other.order)

include fixed

/-- Repeated instances may be dropped before or after the sort. -/
theorem ordered_eq_byPrecedence_distinct :
    ordered runners = byPrecedence Runner.order (distinct runners) := by
  have still : ∀ one ∈ byPrecedence Runner.order runners,
      ∀ other ∈ byPrecedence Runner.order runners, one.identity = other.identity →
        one.order = other.order := by
    intro one among other also
    have perm := byPrecedence_perm Runner.order runners
    exact fixed one (perm.mem_iff.1 among) other (perm.mem_iff.1 also)
  rw [ordered, distinct_eq_eraseDups still, distinct_eq_eraseDups fixed, eraseDups_byPrecedence]

/-- The runners are called by their ranks, and those of one rank in the order in which they were
registered. -/
theorem ordered_scheduled : Scheduled runners (ordered runners) := by
  have ranked := byPrecedence_ranked Runner.order runners.eraseDups
  rw [ordered_eq_byPrecedence_distinct fixed, distinct_eq_eraseDups fixed]
  have member (runner : Runner) :
      runner ∈ byPrecedence Runner.order runners.eraseDups ↔ runner ∈ runners := by
    rw [ranked.perm.mem_iff, List.mem_eraseDups]
  have distinct := nodup_eraseDups runners
  refine ⟨member, ?_, ranked.ascends, List.pairwise_iff_forall_sublist.2 ?_⟩
  · refine (ranked.perm.nodup_iff.2 distinct).map_on fun one among other also same => ?_
    have order := fixed one ((member one).1 among) other ((member other).1 also) same
    obtain ⟨kind, participant⟩ := Prod.mk.inj same
    cases one
    cases other
    simp_all
  · intro one other among order
    -- Both stand among those of their rank, which the sort leaves in their order.
    have level : [one, other].Sublist (runners.eraseDups.filter (·.order = other.order)) := by
      rw [← ranked.ties]
      have kept := among.filter (·.order = other.order)
      rwa [List.filter_cons_of_pos (by simp [order]), List.filter_cons_of_pos (by simp),
        List.filter_nil] at kept
    exact List.pairwise_iff_forall_sublist.1 (pairwise_idxOf_eraseDups runners)
      (level.trans List.filter_sublist)

end

/-- The call to a runner: a command-line runner gets the arguments as they were given, an
application runner the parsed ones. -/
def call (arguments : Arguments) (runner : Runner) : Call :=
  match runner.kind with
  | .application => .runApplication runner.participant arguments
  | .commandLine => .runCommandLine runner.participant arguments.given

/-- What the failure of a runner ends a run with. -/
def blame (runner : Runner) (failure : Failure) : LaunchError :=
  (LaunchFault.runner runner.kind.name).dueTo failure

end Runner

/-- Taking a step for each item, each of which may end the run, is calling them up to the first
failure. The state of the run stays as it is. -/
theorem StepM.carryOut_each {α σ : Type} (invoke : Invoker) (fault : α → LaunchFault)
    (plan : α → Plan (Except Failure Unit)) (items : List α) (state : σ) :
    ((each (fun item => checked (fault item) (plan item)) items).run.run state).carryOut invoke =
      untilFailure (fun item => do
        return (← (plan item).carryOut invoke).mapError (fault item).dueTo) items >>= fun ended =>
      return (ended, state) := by
  induction items with
  | nil => rfl
  | cons item rest ih =>
    rw [each, StepM.run_bind, checked, StepM.run_check, untilFailure, Plan.carryOut_bind,
      Plan.carryOut_bind]
    simp only [bind_assoc]
    refine congrArg _ (funext fun answer => ?_)
    cases answer with
    | error failure => rfl
    | ok =>
      refine Eq.trans ?_ ih
      rfl

namespace Application

variable (behaviour : Behaviour) (limit depth : Nat)

/-- A runner is called with what its kind is given, and nobody else. -/
theorem asks_runner (runner : Runner) (arguments : Arguments) :
    Act.Asks depth (Runner.call arguments) Runner.blame [runner] (do
      return (← Container.callRunner (behaviour.invoker (limit + 1) depth) runner
        arguments).mapError (LaunchFault.runner runner.kind.name).dueTo) := by
  obtain ⟨kind, participant, order⟩ := runner
  cases kind with
  | application =>
    exact .of_call (behaviour.writes_call limit depth (.runApplication participant arguments))
  | commandLine =>
    exact .of_call (behaviour.writes_call limit depth (.runCommandLine participant arguments.given))

/-- The step of a run that calls the runners, as an operation. -/
theorem result_callRunners (invoke : Invoker) (container : ContainerRef) (arguments : Arguments)
    (launch : Launch) (world : World) :
    (((callRunners container arguments).run.run launch).carryOut invoke).result world =
      (untilFailure (fun runner => do
        return (← Container.callRunner invoke runner arguments).mapError
          (LaunchFault.runner runner.kind.name).dueTo)
        (Runner.ordered (world.container container).runners) >>= fun ended =>
      return (ended, launch)).result world := by
  have looks : ((Errand.runners container).carryOut invoke).result world =
      (.ok (world.container container).runners, world) := rfl
  have calls (runner : Runner) :
      (Plan.ask (.callRunner runner arguments)).carryOut invoke =
        Container.callRunner invoke runner arguments := Plan.carryOut_ask _ _
  rw [callRunners, StepM.run_bind, StepM.ask, StepM.run_act, Plan.carryOut_bind, Plan.carryOut_bind,
    Plan.carryOut_ask, bind_assoc, Act.result_bind, looks]
  change (((StepM.each _ (Runner.ordered (world.container container).runners)).run.run
    launch).carryOut invoke).result world = _
  rw [StepM.carryOut_each]
  simp only [calls]

/-- A run asks the runners of its container, as they are scheduled. -/
theorem callRunners_asks (container : ContainerRef) (arguments : Arguments) (launch : Launch)
    (world : World) :
    ∃ result lines last,
      (((callRunners container arguments).run.run launch).carryOut
        (behaviour.invoker (limit + 1) depth)).result world = (result.map (·, launch), last) ∧
      Asked depth (Runner.call arguments) Runner.blame
        (Runner.ordered (world.container container).runners) result lines ∧
      Writes depth lines world last := by
  obtain ⟨lines, asked, written⟩ := Act.Asks.untilFailure
    (fun runner => asks_runner behaviour limit depth runner arguments)
    (Runner.ordered (world.container container).runners) world
  refine ⟨_, lines, _, ?_, asked, written⟩
  rw [result_callRunners, Act.result_bind]
  generalize Act.result (untilFailure _ _) world = reached
  obtain ⟨abort | ended, last⟩ := reached <;> rfl

/-- Where every instance has one rank, the instances among some runners are scheduled each once, by
precedence and then by first registration, whether repeated ones are dropped before the sort or
after it. A run whose container has these runners calls them in this order, each with what its kind
is given; the first that fails ends the run with its failure, and if none does all of them were
called. -/
theorem runners_called_as_scheduled (runners : List Runner)
    (fixed : ∀ one ∈ runners, ∀ other ∈ runners, one.identity = other.identity →
      one.order = other.order) :
    Runner.Scheduled runners (Runner.ordered runners) ∧
    Runner.ordered runners = byPrecedence Runner.order (Runner.distinct runners) ∧
    ∀ (behaviour : Behaviour) (limit depth : Nat) (container : ContainerRef)
      (arguments : Arguments) (launch : Launch) (world : World),
      (world.container container).runners = runners →
      ∃ result lines last,
        (((callRunners container arguments).run.run launch).carryOut
          (behaviour.invoker (limit + 1) depth)).result world = (result.map (·, launch), last) ∧
        Writes depth lines world last ∧
        Asked depth (Runner.call arguments) Runner.blame (Runner.ordered runners) result lines ∧
        lines.filterMap JournalEntry.call? <+:
          (Runner.ordered runners).map (Runner.call arguments) ∧
        (result = .ok (.ok ()) → lines.filterMap JournalEntry.call? =
          (Runner.ordered runners).map (Runner.call arguments)) := by
  refine ⟨Runner.ordered_scheduled fixed, Runner.ordered_eq_byPrecedence_distinct fixed, ?_⟩
  rintro behaviour limit depth container arguments launch world rfl
  obtain ⟨result, lines, last, carried, asked, written⟩ :=
    callRunners_asks behaviour limit depth container arguments launch world
  refine ⟨result, lines, last, carried, written, asked, asked.calls_prefix, ?_⟩
  rintro rfl
  exact asked.calls_of_ok

end Application

/-- An application runner that is registered under two names. -/
def servingRunner : Runner := { kind := .application, participant := "serve" }

/-- A command-line runner that is registered under two names. -/
def warmingRunner : Runner := { kind := .commandLine, participant := "warm", order := some 1 }

/-- An application runner that comes before all others. -/
def seedingRunner : Runner :=
  { kind := .application, participant := "seed", order := some (-2147483648) }

/-- A command-line runner without a rank. -/
def printingRunner : Runner := { kind := .commandLine, participant := "print" }

/-- A container that holds these runners. -/
def runnerHost : World :=
  { containers := [{
      id := "host"
      kind := .standalone
      phase := .active
      beans := [
        ("first", .runner servingRunner), ("second", .runner warmingRunner),
        ("third", .runner servingRunner), ("number", .value (.number "u8" 7)),
        ("fourth", .runner printingRunner), ("fifth", .runner seedingRunner),
        ("sixth", .runner warmingRunner)] }] }

/-- The warming runner fails, and nobody else. -/
def warmingFails : Behaviour
  | .runApplication _ _ => .done (.ok ())
  | .runCommandLine participant _ =>
    if participant.name = "warm" then .done (.error (.text "still cold")) else .done (.ok ())
  | _ => .panic "unexpected call"

/-- A run that has reached its runners. -/
def hostedLaunch : Launch := { bus := { listeners := [], startup := .discarded }, settings := {} }

/-- The arguments of that run. -/
def hostedArguments : Arguments := { given := ["--fast"], options := [("fast", [])], plain := [] }

/-- Runners of both kinds, some registered twice, of which the second to be called fails. -/
theorem Application.runners_called_as_scheduled_repeated :
    (∀ one ∈ (runnerHost.container ⟨0⟩).runners, ∀ other ∈ (runnerHost.container ⟨0⟩).runners,
      one.identity = other.identity → one.order = other.order) ∧
    Runner.ordered (runnerHost.container ⟨0⟩).runners =
      [seedingRunner, warmingRunner, servingRunner, printingRunner] ∧
    ∃ lines last,
      (((callRunners ⟨0⟩ hostedArguments).run.run hostedLaunch).carryOut
        (warmingFails.invoker 1 0)).result runnerHost =
        (.ok (.error (warmingRunner.blame (.text "still cold")), hostedLaunch), last) ∧
      Writes 0 lines runnerHost last ∧
      lines.filterMap JournalEntry.call? =
        [.runApplication "seed" hostedArguments, .runCommandLine "warm" ["--fast"]] := by
  have fixed : ∀ one ∈ (runnerHost.container ⟨0⟩).runners,
      ∀ other ∈ (runnerHost.container ⟨0⟩).runners,
        one.identity = other.identity → one.order = other.order := by decide
  have ordered : Runner.ordered (runnerHost.container ⟨0⟩).runners =
      [seedingRunner, warmingRunner, servingRunner, printingRunner] := by
    rw [Runner.ordered_eq_byPrecedence_distinct fixed]
    exact byPrecedence_eq_of_ranks (by decide) (by decide)
  obtain ⟨-, -, calls⟩ := runners_called_as_scheduled _ fixed
  obtain ⟨result, lines, last, carried, written, asked, -, -⟩ :=
    calls warmingFails 0 0 ⟨0⟩ hostedArguments hostedLaunch runnerHost rfl
  refine ⟨fixed, ordered, lines, last, ?_⟩
  rw [carried]
  rw [result_callRunners, ordered] at carried
  obtain ⟨ended, rfl⟩ := Prod.mk.inj carried
  have transcript : [
      .called 0 (.runApplication "seed" hostedArguments), .answered 0 none,
      .called 0 (.runCommandLine "warm" ["--fast"]), .answered 0 (some (.text "still cold"))] =
      lines := written
  subst transcript
  exact ⟨congrArg (·, _) ended.symm, written, rfl⟩

end Launchpad
