import Launchpad.Proofs.Greeting.Given
import Launchpad.Proofs.Greeting.Outcome

/-!
# What the command line answers

In a process that leaves the library's own settings alone, the given arguments decide everything
that the greeting application shows: what its run comes to, the lines of the transcript and the exit
code.
-/

namespace Launchpad.Greeting

variable {world before : World} {given : List String}

/-- The run that the command line makes. -/
def attempt (given : List String) : Act Application.Outcome := do
  let coordinator ← ShutdownCoordinator.shared
  (application coordinator).run (behaviour.invoker callLimit 0) given

/-- Prints the transcript and ends the application gracefully. -/
def finish (container : ContainerRef) (lines : List String) : Act ExitCode := do
  Act.forEach (fun line => Act.print (line ++ "\n")) lines
  Act.log .info "Application completed successfully"
  Container.exit (behaviour.invoker callLimit 0) container []

/-- What the process makes of the run. -/
def conclude (outcome : Application.Outcome) : Act ExitCode := do
  match outcome.result with
  | .error error =>
    let code := error.failure.exitCode
    return if code ≠ 0 then code else 1
  | .ok container => finish container (linesOf (← get))

/-- Answering a command line is an attempt and its conclusion. -/
theorem runCommandLine_eq (given : List String) :
    runCommandLine given = attempt given >>= conclude := by
  rw [attempt, bind_assoc]
  rfl

/-- A process whose variables and arguments leave the library's own properties alone, whose
coordinator was not triggered, and in whose transcript nothing was written. -/
structure Undisturbed (world : World) (given : List String) : Prop where
  options : LeavesOptions given
  vars : LeavesVariables world.vars
  untriggered : ∀ ref ∈ world.sharedCoordinator, (world.coordinator ref).isTriggered = false
  unwritten : linesOf world = []

/-- A run of the command line: what it comes to, the transcript that it leaves, the exit code of the
process, and what the console shows then. -/
structure CommandLineAnswers (world : World) (given : List String) (outcome : Application.Outcome)
    (lines : List String) (code : ExitCode) (console : String) : Prop where
  runs : ∃ between, (attempt given).result world = (.ok outcome, between) ∧ linesOf between = lines
  ends : ∃ after, (runCommandLine given).result world = (.ok code, after) ∧ after.console = console

/-- The console after lines were printed on it. -/
def showing (lines : List String) (console : String) : String :=
  lines.foldl (fun text line => text ++ (line ++ "\n")) console

/-- Lines are printed one after the other, each with a line break. -/
theorem yields_print (lines : List String) (before : World) :
    (Act.forEach (fun line => Act.print (line ++ "\n")) lines).Yields before ()
      { before with console := showing lines before.console } := by
  induction lines generalizing before with
  | nil => exact .pure ()
  | cons line rest ih => exact .bind (.print _) (ih _)

/-! ## The end of the process -/

/-- A run that failed is concluded with its exit code, or with one where that is zero. -/
theorem yields_conclude_error {outcome : Application.Outcome} {error : RunError}
    (failed : outcome.result = .error error) :
    (conclude outcome).Yields before
      (if error.failure.exitCode ≠ 0 then error.failure.exitCode else 1) before := by
  rw [conclude, failed]
  exact .pure _

/-- A container that came up ends gracefully, with the exit code zero. -/
theorem yields_conclude_ok {after : World} {text : String} (up : Up before after given text)
    (settings : Settings) :
    ∃ later, later.console = showing (linesOf after) after.console ∧
      (conclude { result := .ok ⟨before.containers.length⟩, settings }).Yields after 0 later := by
  -- Printing changes nothing but the console, so the container stays what it was.
  generalize shown : { after with console := showing (linesOf after) after.console } = showed
  have stays : showed.container ⟨before.containers.length⟩ =
      after.container ⟨before.containers.length⟩ := by
    rw [← shown]
    rfl
  have made : before.containers.length < showed.containers.length := by
    rw [← shown]
    exact up.made
  obtain ⟨later, _, console, closes⟩ :=
    Container.yields_close (behaviour.invoker callLimit 0) showed
    ⟨before.containers.length⟩ made (by rw [stays]; exact up.unattended)
  have exits : (Container.exit (behaviour.invoker callLimit 0) ⟨before.containers.length⟩ []).Yields
      showed 0 later := by
    refine .bind (.container _) ?_
    rw [stays, up.generators]
    exact .bind (.container _) (.bind (.pure _) (.bind closes (.pure _)))
  have prints : (Act.forEach (fun line => Act.print (line ++ "\n")) (linesOf after)).Yields after ()
      showed := by
    rw [← shown]
    exact yields_print (linesOf after) after
  have same (world : World) (alike : after.Alike world) : linesOf world = linesOf after :=
    linesOf_congr alike.memory
  refine ⟨later, console.trans (by rw [← shown]), ?_⟩
  have finishes : (finish ⟨before.containers.length⟩ (linesOf after)).Yields after 0 later :=
    .bind prints (.bind (.log _ _ _) exits)
  exact Act.Yields.bind_look same finishes

/-- Without a run that succeeded the exit code is not zero. -/
theorem CommandLineAnswers.succeeds {outcome : Application.Outcome} {lines : List String}
    {console : String}
    (answers : CommandLineAnswers world given outcome lines 0 console) :
    ∃ container, outcome.result = .ok container := by
  cases ends : outcome.result with
  | ok container => exact ⟨container, rfl⟩
  | error error =>
    obtain ⟨between, runs, _⟩ := answers.runs
    obtain ⟨after, exits, _⟩ := answers.ends
    rw [runCommandLine_eq] at exits
    obtain ⟨reached, middle, ran, concludes⟩ := Act.result_bind_ok_iff.1 exits
    obtain ⟨rfl, rfl⟩ : outcome = reached ∧ between = middle := by
      simpa [runs] using ran
    obtain ⟨later, answers, _⟩ := yields_conclude_error ends between (.refl between)
    have code : 0 = if error.failure.exitCode ≠ 0 then error.failure.exitCode else 1 :=
      Except.ok.inj (Prod.mk.inj (concludes.symm.trans answers)).1
    split at code
    · exact absurd code.symm ‹_›
    · exact absurd code (by decide)

/-! ## The run of the process -/

/-- The coordinator of the process accepts containers. -/
theorem Undisturbed.shares (undisturbed : Undisturbed world given) :
    ∃ coordinator start, ShutdownCoordinator.shared.result world = (.ok coordinator, start) ∧
      Untouched world start ∧ start.vars = world.vars ∧
      (start.coordinator coordinator).accepting = true := by
  cases held : world.sharedCoordinator with
  | some ref =>
    refine ⟨ref, world, ?_, ⟨rfl, rfl⟩, rfl, ?_⟩
    · refine Act.result_bind_ok_iff.2 ⟨world, world, rfl, ?_⟩
      rw [held]
      rfl
    · have idle := undisturbed.untriggered ref held
      simpa [ShutdownCoordinator.isTriggered, ShutdownCoordinator.accepting] using idle
  | none =>
    refine ⟨⟨world.coordinators.length⟩, { world with
      coordinators := world.coordinators ++ [{ signalHook := true }]
      sharedCoordinator := some ⟨world.coordinators.length⟩ }, ?_, ⟨rfl, rfl⟩, rfl, ?_⟩
    · refine Act.result_bind_ok_iff.2 ⟨world, world, rfl, ?_⟩
      rw [held]
      rfl
    · simp [World.coordinator, ShutdownCoordinator.accepting]

/-- A run and its end, evaluated from the coordinator of the process on. -/
theorem CommandLineAnswers.of_yields {coordinator : CoordinatorRef} {start between after : World}
    {outcome : Application.Outcome} {code : ExitCode}
    (shares : ShutdownCoordinator.shared.result world = (.ok coordinator, start))
    (runs : ((application coordinator).run (behaviour.invoker callLimit 0) given).Yields start
      outcome between)
    (concludes : (conclude outcome).Yields between code after) :
    CommandLineAnswers world given outcome (linesOf between) code after.console := by
  obtain ⟨reached, ran, alike⟩ := runs start (.refl start)
  obtain ⟨last, ends, same⟩ := concludes reached alike
  have attempts : (attempt given).result world = (.ok outcome, reached) :=
    Act.result_bind_ok_iff.2 ⟨coordinator, start, shares, ran⟩
  refine ⟨⟨reached, attempts, linesOf_congr alike.memory⟩, ⟨last, ?_, same.console⟩⟩
  rw [runCommandLine_eq]
  exact Act.result_bind_ok_iff.2 ⟨outcome, reached, attempts, ends⟩

/-- The participants of the application answer the calls of the command line. -/
theorem answered_callLimit : Answered (behaviour.invoker callLimit 0) := answered_invoker 63 0

namespace Undisturbed

/-- A run in which nobody wrote a line shows nothing. -/
theorem answers_untouched (undisturbed : Undisturbed world given) {start between : World}
    {outcome : Application.Outcome} {code : ExitCode} (same : Untouched world start)
    (untouched : Untouched start between)
    (answers : CommandLineAnswers world given outcome (linesOf between) code between.console) :
    CommandLineAnswers world given outcome [] code world.console := by
  have unwritten : linesOf between = [] := by
    rw [linesOf_congr untouched.memory, linesOf_congr same.memory, undisturbed.unwritten]
  rwa [unwritten, untouched.console, same.console] at answers

/-- A malformed argument is the failure of the run, which has no exit code and which the log
reports. -/
theorem malformed (undisturbed : Undisturbed world given) {argument : String}
    (found : given.find? Argument.isMalformed = some argument) :
    ∃ outcome, outcome.result = .error {
        stage := .startup
        failure := {
          exitCode := 0
          reportedBy := .log
          cause := (LaunchFault.arguments argument).alone } } ∧
      CommandLineAnswers world given outcome [] 1 world.console := by
  obtain ⟨coordinator, start, shares, same, _, _⟩ := undisturbed.shares
  obtain ⟨between, untouched, runs⟩ :=
    yields_run_unreadable start coordinator answered_callLimit (Arguments.parse_eq_error found)
  have answers := CommandLineAnswers.of_yields shares runs (yields_conclude_error rfl)
  exact ⟨_, rfl, undisturbed.answers_untouched same untouched answers⟩

/-- A blank name is a greeting fault, whose exit code and reporter are the application's own. -/
theorem nameless (undisturbed : Undisturbed world given)
    (unfound : given.find? Argument.isMalformed = none) (blank : Text.trim (nameIn given) = "") :
    ∃ outcome, outcome.result = .error {
        stage := .startup
        failure := {
          exitCode := 2
          reportedBy := .reporter "console"
          cause := (LaunchFault.runner "ApplicationRunner").dueTo ⟨emptyName, []⟩ } } ∧
      CommandLineAnswers world given outcome [] 2 world.console := by
  obtain ⟨arguments, parsed⟩ := Arguments.exists_parse unfound
  obtain ⟨coordinator, start, shares, same, vars, accepts⟩ := undisturbed.shares
  have refused : line arguments = .error ⟨emptyName, []⟩ := (line_eq parsed).trans (if_pos blank)
  obtain ⟨between, untouched, runs⟩ :=
    yields_run_nameless start coordinator answered_callLimit parsed
    undisturbed.options (by rw [vars]; exact undisturbed.vars) accepts refused
  have answers := CommandLineAnswers.of_yields shares runs (yields_conclude_error rfl)
  exact ⟨_, rfl, undisturbed.answers_untouched same untouched answers⟩

/-- A name that is not blank is greeted, and the plain arguments are echoed. -/
theorem greets (undisturbed : Undisturbed world given)
    (unfound : given.find? Argument.isMalformed = none) (named : Text.trim (nameIn given) ≠ "") :
    ∃ outcome, (∃ container, outcome.result = .ok container) ∧
      CommandLineAnswers world given outcome (greetingIn given) 0
        (showing (greetingIn given) world.console) := by
  obtain ⟨arguments, parsed⟩ := Arguments.exists_parse unfound
  obtain ⟨coordinator, start, shares, same, vars, accepts⟩ := undisturbed.shares
  have produced := (line_eq parsed).trans (if_neg named)
  obtain ⟨between, up, runs⟩ :=
    yields_run_ok start coordinator answered_callLimit parsed undisturbed.options
    (by rw [vars]; exact undisturbed.vars) accepts produced
  obtain ⟨after, console, concludes⟩ := yields_conclude_ok up settings
  have answers := CommandLineAnswers.of_yields shares runs concludes
  have written : linesOf between = greetingIn given := by
    rw [up.lines, linesOf_congr same.memory, undisturbed.unwritten, List.nil_append, lines_eq]
  rw [written, console, written, up.console, same.console] at answers
  exact ⟨_, ⟨_, rfl⟩, answers⟩

end Undisturbed

/-- What the command line does in a process that leaves the library's own settings alone. A
malformed argument fails the run, a blank name fails it at the greeting runner, and otherwise the
run succeeds with the greeting in the transcript; and the exit code is zero only if the run
succeeded. -/
theorem commandLine_answers (undisturbed : Undisturbed world given) :
    ∃ outcome lines code console, CommandLineAnswers world given outcome lines code console ∧
      (∀ argument, given.find? Argument.isMalformed = some argument →
        outcome.result = .error {
          stage := .startup
          failure := {
            exitCode := 0
            reportedBy := .log
            cause := (LaunchFault.arguments argument).alone } } ∧ lines = [] ∧ code = 1) ∧
      (given.find? Argument.isMalformed = none → Text.trim (nameIn given) = "" →
        outcome.result = .error {
          stage := .startup
          failure := {
            exitCode := 2
            reportedBy := .reporter "console"
            cause := (LaunchFault.runner "ApplicationRunner").dueTo ⟨emptyName, []⟩ } } ∧
          lines = [] ∧ code = 2) ∧
      (given.find? Argument.isMalformed = none → Text.trim (nameIn given) ≠ "" →
        (∃ container, outcome.result = .ok container) ∧ lines = greetingIn given ∧ code = 0) ∧
      (code = 0 → ∃ container, outcome.result = .ok container) := by
  cases found : given.find? Argument.isMalformed with
  | some argument =>
    obtain ⟨outcome, failed, answers⟩ := undisturbed.malformed found
    refine ⟨outcome, [], 1, world.console, answers, ?_, by simp, by simp, by simp⟩
    rintro other same
    cases same
    exact ⟨failed, rfl, rfl⟩
  | none =>
    by_cases blank : Text.trim (nameIn given) = ""
    · obtain ⟨outcome, failed, answers⟩ := undisturbed.nameless found blank
      exact ⟨outcome, [], 2, world.console, answers, by simp, fun _ _ => ⟨failed, rfl, rfl⟩,
        fun _ named => absurd blank named, by simp⟩
    · obtain ⟨outcome, succeeded, answers⟩ := undisturbed.greets found blank
      exact ⟨outcome, greetingIn given, 0, _, answers, by simp, fun _ named => absurd named blank,
        fun _ _ => ⟨succeeded, rfl, rfl⟩, fun _ => succeeded⟩

/-- Two options, one of them repeated, among plain arguments: the first value greets, and the plain
arguments are echoed. -/
theorem commandLine_answers_named :
    Undisturbed {} ["--name=Ada", "extra", "--salutation=Hi", "--name=Bob", "more"] ∧
      ∃ outcome console,
        CommandLineAnswers {} ["--name=Ada", "extra", "--salutation=Hi", "--name=Bob", "more"]
          outcome ["Hi, Ada!", "args: extra more"] 0 console ∧
        ∃ container, outcome.result = .ok container := by
  have undisturbed :
      Undisturbed {} ["--name=Ada", "extra", "--salutation=Hi", "--name=Bob", "more"] :=
    { options := by
        unfold LeavesOptions
        decide
      vars := fun _ among => absurd among List.not_mem_nil
      untriggered := fun _ among => absurd among (by simp)
      unwritten := rfl }
  obtain ⟨outcome, lines, code, console, answers, _, _, greets, _⟩ :=
    commandLine_answers undisturbed
  obtain ⟨succeeded, shown, rfl⟩ := greets (by decide) (by decide)
  have greeting :
      greetingIn ["--name=Ada", "extra", "--salutation=Hi", "--name=Bob", "more"] =
        ["Hi, Ada!", "args: extra more"] := by decide
  rw [shown, greeting] at answers
  exact ⟨undisturbed, outcome, console, answers, succeeded⟩

/-! ## The process as a whole -/

/-- What a new process shows for its arguments. -/
def answer (given : List String) : ProcessOutcome :=
  if (given.find? Argument.isMalformed).isSome then { exitCode := 1, console := "" }
  else if Text.trim (nameIn given) = "" then { exitCode := 2, console := "" }
  else { exitCode := 0, console := showing (greetingIn given) "" }

/-- A process shows what answering its command line has shown, and ends with its code. -/
theorem CommandLineAnswers.process_eq {vars : List (String × String)} {files : Files}
    {outcome : Application.Outcome} {lines : List String} {code : ExitCode} {console : String}
    (answers : CommandLineAnswers { vars, files } given outcome lines code console) :
    process vars files given = { exitCode := code, console } := by
  obtain ⟨after, ends, shows⟩ := answers.ends
  have ran : (runCommandLine given).run.run { vars, files } = (.ok code, after) := ends
  rw [process, ran, ← shows]

/-- A new process shows what its arguments ask for, whatever files there are. -/
theorem process_eq_answer {vars : List (String × String)} (files : Files)
    (leaves : LeavesOptions given) (spares : LeavesVariables vars) :
    process vars files given = answer given := by
  have undisturbed : Undisturbed { vars, files } given :=
    { options := leaves
      vars := spares
      untriggered := fun _ among => absurd among (by simp)
      unwritten := rfl }
  unfold answer
  cases found : given.find? Argument.isMalformed with
  | some argument =>
    obtain ⟨_, _, answers⟩ := undisturbed.malformed found
    exact answers.process_eq
  | none =>
    rw [if_neg (by simp)]
    split
    · rename_i blank
      obtain ⟨_, _, answers⟩ := undisturbed.nameless found blank
      exact answers.process_eq
    · rename_i named
      obtain ⟨_, _, answers⟩ := undisturbed.greets found named
      exact answers.process_eq

end Launchpad.Greeting
