import Launchpad.Proofs.Launch.Record

/-!
# The exit code of a failed run

Every step of a run puts its own fault in front of the chain of the participant's failure that made
it fail. The resolution of the exit code looks through the whole chain, so the code that the
participant's failure carries decides, unless a mapper of an active container does. So it is for the
failure of a supplier too, which reaches the run through whoever read from the store. A banner
reports through an output operation, which stands in the place of the banner's own fault: only what
caused that fault is still seen.
-/

namespace Launchpad

namespace LaunchFault

/-- A step's fault carries no exit code, and hides none. -/
@[simp] theorem exitCode?_dueTo (fault : LaunchFault) (cause : Failure) :
    (fault.dueTo cause).toFailure.exitCode? = cause.exitCode? := rfl

end LaunchFault

namespace Failure

/-- The fault of a supplier carries no exit code, and hides none. -/
theorem exitCode?_supplier (type : String) (cause : Failure) :
    ((BootstrapFault.supplier type).dueTo cause).toFailure.exitCode? = cause.exitCode? := rfl

/-- An output operation hides the exit code of the fault that it hands on. -/
theorem exitCode?_handedOn (inner : Failure) :
    inner.handedOn.exitCode? = inner.causes.findSome? Fault.exitCode? := rfl

/-- A failure is what somebody was answered who read an entry of a store whose supplier failed. -/
def ReadFrom (own cause : Failure) : Prop :=
  ∃ (reader : Invoker) (store : StoreRef) (type : String) (world between last : World)
    (entry : BootstrapEntry) (supplier : Participant),
    (world.store store).find? type = some entry ∧ entry.kept = none ∧
    entry.supply = .custom supplier ∧
    (reader (.supply supplier store)).result world = (.ok (.error cause), between) ∧
    ((Command.read store type).carryOut reader).result world = (.ok (.error own), last)

/-- What a reader is answered when a supplier fails carries the exit code of the supplier's
failure. -/
theorem ReadFrom.exitCode?_eq {own cause : Failure} (readFrom : own.ReadFrom cause) :
    own.exitCode? = cause.exitCode? := by
  obtain ⟨reader, store, type, world, between, last, entry, supplier, found, unkept, supply, fails,
    ran⟩ := readFrom
  have takes : (BootstrapStore.take reader store entry.supply).result world =
      (.ok (.error cause), between) := by
    rw [supply]
    exact Act.result_bind_ok_iff.2 ⟨_, between, fails, rfl⟩
  have reads : (BootstrapStore.read reader store type).result world =
      (.ok (.error ((BootstrapFault.supplier type).dueTo cause)), between) := by
    refine Act.result_bind_ok_iff.2 ⟨world.store store, world, rfl, ?_⟩
    rw [found]
    dsimp only
    rw [unkept]
    exact Act.result_bind_ok_iff.2 ⟨_, between, takes, rfl⟩
  obtain ⟨_, _, ended, answers⟩ := Act.result_bind_ok_iff.1 ran
  rw [reads] at ended
  cases ended
  cases answers
  exact exitCode?_supplier type cause

end Failure

namespace Errand

/-- The failure of a call that ends the run by itself. -/
theorem exitCode?_of_settled {fault : LaunchFault} {answer : Except Failure Unit}
    {cause : LaunchError} (wrong : settled fault answer = .error cause) :
    ∃ failure, answer = .error failure ∧ cause.toFailure.exitCode? = failure.exitCode? := by
  cases answer with
  | ok => cases wrong
  | error failure =>
    cases wrong
    exact ⟨failure, rfl, fault.exitCode?_dueTo failure⟩

/-- A check of the run's own has an error without causes. -/
theorem exitCode?_of_verdict {own : Check} {cause : LaunchError}
    (wrong : own.verdict = .error cause) : cause.toFailure.exitCode? = none := by
  unfold Check.verdict at wrong
  split at wrong
  all_goals (repeat' split at wrong) <;> cases wrong
  all_goals rfl

end Errand

/-- The error that an errand brings carries the exit code of the failure in its answer, and none if
the run made the error itself. -/
theorem Performed.exitCode?_of_outcome {invoke : Invoker} {performed : Performed}
    {answer : performed.reply.errand.Answer} {cause : LaunchError} (ran : performed.Ran invoke)
    (answered : performed.reply.answer = .ok answer)
    (wrong : performed.reply.errand.outcome answer = .error cause) :
    cause.toFailure.exitCode? =
      (performed.reply.errand.failure? answer).bind Failure.exitCode? := by
  obtain ⟨before, ⟨errand, given⟩, after⟩ := performed
  dsimp only at answer answered wrong ⊢
  subst answered
  cases errand with
  | check own =>
    have verdict : (.ok own.verdict, before) = ((.ok answer, after) : Except Abort _ × World) := ran
    cases verdict
    have refused : own.verdict = .error cause := by
      cases decided : own.verdict <;> rw [decided] at wrong <;> cases wrong
      rfl
    exact Errand.exitCode?_of_verdict refused
  | applyBootstrapInitializer | tell | postProcess | applyContextInitializer | runCloseAction | load
  | refresh | afterRefresh | callRunner =>
    obtain ⟨failure, rfl, same⟩ := Errand.exitCode?_of_settled wrong
    exact same
  | showEnvironment =>
    obtain ⟨result, shown⟩ := answer
    obtain ⟨failure, rfl, same⟩ := Errand.exitCode?_of_settled wrong
    exact same
  | bindSettings =>
    obtain ⟨failure | _, bound⟩ := answer <;> cases wrong
    rfl
  | build | printBanner | createContainer | readArguments | beginCloseStore | registerSingleton
  | registerForShutdown =>
    cases answer <;> cases wrong
    rfl
  | _ => cases wrong

namespace Container

variable {invoke : Invoker} {container : Option ContainerRef} {failure : Failure}

/-- No mapper of an active container claims a failure. -/
def Unclaimed (invoke : Invoker) (container : Option ContainerRef) (failure : Failure)
    (world : World) : Prop :=
  ∀ ref, container = some ref → (world.container ref).isActive = true →
    ((mappedCode invoke (world.container ref).mappers failure).result world).1 = .ok 0

/-- A failure that nobody claims has the exit code that its own chain carries. -/
theorem resolveExitCode_of_unclaimed {world last : World} {exitCode : ExitCode}
    (unclaimed : Unclaimed invoke container failure world)
    (resolved : (resolveExitCode invoke container failure).result world = (.ok exitCode, last)) :
    exitCode = failure.exitCode?.getD 0 := by
  have decides : ∀ mappers,
      ((mappedCode invoke mappers failure).result world).1 = .ok 0 →
      (mappedCode invoke mappers failure >>= fun mapped =>
        return if mapped ≠ 0 then mapped else failure.exitCode?.getD 0).result world =
          (.ok exitCode, last) → exitCode = failure.exitCode?.getD 0 := by
    intro mappers zero goesOn
    obtain ⟨mapped, between, asked, ends⟩ := Act.result_bind_ok_iff.1 goesOn
    rw [asked] at zero
    cases zero
    cases ends
    rfl
  cases container with
  | none => exact decides [] rfl resolved
  | some ref =>
    refine decides (if (world.container ref).isActive then (world.container ref).mappers else [])
      ?_ resolved
    split
    · exact unclaimed ref rfl ‹_›
    · rfl

end Container

/-- The exit code was asked of the mappers of an active container. -/
def Performed.resolvesActively (performed : Performed) : Bool :=
  match performed.reply.errand with
  | .resolveExitCode (some ref) _ => (performed.before.container ref).isActive
  | _ => false

/-- A station heeds those whom it calls. -/
theorem Errand.heeds_of_station {errand : Errand} {station : Station}
    (known : errand.station? = some station) (world : World)
    (attached : List ApplicationListener) :
    ∃ calls, errand.dialogue world attached = .heeding calls := by
  cases errand with
  | tellFailed | close => cases known
  | bindSettings binder => cases binder <;> exact ⟨_, rfl⟩
  | createContainer factory => cases factory <;> exact ⟨_, rfl⟩
  | load loader => cases loader <;> exact ⟨_, rfl⟩
  | report reporting => cases reporting <;> exact ⟨_, rfl⟩
  | _ => exact ⟨_, rfl⟩

/-- The failure that somebody answered at a station is the failure in the answer of the errand. -/
theorem Performed.Speaks.failure_of_answered {performed : Performed} {depth : Nat}
    {lines : List JournalEntry} {station : Station} {answer : performed.reply.errand.Answer}
    {own : Failure} (speaks : performed.Speaks depth lines)
    (known : performed.reply.errand.station? = some station)
    (answered : performed.reply.answer = .ok answer)
    (failed : .answered depth (some own) ∈ lines) :
    performed.reply.errand.failure? answer = some own := by
  obtain ⟨-, attached, ending, -, ends, concludes⟩ := speaks
  obtain ⟨calls, heeds⟩ := Errand.heeds_of_station known performed.before attached
  rw [heeds] at ends
  cases ends with
  | heeding asked =>
    obtain rfl := asked.ending_of_answered failed
    rw [answered] at concludes
    cases concludes with
    | failed handedOn => exact handedOn

/-- A failed visit is the answer of an errand. -/
theorem Reply.outcome_of_failed {reply : Reply} {station : Station} {error : LaunchError}
    (visited : reply.visit? = some (.failed station error)) :
    ∃ answer, reply.answer = .ok answer ∧ reply.errand.outcome answer = .error error := by
  obtain ⟨errand, answer⟩ := reply
  obtain ⟨_, -, same⟩ := Option.map_eq_some_iff.1 visited
  cases answer with
  | error abort => cases same
  | ok answer =>
    dsimp only at same
    cases found : errand.outcome answer with
    | ok finding => simp [found] at same
    | error other =>
      simp only [found, Visit.failed.injEq] at same
      exact ⟨answer, rfl, by rw [found, same.2]⟩

namespace Application

/-- In a failed run whose failure no mapper of an active container claims, the exit code is the one
that the failure carries that made the last call of the order fail: the code of the outermost fault
of its chain that carries one, and zero if there is none or if the run found the fault itself. Under
the behaviour of participants that failure is the one which the participant answered that was
called; what an output operation hands on counts without its own fault, and what a supplier's
failure became counts as that failure. -/
theorem exitCode_of_failed_run {invoke : Invoker} {application : Application} {given : List String}
    {world : World} {error : RunError}
    (failed : ((application.run invoke given).run.run world).1.map (·.result) = .ok (.error error))
    (unclaimed : ∀ performed ∈ (application.execution invoke given world).record,
      ∀ container failure, performed.reply.errand = .resolveExitCode container failure →
        Container.Unclaimed invoke container failure performed.before) :
    ∃ (earlier : List Performed) (failing : Performed) (later : List Performed)
      (passed : List Stop) (answer : failing.reply.errand.Answer),
      (application.execution invoke given world).record = earlier ++ failing :: later ∧
      visitsOf (earlier.map (·.reply)) = passed.map .passed ∧
      failing.Ran invoke ∧
      failing.reply.answer = .ok answer ∧
      failing.reply.errand.outcome answer = .error error.failure.cause ∧
      error.failure.exitCode =
        ((failing.reply.errand.failure? answer).bind Failure.exitCode?).getD 0 ∧
      ∀ (behaviour : Behaviour) (limit depth : Nat), invoke = behaviour.invoker (limit + 1) depth →
        ∃ lines, failing.Speaks depth lines ∧
          ∀ own, .answered depth (some own) ∈ lines →
            failing.reply.errand.failure? answer = some own ∧
            error.failure.exitCode = own.exitCode?.getD 0 ∧
            (∀ inner : Failure, own = inner.handedOn →
              error.failure.exitCode = (inner.causes.findSome? Fault.exitCode?).getD 0) ∧
            (∀ cause, own.ReadFrom cause →
              error.failure.exitCode = cause.exitCode?.getD 0) := by
  rw [run_eq_execution] at failed
  have chain := chain_execution invoke application given world
  cases ended : (application.execution invoke given world).result with
  | error abort =>
    rw [ended] at failed
    cases failed
  | ok outcome =>
    rw [ended] at failed
    obtain ⟨course, resolved, rest, record, resolution, failedPath⟩ :=
      record_of_failed ended (Except.ok.inj failed)
    obtain ⟨_, walk⟩ := failedPath.walk
    obtain ⟨passed, station, visits⟩ := walk.visits_of_failed
    -- The last visit of the run is the one that failed, and nothing that passed before has its
    -- error.
    obtain ⟨earlier, failing, later, rfl, early, visited, -⟩ := Performed.split_last visits
    obtain ⟨answer, answered, wrong⟩ := Reply.outcome_of_failed visited
    have among : failing ∈ (application.execution invoke given world).record := by simp [record]
    have ran := chain.ran failing among
    have code := Performed.exitCode?_of_outcome ran answered wrong
    have resolving : resolved ∈ (application.execution invoke given world).record := by
      simp [record]
    have carried := chain.ran resolved resolving
    rw [Performed.Ran, resolution] at carried
    have resolves : error.failure.exitCode =
        ((failing.reply.errand.failure? answer).bind Failure.exitCode?).getD 0 := by
      rw [← code]
      exact Container.resolveExitCode_of_unclaimed
        (unclaimed resolved resolving _ _ (by rw [resolution]; rfl)) carried
    refine ⟨earlier, failing, later ++ resolved :: rest, passed, answer, by simp [record], early,
      ran, answered, wrong, resolves, ?_⟩
    rintro behaviour limit depth rfl
    -- Under a behaviour, a participant that failed within this errand failed with the failure that
    -- the errand answered.
    obtain ⟨lines, speaks⟩ := ran.speaks
    refine ⟨lines, speaks, fun own fails => ?_⟩
    have handed := speaks.failure_of_answered (Reply.station_of_visit? visited) answered fails
    have exitCode : error.failure.exitCode = own.exitCode?.getD 0 := by rw [resolves, handed]; rfl
    refine ⟨handed, exitCode, ?_, fun cause readFrom => ?_⟩
    · rintro inner rfl
      rw [exitCode, Failure.exitCode?_handedOn]
    · rw [exitCode, readFrom.exitCode?_eq]

/-- An application with a banner and a hook of its own. -/
def adorned : Application where
  primarySources := [.package "adorned"]
  banner := some (.custom { name := "banner" })
  hooks := some { name := "hooks" }
  catalog := .withDefaults
  coordinator := ⟨0⟩

/-- A failure that asks for the exit code 4. -/
def quitting : Failure := ⟨.exitStatus 4 "inner", []⟩

/-- The hook of an application quits. -/
def hookQuits : Behaviour
  | .renderBanner .. => .done (.ok "")
  | .postProcess .. => .done (.error quitting)
  | _ => .panic "unexpected call"

/-- The banner of an application quits, as far as an output operation lets it. -/
def bannerQuits : Behaviour
  | .renderBanner .. => .done (.error quitting.handedOn)
  | _ => .panic "unexpected call"

/-- The error of a run in which a step failed without a report. -/
def silentError (exitCode : ExitCode) (cause : LaunchError) : RunError where
  stage := .startup
  failure := { exitCode, reportedBy := .log, cause }

/-- A hook fails with a failure that asks for an exit code, and no mapper is asked: the run ends
with that code. -/
theorem exitCode_of_hookQuits :
    ((adorned.run (hookQuits.invoker 1 0) []).run.run {}).1.map (·.result) =
      .ok (.error (silentError 4 (LaunchFault.postProcess.dueTo quitting))) ∧
    ∃ (earlier : List Performed) (failing : Performed) (later : List Performed)
      (answer : failing.reply.errand.Answer) (lines : List JournalEntry),
      (adorned.execution (hookQuits.invoker 1 0) [] {}).record = earlier ++ failing :: later ∧
      4 = ((failing.reply.errand.failure? answer).bind Failure.exitCode?).getD 0 ∧
      failing.Speaks 0 lines := by
  have failed : ((adorned.run (hookQuits.invoker 1 0) []).run.run {}).1.map (·.result) =
      .ok (.error (silentError 4 (LaunchFault.postProcess.dueTo quitting))) := by
    decide +kernel
  have inactive : (adorned.execution (hookQuits.invoker 1 0) [] {}).record.all
      (!·.resolvesActively) = true := by decide +kernel
  obtain ⟨earlier, failing, later, _, answer, record, -, -, -, -, code, calls⟩ :=
    exitCode_of_failed_run failed
      fun performed among container failure resolves ref same active => by
      have quiet := List.all_eq_true.1 inactive performed among
      simp [Performed.resolvesActively, resolves, same, active] at quiet
  obtain ⟨lines, speaks, -⟩ := calls hookQuits 0 0 rfl
  exact ⟨failed, earlier, failing, later, answer, lines, record, code, speaks⟩

/-- The exit code of a failing banner does not survive the output operation that hands it on:
neither in a run whose banner fails, nor where the exit code of the banner's error is resolved by
itself. -/
theorem exitCode_lost_by_banner :
    ((adorned.run (bannerQuits.invoker 1 0) []).run.run {}).1.map (·.result) =
      .ok (.error (silentError 0 (LaunchFault.banner.dueTo quitting.handedOn))) ∧
    ((Container.resolveExitCode (bannerQuits.invoker 1 0) none
      (LaunchFault.banner.dueTo quitting.handedOn).toFailure).result {}).1 = .ok 0 ∧
    quitting.exitCode? = some 4 := by
  decide +kernel

end Application

end Launchpad
