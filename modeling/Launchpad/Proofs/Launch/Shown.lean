import Launchpad.Command
import Launchpad.Proofs.Environment.Layers
import Launchpad.Proofs.Launch.Preparation

/-!
# The environment that listeners are shown

The environment that a run shows first to its listeners is the one that it started from with the
layers of the run worked in. This holds of every run, also of one that does not come to its end:
what such a run has done could have been the beginning of one that does.
-/

namespace Launchpad

/-- Every errand can be answered. -/
theorem Errand.nonempty_answer (errand : Errand) : Nonempty errand.Answer := by
  have failure : Nonempty Failure := ⟨⟨.text "", []⟩⟩
  cases errand with
  | inspect => exact ⟨(default : Container)⟩
  | build _ construction => exact ⟨(.error failure.some : Except Failure construction.Product)⟩
  | makeStore => exact ⟨(⟨0⟩ : StoreRef)⟩
  | beginCloseStore => exact ⟨(.ok [] : Except BootstrapFault (List CloseAction))⟩
  | readArguments => exact ⟨(.error "" : Except String Arguments)⟩
  | registerSingleton => exact ⟨(.ok () : Except ContainerFault Unit)⟩
  | check => exact ⟨(.ok () : Except LaunchError Unit)⟩
  | showEnvironment _ _ environment =>
    exact ⟨((.ok (), environment) : Except Failure Unit × Environment)⟩
  | bindSettings _ _ settings => exact ⟨((.ok (), settings) : Except Failure Unit × Settings)⟩
  | enterPhase => exact ⟨({ name := "" } : StartupStep)⟩
  | tagPhase => exact ⟨({ name := "" } : StartupStep)⟩
  | resolveExitCode => exact ⟨(0 : ExitCode)⟩
  | registerForShutdown | report => exact ⟨true⟩
  | readVariables => exact ⟨([] : List (String × String))⟩
  | runners => exact ⟨([] : List Runner)⟩
  | printBanner => exact ⟨(.ok none : Except Failure (Option PrintedBanner))⟩
  | createContainer => exact ⟨(.error failure.some : Except Failure ContainerRef)⟩
  | buildReporter => exact ⟨(.error failure.some : Except Failure ExceptionReporter)⟩
  | setHeadless | log | leavePhase | equip => exact ⟨()⟩
  | _ => exact ⟨(.ok () : Except Failure Unit)⟩

namespace Plan

variable {α : Type}

/-- Every plan can come to its end. -/
theorem exists_path (plan : Plan α) : ∃ replies answer, plan.Path replies (some answer) := by
  induction plan with
  | done answer => exact ⟨[], answer, .done⟩
  | perform errand next ih =>
    obtain ⟨answer⟩ := errand.nonempty_answer
    obtain ⟨replies, last, path⟩ := ih answer
    exact ⟨_, last, .answered path⟩

/-- A path that stopped at an errand could have gone on from there. -/
theorem Path.couldGoOn {plan : Plan α} {replies : List Reply} (path : plan.Path replies none) :
    ∃ before errand abort answer after result,
      replies = before ++ [⟨errand, .error abort⟩] ∧
      plan.Path (before ++ ⟨errand, .ok answer⟩ :: after) (some result) := by
  generalize reached : (none : Option α) = ending at path
  induction path with
  | done => cases reached
  | @answered errand next answer replies result rest ih =>
    obtain ⟨before, other, abort, given, after, last, rfl, path⟩ := ih reached
    exact ⟨⟨errand, .ok answer⟩ :: before, other, abort, given, after, last, rfl, .answered path⟩
  | @stopped errand next abort =>
    obtain ⟨answer⟩ := errand.nonempty_answer
    obtain ⟨after, last, path⟩ := (next answer).exists_path
    exact ⟨[], errand, abort, answer, after, last, rfl, .answered path⟩

end Plan

/-- The environment that is shown to a listener. -/
def Errand.shown? : Errand → Option Environment
  | showEnvironment _ _ environment => some environment
  | _ => none

/-- The environments that listeners were shown. -/
def shownIn (replies : List Reply) : List Environment := replies.filterMap (·.errand.shown?)

theorem shownIn_append (first second : List Reply) :
    shownIn (first ++ second) = shownIn first ++ shownIn second :=
  List.filterMap_append

/-- What was shown is read off the replies about the environment. -/
theorem shownIn_environmentReplies (replies : List Reply) :
    shownIn (environmentReplies replies) = shownIn replies := by
  rw [shownIn, environmentReplies, List.filterMap_filter]
  refine List.filterMap_congr fun reply _ => ?_
  split
  · rfl
  · rename_i elsewhere
    unfold Errand.shown?
    split
    · rename_i shows
      rw [shows] at elsewhere
      exact absurd rfl elsewhere
    · rfl

/-- Showings show what is handed on. -/
theorem HandedOn.head?_shownIn {shows : List Reply} {environment left first : Environment}
    (told : ∀ reply ∈ shows, reply.showing?.isSome = true)
    (handed : HandedOn environment (showingsOf shows) left)
    (shown : (shownIn shows).head? = some first) : first = environment := by
  cases shows with
  | nil => cases shown
  | cons reply rest =>
    have here := told reply List.mem_cons_self
    unfold Reply.showing? at here
    split at here
    · generalize whole : showingsOf _ = showings at handed
      cases handed with
      | done => simp [Reply.showing?] at whole
      | shown => simp_all [Reply.showing?, shownIn, Errand.shown?]
    · cases here

namespace Application

open PropertySources

variable {application : Application} {given : List String}

/-- The environment that a run is to show its listeners. -/
def configured (application : Application) (arguments : Arguments)
    (vars : List (String × String)) : Environment :=
  application.configureEnvironment application.settings arguments
    (application.initialEnvironment application.settings vars)

/-- After the listeners nobody is shown the environment. -/
theorem shownIn_of_bindingCourse {rest : List Reply} {cause : Option LaunchError}
    {settings : Settings} {environment : Environment}
    (course : BindingCourse application environment rest cause settings) : shownIn rest = [] := by
  cases course with
  | bound onward => cases onward <;> rfl
  | _ => rfl

/-- Before a run shows an environment it has read its arguments and the process variables. -/
theorem configured_of_course {about : List Reply} {cause : Option LaunchError} {settings : Settings}
    {environment : Environment}
    (course : EnvironmentCourse application given about cause settings)
    (shown : (shownIn about).head? = some environment) :
    ∃ arguments vars rest,
      about = ⟨.readArguments given, .ok (.ok arguments)⟩ :: ⟨.readVariables, .ok vars⟩ :: rest ∧
      environment = application.configured arguments vars := by
  cases course with
  | unread | misread | unshown => cases shown
  | refused told handed _ => exact ⟨_, _, _, rfl, handed.head?_shownIn told shown⟩
  | @shown arguments vars startup step shows rest left _ _ told handed onward =>
    refine ⟨arguments, vars, _, rfl, handed.head?_shownIn told ?_⟩
    have flat : shownIn (⟨.readArguments given, .ok (.ok arguments)⟩ ::
        ⟨.readVariables, .ok vars⟩ :: ⟨.enterPhase startup .environmentPrepared, .ok step⟩ ::
          (shows ++ rest)) = shownIn shows := by
      rw [← List.append_nil (shownIn shows), ← shownIn_of_bindingCourse onward, ← shownIn_append]
      rfl
    rwa [flat] at shown

/-- A reply that shows an environment is one about the environment. -/
theorem environmentReplies_of_shown {errand : Errand} {shown : Environment}
    (shows : errand.shown? = some shown) (answer : Except Abort errand.Answer)
    (after : List Reply) :
    environmentReplies (⟨errand, answer⟩ :: after) =
      ⟨errand, answer⟩ :: environmentReplies after := by
  cases errand with
  | showEnvironment => rfl
  | _ => cases shows

/-- The environment that a run shows first is the one that it made of its arguments and of the
process variables, whether or not the run comes to its end. -/
theorem configured_of_path {replies : List Reply} {result : Option Outcome}
    {environment : Environment} (path : (application.plan given).Path replies result)
    (shown : (shownIn replies).head? = some environment) :
    ∃ arguments vars, ⟨.readArguments given, .ok (.ok arguments)⟩ ∈ replies ∧
      ⟨.readVariables, .ok vars⟩ ∈ replies ∧
      environment = application.configured arguments vars := by
  cases result with
  | some outcome =>
    obtain ⟨_, course, -⟩ := environmentCourse_of_path path
    obtain ⟨arguments, vars, rest, about, same⟩ :=
      configured_of_course course (by rwa [shownIn_environmentReplies])
    have among : ∀ reply ∈ environmentReplies replies, reply ∈ replies :=
      fun reply found => (List.mem_filter.1 found).1
    rw [about] at among
    exact ⟨arguments, vars, among _ (by simp), among _ (by simp), same⟩
  | none =>
    obtain ⟨before, errand, abort, answer, after, outcome, rfl, onward⟩ := path.couldGoOn
    obtain ⟨_, course, -⟩ := environmentCourse_of_path onward
    have sameErrands : shownIn [⟨errand, .error abort⟩] = shownIn [⟨errand, .ok answer⟩] := rfl
    have shownOnward : (shownIn (environmentReplies
        (before ++ ⟨errand, .ok answer⟩ :: after))).head? = some environment := by
      rw [shownIn_environmentReplies, List.append_cons, shownIn_append, shownIn_append,
        ← sameErrands, ← shownIn_append, List.head?_append, shown]
      rfl
    obtain ⟨arguments, vars, rest, about, same⟩ := configured_of_course course shownOnward
    have among : ∀ reply ∈ environmentReplies before, reply ∈ before ++ [⟨errand, .error abort⟩] :=
      fun reply found => List.mem_append_left _ (List.mem_filter.1 found).1
    -- Neither of the two errands shows anything, so the run had gone past both.
    have showsHere : shownIn (environmentReplies before) = [] →
        environmentReplies (⟨errand, .ok answer⟩ :: after) =
          ⟨errand, .ok answer⟩ :: environmentReplies after ∧ errand.shown? = some environment := by
      intro none
      rw [shownIn_environmentReplies] at none
      rw [shownIn_append, none, List.nil_append, shownIn, List.filterMap_cons] at shown
      have here : errand.shown? = some environment := by
        cases found : errand.shown? <;> simp_all
      exact ⟨environmentReplies_of_shown here _ _, here⟩
    have sameErrand : ∀ {first : Reply} {rest : List Reply},
        shownIn (environmentReplies before) = [] →
        environmentReplies (⟨errand, .ok answer⟩ :: after) = first :: rest →
        first.errand.shown? = some environment := by
      intro first rest none begins
      obtain ⟨here, shows⟩ := showsHere none
      rw [here] at begins
      rw [← (List.cons.inj begins).1]
      exact shows
    rw [environmentReplies_append] at about
    cases passed : environmentReplies before with
    | nil =>
      rw [passed, List.nil_append] at about
      cases sameErrand (by rw [passed]; rfl) about
    | cons first more =>
      rw [passed, List.cons_append] at about
      obtain ⟨rfl, onwards⟩ := List.cons.inj about
      cases more with
      | nil => cases sameErrand (by rw [passed]; rfl) onwards
      | cons second more =>
        obtain ⟨rfl, -⟩ := List.cons.inj onwards
        rw [passed] at among
        exact ⟨arguments, vars, among _ (by simp), among _ (by simp), same⟩

/-- An environment made of the process variables has none of the sources that a run fills itself. -/
theorem exactLayers_initialEnvironment
    (exact : ∀ environment, application.environment = some environment →
      ExactLayers environment.sources) (settings : Settings) (vars : List (String × String)) :
    ExactLayers (application.initialEnvironment settings vars).sources := by
  unfold initialEnvironment
  split
  · rename_i environment brought
    exact exact environment brought
  · intro source among own
    have named : source.name = PropertySource.systemEnvironment := by
      rw [List.mem_singleton.1 among]
    rw [named] at own
    exact absurd own (by decide)

/-- What a run has read is what its arguments say and what it found in the world. -/
theorem read_of_replies {invoke : Invoker} {world : World} {arguments : Arguments}
    {vars : List (String × String)}
    (readArguments : ⟨.readArguments given, .ok (.ok arguments)⟩ ∈
      (application.execution invoke given world).replies)
    (readVariables : ⟨.readVariables, .ok vars⟩ ∈
      (application.execution invoke given world).replies) :
    Arguments.parse given = .ok arguments ∧
      ∃ reading ∈ (application.execution invoke given world).record,
        reading.reply.errand = .readVariables ∧ reading.before.vars = vars := by
  have chain := chain_execution invoke application given world
  obtain ⟨reading, among, sameVars⟩ := List.mem_map.1 readVariables
  obtain ⟨parsing, present, sameArguments⟩ := List.mem_map.1 readArguments
  obtain ⟨before, after, rfl⟩ : ∃ before after, reading =
      ⟨before, ⟨.readVariables, .ok vars⟩, after⟩ := ⟨_, _, by rw [← sameVars]⟩
  obtain ⟨_, _, rfl⟩ : ∃ before after, parsing =
      ⟨before, ⟨.readArguments given, .ok (.ok arguments)⟩, after⟩ :=
    ⟨_, _, by rw [← sameArguments]⟩
  have parses : (.ok (Arguments.parse given), _) =
      ((.ok (.ok arguments), _) : Except Abort _ × World) :=
    chain.ran _ present
  have reads : (.ok before.vars, _) = ((.ok vars, _) : Except Abort _ × World) :=
    chain.ran _ among
  exact ⟨Except.ok.inj (Prod.mk.inj parses).1, _, among, rfl, Except.ok.inj (Prod.mk.inj reads).1⟩

/-- The layers of a run. If no source for the command line or for the defaults that an application
brought with its environment answers to relaxed names, then in the environment that a run makes of
its arguments and its starting environment both layers win over what was there, stand where they
stood or else at the ends, and leave everything else alone. The environment that a run shows first
to its listeners is one of these, made of the process variables that the run read. -/
theorem shown_environment_layered
    (exact : ∀ environment, application.environment = some environment →
      ExactLayers environment.sources) :
    (∀ (settings : Settings) (given : List String) (arguments : Arguments)
      (vars : List (String × String)), Arguments.parse given = .ok arguments →
      Layered application settings given (application.initialEnvironment settings vars).sources
        (application.configureEnvironment settings arguments
          (application.initialEnvironment settings vars)).sources) ∧
    ∀ (invoke : Invoker) (given : List String) (world : World) (environment : Environment),
      (shownIn (application.execution invoke given world).replies).head? = some environment →
      ∃ reading ∈ (application.execution invoke given world).record,
        reading.reply.errand = .readVariables ∧
        Layered application application.settings given
          (application.initialEnvironment application.settings reading.before.vars).sources
          environment.sources := by
  have layers : ∀ (settings : Settings) (given : List String) (arguments : Arguments)
      (vars : List (String × String)), Arguments.parse given = .ok arguments →
      Layered application settings given (application.initialEnvironment settings vars).sources
        (application.configureEnvironment settings arguments
          (application.initialEnvironment settings vars)).sources :=
    fun settings given arguments vars parsed => application.configureEnvironment_layered settings
      parsed (exactLayers_initialEnvironment exact settings vars)
  refine ⟨layers, fun invoke given world environment shown => ?_⟩
  have path := Plan.path_execution invoke (application.plan given) world
  obtain ⟨arguments, vars, readArguments, readVariables, rfl⟩ := configured_of_path path shown
  obtain ⟨parsed, reading, among, reads, rfl⟩ := read_of_replies readArguments readVariables
  exact ⟨reading, among, reads, layers _ _ _ _ parsed⟩

/-- An environment with a command line and defaults of its own. -/
def layeredBefore : Environment where
  kind := .standard
  sources := [
    { name := PropertySource.commandLine,
      properties := (Properties.empty.insert "host" "old").insert "port" "1" },
    { name := "file", properties := Properties.empty.insert "port" "3" },
    { name := PropertySource.defaults, properties := Properties.empty.insert "mode" "old" }]

/-- An application that brings such an environment. -/
def supplied : Application where
  primarySources := [.package "supplied"]
  settings := { bannerMode := .off }
  environment := some layeredBefore
  defaultProperties := Properties.empty.insert "mode" "new"
  catalog := .withDefaults
  coordinator := ⟨0⟩

/-- A value of the command line is above one of the same name in the defaults. -/
theorem shown_environment_layered_supplied :
    ∃ environment, (shownIn (supplied.execution (fun _ => throw .exhausted) ["--port=2"]
        {}).replies).head? = some environment ∧
      textIn environment.sources PropertySource.commandLine "port" = some "2" ∧
      textIn environment.sources PropertySource.commandLine "host" = some "old" ∧
      textIn environment.sources PropertySource.defaults "mode" = some "new" ∧
      names environment.sources =
        [PropertySource.commandLine, "file", PropertySource.defaults] := by
  have isShown : (shownIn (supplied.execution (fun _ => throw .exhausted) ["--port=2"]
      {}).replies).head?.isSome = true := by decide +kernel
  obtain ⟨environment, shown⟩ := Option.isSome_iff_exists.1 isShown
  have exact : ∀ environment, supplied.environment = some environment →
      ExactLayers environment.sources := by
    rintro environment ⟨⟩ source among -
    revert source
    decide
  obtain ⟨reading, -, -, layered⟩ := (shown_environment_layered exact).2 _ _ _ _ shown
  have brought : supplied.initialEnvironment supplied.settings reading.before.vars =
      layeredBefore := rfl
  rw [brought] at layered
  refine ⟨environment, shown, ?_, ?_, ?_, ?_⟩
  · rw [layered.commandLine]
    decide +kernel
  · rw [layered.commandLine]
    decide +kernel
  · rw [layered.defaults]
    decide +kernel
  · rw [layered.names]
    decide +kernel

end Application

end Launchpad
