import Launchpad.Proofs.Environment.Names
import Launchpad.Proofs.Launch.Shown

/-!
# The environment that is attached to the container

Once its listeners have agreed, a run moves the defaults behind the other sources and refuses an
environment that sets the environment prefix. Otherwise the container gets what the listeners left:
the same sources and profiles, and the kind of environment that belongs to the container, unless the
application brought the environment.
-/

namespace Launchpad

namespace PropertySources

variable {sources : PropertySources} {key : String}

/-- A stack answers for a key if one of its sources does. -/
theorem isSome_lookup?_iff :
    (lookup? sources key).isSome = true ↔ ∃ source ∈ sources, source.contains key = true := by
  rw [lookup?, List.findSome?_isSome_iff]
  rfl

end PropertySources

open PropertySources

/-- Whether some source of an environment sets the prefix of environments, under its own name or, in
a relaxed source, as a process variable. -/
def Environment.SetsPrefix (environment : Environment) : Prop :=
  ∃ source ∈ environment.sources, source.contains Check.environmentPrefixProperty = true

/-- What becomes of the environment that the listeners left. -/
structure AttachedFrom (application : Application) (settings : Settings)
    (left attached : Environment) : Prop where
  sources : attached.sources = others left.sources PropertySource.defaults ++
    (named? left.sources PropertySource.defaults).toList
  profiles : attached.profiles = left.profiles
  defaultProfiles : attached.defaultProfiles = left.defaultProfiles
  kind : attached.kind =
    if application.environment.isSome then left.kind
    else .forApplication (application.kindUnder settings)

/-- What a run whose settings are bound does for its container. -/
structure Attaches (application : Application) (settings : Settings) (left : Environment)
    (record : List Performed) : Prop where
  /-- It is asked for with the kind in force. -/
  kind : ∀ performed ∈ record, ∀ factory kind,
    performed.reply.errand = .createContainer factory kind → kind = application.kindUnder settings
  /-- It is given no other environment, and has this one from then on. -/
  given : ∀ performed ∈ record, ∀ container environment,
    performed.reply.errand = .equip container (.environment environment) →
      AttachedFrom application settings left environment ∧
        (container.index < performed.before.containers.length →
          (performed.after.container container).environment = some environment)
  /-- It is given the environment once it was made. -/
  every : ∀ performed ∈ record, ∀ factory kind container,
    performed.reply = ⟨.createContainer factory kind, .ok (.ok container)⟩ →
      ∃ giving ∈ record, ∃ environment,
        giving.reply.errand = .equip container (.environment environment)

/-- Giving an existing container an environment attaches it. -/
theorem Performed.Ran.attached {invoke : Invoker} {performed : Performed}
    (ran : performed.Ran invoke) {container : ContainerRef} {environment : Environment}
    (gives : performed.reply.errand = .equip container (.environment environment))
    (made : container.index < performed.before.containers.length) :
    (performed.after.container container).environment = some environment := by
  obtain ⟨before, ⟨errand, answer⟩, after⟩ := performed
  cases gives
  have equipped : (.ok (), before.modifyContainer container
      (Equipment.applyTo · (.environment environment))) =
      ((answer, after) : Except Abort Unit × World) := ran
  cases equipped
  rw [World.container_modifyContainer_self _ _ _ made]
  rfl

/-- Whether an errand is about what the listeners left. -/
def Errand.isAfterListeners : Errand → Bool
  | check (.environmentPrefix _) | bindSettings .. | createContainer ..
  | equip _ (.environment _) =>
    true
  | _ => false

/-- Whether an errand makes the container or gives it the environment. -/
def Errand.isAttaching : Errand → Bool
  | createContainer .. | equip _ (.environment _) => true
  | _ => false

/-- The container is made, and given the environment, after the listeners have seen that. -/
theorem Errand.isAfterListeners_of_isAttaching {errand : Errand}
    (attaching : errand.isAttaching = true) : errand.isAfterListeners = true := by
  unfold isAttaching at attaching
  split at attaching <;> first | rfl | cases attaching

/-- What is done after the listeners have seen the environment still concerns it. -/
theorem Errand.isOfEnvironment_of_isAfterListeners {errand : Errand}
    (late : errand.isAfterListeners = true) : errand.isOfEnvironment = true := by
  unfold isAfterListeners at late
  split at late <;> first | rfl | cases late

namespace Application

variable {application : Application} {given : List String}

/-- No listener is shown the environment while the settings are being bound, or afterwards. -/
theorem showingsOf_of_bindingCourse {environment : Environment} {rest : List Reply}
    {cause : Option LaunchError} {settings : Settings}
    (course : BindingCourse application environment rest cause settings) :
    showingsOf rest = [] := by
  cases course with
  | bound onward => cases onward <;> rfl
  | _ => rfl

/-- What is attached comes from what the listeners leave, with the defaults behind everything else.
-/
theorem defaultsLast_attachedFrom {settings : Settings} {left : Environment}
    (distinct : (names left.sources).Nodup) :
    AttachedFrom application settings left
      (application.convertEnvironment settings (defaultsLast left)) := by
  unfold convertEnvironment
  cases brought : application.environment with
  | none => exact ⟨moveLast_eq distinct, rfl, rfl, by simp [brought, Environment.convert]⟩
  | some environment => exact ⟨moveLast_eq distinct, rfl, rfl, by simp [brought, defaultsLast]⟩

/-- The check refuses an environment that sets the prefix, and no other. -/
theorem verdict_defaultsLast {left : Environment} (distinct : (names left.sources).Nodup) :
    (left.SetsPrefix ∧ (Check.environmentPrefix (defaultsLast left)).verdict =
      .error LaunchFault.environmentPrefix.alone) ∨
    (¬left.SetsPrefix ∧ (Check.environmentPrefix (defaultsLast left)).verdict = .ok ()) := by
  have sets : (defaultsLast left).has Check.environmentPrefixProperty = true ↔ left.SetsPrefix := by
    rw [Environment.has, Environment.raw?, isSome_lookup?_iff]
    exact exists_congr fun source => and_congr_left' (mem_moveLast distinct)
  by_cases set : left.SetsPrefix
  · exact .inl ⟨set, by rw [Check.verdict, if_pos (sets.2 set)]⟩
  · exact .inr ⟨set, by rw [Check.verdict, if_neg (mt sets.1 set)]⟩

/-- The replies that are about what the listeners left come after the listeners. -/
theorem mem_of_isAfterListeners {arguments : Arguments} {vars : List (String × String)}
    {startup : Startup} {step : StartupStep} {shows rest : List Reply}
    (told : ∀ reply ∈ shows, reply.showing?.isSome = true) {reply : Reply}
    (among : reply ∈ (⟨.readArguments given, .ok (.ok arguments)⟩ : Reply) ::
      ⟨.readVariables, .ok vars⟩ :: ⟨.enterPhase startup .environmentPrepared, .ok step⟩ ::
        (shows ++ rest))
    (late : reply.errand.isAfterListeners = true) : reply ∈ rest := by
  simp only [List.mem_cons, List.mem_append] at among
  obtain rfl | rfl | rfl | shown | among := among
  · cases late
  · cases late
  · cases late
  · have here := told reply shown
    unfold Reply.showing? at here
    split at here <;> first | cases late | cases here
  · exact among

/-- What a run attaches once its settings are bound. -/
theorem attaches_of_course {invoke : Invoker} {settings : Settings} {left : Environment}
    {record : List Performed} {rest : List Reply} {cause : Option LaunchError}
    (distinct : (names left.sources).Nodup) (ran : ∀ performed ∈ record, performed.Ran invoke)
    (created : ∀ performed ∈ record, ∀ factory kind,
      performed.reply.errand = .createContainer factory kind → performed.reply ∈ rest)
    (given : ∀ performed ∈ record, ∀ container environment,
      performed.reply.errand = .equip container (.environment environment) →
        performed.reply ∈ rest)
    (present : ∀ reply ∈ rest, ∃ performed ∈ record, performed.reply = reply)
    (course : AttachmentCourse application settings
      (application.convertEnvironment settings (defaultsLast left)) rest cause) :
    Attaches application settings left record where
  kind performed among factory kind creates := by
    have here := created performed among factory kind creates
    cases course with
    | unasked => cases here
    | refused =>
      rw [List.mem_singleton.1 here] at creates
      cases creates
      rfl
    | attached =>
      obtain same | same : performed.reply = _ ∨ performed.reply = _ := by simpa using here
      all_goals
        rw [same] at creates
        cases creates
      rfl
  given performed among container environment gives := by
    have here := given performed among container environment gives
    refine ⟨?_, (ran performed among).attached gives⟩
    cases course with
    | unasked => cases here
    | refused =>
      rw [List.mem_singleton.1 here] at gives
      cases gives
    | attached =>
      obtain same | same : performed.reply = _ ∨ performed.reply = _ := by simpa using here
      all_goals
        rw [same] at gives
        cases gives
      exact defaultsLast_attachedFrom distinct
  every performed among factory kind container made := by
    have here := created performed among factory kind (by rw [made])
    rw [made] at here
    cases course with
    | unasked => cases here
    | refused => cases List.mem_singleton.1 here
    | attached =>
      obtain ⟨-, rfl⟩ : _ ∧ container = _ := by simpa using here
      obtain ⟨giving, listed, gives⟩ := present _ (List.mem_cons_of_mem _ List.mem_cons_self)
      exact ⟨giving, listed, _, by rw [gives]⟩

/-- The check of the run's own answers as its verdict says. -/
theorem check_of_ran {invoke : Invoker} {record : List Performed} {own : Check}
    {answer : Except LaunchError Unit} (ran : ∀ performed ∈ record, performed.Ran invoke)
    (present : ∃ performed ∈ record, performed.reply = ⟨.check own, .ok answer⟩) :
    own.verdict = answer := by
  obtain ⟨⟨before, reply, after⟩, among, rfl⟩ := present
  have verdict : (.ok own.verdict, before) =
      ((.ok answer, after) : Except Abort (Except LaunchError Unit) × World) := ran _ among
  exact Except.ok.inj (Prod.mk.inj verdict).1

/-- What a run does about what its listeners left. -/
theorem attaches_of_bindingCourse {invoke : Invoker} {last : Settings} {left : Environment}
    {record : List Performed} {rest : List Reply} {cause : Option LaunchError}
    (distinct : (names left.sources).Nodup) (ran : ∀ performed ∈ record, performed.Ran invoke)
    (late : ∀ performed ∈ record, performed.reply.errand.isAfterListeners = true →
      performed.reply ∈ rest)
    (present : ∀ reply ∈ rest, ∃ performed ∈ record, performed.reply = reply)
    (course : BindingCourse application (defaultsLast left) rest cause last) :
    (left.SetsPrefix →
      cause = some LaunchFault.environmentPrefix.alone ∧ last = application.settings ∧
      ∀ performed ∈ record,
        (∀ binder environment settings,
          performed.reply.errand ≠ .bindSettings binder environment settings) ∧
        ∀ factory kind, performed.reply.errand ≠ .createContainer factory kind) ∧
    (¬left.SetsPrefix →
      (∃ binding ∈ record, binding.reply.errand =
        .bindSettings application.binder (defaultsLast left) application.settings) ∧
      ∀ binding ∈ record, ∀ binder environment before settings,
        binding.reply = ⟨.bindSettings binder environment before, .ok (.ok (), settings)⟩ →
          Attaches application settings left record) := by
  obtain ⟨set, verdict⟩ | ⟨unset, verdict⟩ := verdict_defaultsLast distinct
  · refine ⟨fun _ => ?_, fun unset => absurd set unset⟩
    -- What the check answered in the run is what it says about this environment, so one of the two
    -- courses is left in each case.
    cases course with
    | forbidden =>
      have refused := check_of_ran ran (present _ List.mem_cons_self)
      rw [verdict] at refused
      cases refused
      refine ⟨rfl, rfl, fun performed among => ⟨fun _ _ _ binds => ?_, fun _ _ creates => ?_⟩⟩
      · have here := late performed among (by rw [binds]; rfl)
        rw [List.mem_singleton.1 here] at binds
        cases binds
      · have here := late performed among (by rw [creates]; rfl)
        rw [List.mem_singleton.1 here] at creates
        cases creates
    | unbound | bound =>
      have accepted := check_of_ran ran (present _ List.mem_cons_self)
      rw [verdict] at accepted
      cases accepted
  · refine ⟨fun set => absurd set unset, fun _ => ?_⟩
    cases course with
    | forbidden =>
      have refused := check_of_ran ran (present _ List.mem_cons_self)
      rw [verdict] at refused
      cases refused
    | unbound =>
      obtain ⟨binding, among, binds⟩ := present _ (List.mem_cons_of_mem _ List.mem_cons_self)
      refine ⟨⟨binding, among, by rw [binds]⟩, fun other present _ _ _ _ bound => ?_⟩
      have here := late other present (by rw [bound]; rfl)
      rw [bound] at here
      simp at here
    | @bound settings _ rest _ onward =>
      obtain ⟨binding, among, binds⟩ := present _ (List.mem_cons_of_mem _ List.mem_cons_self)
      refine ⟨⟨binding, among, by rw [binds]⟩,
        fun other listed binder environment before settings' bound => ?_⟩
      -- The settings are bound only once.
      have elsewhere :
          ⟨.bindSettings binder environment before, .ok (.ok (), settings')⟩ ∉ rest := by
        cases onward <;> simp
      obtain ⟨-, rfl⟩ : _ ∧ settings' = settings := by
        have here := late other listed (by rw [bound]; rfl)
        rw [bound] at here
        simpa [elsewhere] using here
      have after : ∀ performed ∈ record, performed.reply.errand.isAttaching = true →
          performed.reply ∈ rest := by
        intro performed among attaching
        have here := late performed among (Errand.isAfterListeners_of_isAttaching attaching)
        obtain checks | here := List.mem_cons.1 here
        · rw [checks] at attaching
          cases attaching
        · obtain binds | here := List.mem_cons.1 here
          · rw [binds] at attaching
            cases attaching
          · exact here
      refine attaches_of_course distinct ran (fun performed among factory kind creates => ?_)
        (fun performed among container environment gives => ?_) (fun reply later => ?_) onward
      · exact after performed among (by rw [creates]; rfl)
      · exact after performed among (by rw [gives]; rfl)
      · exact present reply (List.mem_cons_of_mem _ (List.mem_cons_of_mem _ later))

/-- What the listeners of a run left, and the replies about it. -/
structure LeftIn (application : Application) (given : List String) (execution : Execution Outcome)
    (left : Environment) (rest : List Reply) : Prop where
  read : ∃ arguments, ∃ reading ∈ execution.record, Arguments.parse given = .ok arguments ∧
    reading.reply.errand = .readVariables ∧
    HandedOn (application.configured arguments reading.before.vars)
      (showingsOf execution.replies) left
  late : ∀ reply ∈ execution.replies, reply.errand.isAfterListeners = true → reply ∈ rest
  present : ∀ reply ∈ rest, reply ∈ execution.replies

/-- A run that got past its listeners goes on with what they left: one that has come to something
later, or one that has entered the phase and whose listeners all agreed. -/
theorem exists_leftIn {invoke : Invoker} {world : World} {outcome : Outcome}
    (ended : (application.execution invoke given world).result = .ok outcome)
    (passed : (∃ reply ∈ (application.execution invoke given world).replies,
        reply.errand.isAfterListeners = true) ∨
      ((∃ startup step, ⟨.enterPhase startup .environmentPrepared, .ok step⟩ ∈
        (application.execution invoke given world).replies) ∧
      ∀ showing ∈ showingsOf (application.execution invoke given world).replies,
        showing.result = .ok ())) :
    ∃ left rest cause,
      LeftIn application given (application.execution invoke given world) left rest ∧
      BindingCourse application (defaultsLast left) rest cause outcome.settings ∧
      ∀ error, cause = some error → ∃ failure : RunFailure, failure.cause = error ∧
        outcome.result = .error { stage := .startup, failure } := by
  obtain ⟨cause, course, failed⟩ := environmentCourse_of_path (path_of_result ended)
  have listed : ∀ reply ∈ (application.execution invoke given world).replies,
      reply.errand.isAfterListeners = true → reply ∈
        environmentReplies (application.execution invoke given world).replies :=
    fun reply among late =>
      mem_environmentReplies.2 ⟨among, Errand.isOfEnvironment_of_isAfterListeners late⟩
  have present : ∀ reply ∈ environmentReplies (application.execution invoke given world).replies,
      reply ∈ (application.execution invoke given world).replies :=
    fun reply about => (mem_environmentReplies.1 about).1
  have passed : (∃ reply ∈ environmentReplies (application.execution invoke given world).replies,
        reply.errand.isAfterListeners = true) ∨
      ((∃ startup step, ⟨.enterPhase startup .environmentPrepared, .ok step⟩ ∈
        environmentReplies (application.execution invoke given world).replies) ∧
      ∀ showing ∈ showingsOf
          (environmentReplies (application.execution invoke given world).replies),
        showing.result = .ok ()) := by
    obtain ⟨reply, among, late⟩ | ⟨⟨startup, step, entered⟩, agreed⟩ := passed
    · exact .inl ⟨reply, listed reply among late, late⟩
    · rw [showingsOf_environmentReplies]
      exact .inr ⟨⟨startup, step, mem_environmentReplies.2 ⟨entered, rfl⟩⟩, agreed⟩
  have handedOn : ∀ arguments vars shows left rest, HandedOn (application.configured arguments vars)
      (showingsOf shows) left → showingsOf rest = [] →
      showingsOf (environmentReplies (application.execution invoke given world).replies) =
        showingsOf shows ++ showingsOf rest → HandedOn (application.configured arguments vars)
      (showingsOf (application.execution invoke given world).replies) left := by
    intro arguments vars shows left rest handed silent same
    rwa [← showingsOf_environmentReplies, same, silent, List.append_nil]
  generalize outcome.settings = last at course ⊢
  generalize environmentReplies (application.execution invoke given world).replies = about at *
  -- A course that ended before the listeners agreed has nothing behind them.
  cases course with
  | unread => simp at passed
  | misread => simp [Errand.isAfterListeners] at passed
  | unshown => simp [Errand.isAfterListeners] at passed
  | @refused _ _ _ _ shows _ _ told handed refusing =>
    obtain ⟨reply, among, late⟩ | ⟨-, agreed⟩ := passed
    · rw [← List.append_nil shows] at among
      cases mem_of_isAfterListeners told among late
    · refine absurd (fun showing among => agreed showing ?_) refusing
      simpa [Reply.showing?] using among
  | @shown arguments vars _ _ shows rest left _ _ told handed onward =>
    obtain ⟨parsed, reading, recorded, reads, rfl⟩ :=
      read_of_replies (present _ List.mem_cons_self)
        (present _ (List.mem_cons_of_mem _ List.mem_cons_self))
    refine ⟨left, rest, cause, ⟨⟨arguments, reading, recorded, parsed, reads, ?_⟩,
      fun reply among late => mem_of_isAfterListeners told (listed reply among late) late,
      fun reply later => present reply (by simp [later])⟩, onward, failed⟩
    exact handedOn _ _ shows left rest handed (showingsOf_of_bindingCourse onward)
      (by simp [Reply.showing?])

/-- The environment of a run that has entered the phase in which its listeners are shown it, and
whose listeners all agreed. -/
theorem environment_attached {invoke : Invoker} {world : World} {outcome : Outcome}
    (ended : (application.execution invoke given world).result = .ok outcome)
    (entered : ∃ startup step, ⟨.enterPhase startup .environmentPrepared, .ok step⟩ ∈
      (application.execution invoke given world).replies)
    (agreed : ∀ showing ∈ showingsOf (application.execution invoke given world).replies,
      showing.result = .ok ()) :
    ∃ arguments left, ∃ reading ∈ (application.execution invoke given world).record,
      Arguments.parse given = .ok arguments ∧
      reading.reply.errand = .readVariables ∧
      HandedOn (application.configured arguments reading.before.vars)
        (showingsOf (application.execution invoke given world).replies) left ∧
      ((names left.sources).Nodup →
        (left.SetsPrefix →
          (∃ failure : RunFailure, failure.cause = LaunchFault.environmentPrefix.alone ∧
            outcome.result = .error { stage := .startup, failure }) ∧
          outcome.settings = application.settings ∧
          ∀ performed ∈ (application.execution invoke given world).record,
            (∀ binder environment settings,
              performed.reply.errand ≠ .bindSettings binder environment settings) ∧
            ∀ factory kind, performed.reply.errand ≠ .createContainer factory kind) ∧
        (¬left.SetsPrefix →
          (∃ binding ∈ (application.execution invoke given world).record,
            binding.reply.errand =
              .bindSettings application.binder (defaultsLast left) application.settings) ∧
          ∀ binding ∈ (application.execution invoke given world).record,
            ∀ binder environment before settings,
              binding.reply =
                ⟨.bindSettings binder environment before, .ok (.ok (), settings)⟩ →
              Attaches application settings left
                (application.execution invoke given world).record)) := by
  obtain ⟨left, rest, cause, leftIn, onward, failed⟩ := exists_leftIn ended (.inr ⟨entered, agreed⟩)
  obtain ⟨arguments, reading, recorded, parsed, reads, handed⟩ := leftIn.read
  refine ⟨arguments, left, reading, recorded, parsed, reads, handed, fun distinct => ?_⟩
  have ran := (chain_execution invoke application given world).ran
  have attaches := attaches_of_bindingCourse distinct ran
    (fun performed recorded => leftIn.late _ (List.mem_map_of_mem recorded))
    (fun reply later => List.mem_map.1 (leftIn.present reply later)) onward
  refine ⟨fun set => ?_, attaches.2⟩
  obtain ⟨refused, same, nothing⟩ := attaches.1 set
  exact ⟨failed _ refused, same, nothing⟩

/-- Whether a reply is the begin of the phase in which listeners are shown the environment. -/
def isShowingBegun (reply : Reply) : Bool :=
  match reply with
  | ⟨.enterPhase _ .environmentPrepared, .ok _⟩ => true
  | _ => false

/-- A reply that begins the showing enters the phase of the environment. -/
theorem eq_of_isShowingBegun {reply : Reply} (begun : isShowingBegun reply = true) :
    ∃ startup step, reply = ⟨.enterPhase startup .environmentPrepared, .ok step⟩ := by
  unfold isShowingBegun at begun
  split at begun
  · exact ⟨_, _, rfl⟩
  · cases begun

/-- Whether a container is given its environment. -/
def isGiving (errand : Errand) : Bool :=
  match errand with
  | .equip _ (.environment _) => true
  | _ => false

/-- What gives a container its environment is the equipment with it. -/
theorem eq_of_isGiving {errand : Errand} (gives : isGiving errand = true) :
    ∃ container environment, errand = .equip container (.environment environment) := by
  unfold isGiving at gives
  split at gives
  · exact ⟨_, _, rfl⟩
  · cases gives

/-- An application with a listener and a binder of its own. -/
def adjusted : Application where
  primarySources := [.package "adjusted"]
  settings := { bannerMode := .off }
  defaultProperties := Properties.empty.insert "mode" "default"
  binder := .custom { name := "binder" }
  catalog := { runListeners := ⟨[("listener", .custom { name := "listener" })]⟩ }
  coordinator := ⟨0⟩

/-- The listener adds a source behind all others, and the binder asks for a servlet application. -/
def adjusts : Behaviour
  | .buildRunListener participant _ => .done (.ok (.custom participant none))
  | .environmentPrepared _ _ environment =>
    .done (.ok (), { environment with sources := environment.sources ++ [{ name := "late" }] })
  | .bindSettings _ _ _ settings =>
    .done (.ok (), { settings with applicationKind := some .servlet })
  | .starting .. | .containerPhase .. => .done (.ok ())
  | _ => .panic "unexpected call"

/-- The environment that the listener leaves. -/
def adjustedLeft : Environment where
  kind := .standard
  sources := [
    { name := PropertySource.systemEnvironment, relaxed := true },
    { name := PropertySource.defaults, properties := Properties.empty.insert "mode" "default" },
    { name := "late" }]

/-- A listener puts a source behind the defaults, and the binder asks for another kind: the
container gets the environment with the defaults last and of that kind. -/
theorem environment_attached_adjusted :
    ∃ giving ∈ (adjusted.execution (adjusts.invoker 1 0) [] {}).record,
      ∃ container environment,
        giving.reply.errand = .equip container (.environment environment) ∧
        environment.kind = .servlet ∧
        names environment.sources =
          [PropertySource.systemEnvironment, "late", PropertySource.defaults] := by
  have completes : (adjusted.execution (adjusts.invoker 1 0) [] {}).result.isOk = true := by
    decide +kernel
  have enters : (adjusted.execution (adjusts.invoker 1 0) [] {}).replies.any isShowingBegun =
      true := by decide +kernel
  have gives : (adjusted.execution (adjusts.invoker 1 0) [] {}).record.any
      (isGiving ·.reply.errand) = true := by decide +kernel
  have agrees : (showingsOf (adjusted.execution (adjusts.invoker 1 0) [] {}).replies).all
      (fun showing => showing.result = .ok ()) = true := by decide +kernel
  have leaves : (showingsOf (adjusted.execution (adjusts.invoker 1 0) [] {}).replies).getLast?.map
      (·.left) = some adjustedLeft := by decide +kernel
  have entered : ∃ startup step, ⟨.enterPhase startup .environmentPrepared, .ok step⟩ ∈
      (adjusted.execution (adjusts.invoker 1 0) [] {}).replies := by
    obtain ⟨reply, among, enters⟩ := List.any_eq_true.1 enters
    obtain ⟨startup, step, rfl⟩ := eq_of_isShowingBegun enters
    exact ⟨startup, step, among⟩
  obtain ⟨giving, given, container, environment, equips⟩ :
      ∃ giving ∈ (adjusted.execution (adjusts.invoker 1 0) [] {}).record,
        ∃ container environment,
          giving.reply.errand = .equip container (.environment environment) := by
    obtain ⟨giving, among, gives⟩ := List.any_eq_true.1 gives
    exact ⟨giving, among, eq_of_isGiving gives⟩
  refine ⟨giving, given, container, environment, equips, ?_⟩
  cases ended : (adjusted.execution (adjusts.invoker 1 0) [] {}).result with
  | error abort =>
    rw [ended] at completes
    cases completes
  | ok outcome =>
    obtain ⟨_, left, _, -, -, -, handed, attaches⟩ := environment_attached ended entered
      fun showing among => by simpa using List.all_eq_true.1 agrees showing among
    obtain rfl : left = adjustedLeft := by
      rw [handed.left_eq, leaves]
      rfl
    have unset : ¬adjustedLeft.SetsPrefix := by
      unfold Environment.SetsPrefix
      decide +kernel
    obtain ⟨⟨binding, among, binds⟩, attaches⟩ := (attaches (by decide +kernel)).2 unset
    have ran := (chain_execution (adjusts.invoker 1 0) adjusted [] {}).ran binding among
    obtain ⟨before, ⟨errand, answer⟩, after⟩ := binding
    cases binds
    have bound : (.ok (.ok (), { adjusted.settings with applicationKind := some .servlet }) :
        Except Abort (Except Failure Unit × Settings)) = answer := congrArg Prod.fst ran
    subst bound
    have from_left := ((attaches _ among _ _ _ _ rfl).given giving given _ _ equips).1
    refine ⟨from_left.kind, ?_⟩
    rw [from_left.sources]
    decide +kernel

end Application

end Launchpad
