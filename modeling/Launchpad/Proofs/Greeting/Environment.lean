import Launchpad.Greeting.Behaviour
import Launchpad.Proofs.Environment.CommandLine
import Launchpad.Proofs.Environment.References
import Launchpad.Launch.Preparation

/-!
# The environment of a greeting

A command line and process variables that leave the settings of the library alone give an
environment in which the only such setting is that of the application's own defaults: the banner
goes to the log.
-/

namespace Launchpad.Greeting

/-- How the names of the library's own properties begin. -/
def reserved : List Char := "liftoff.".toList

/-- No argument is an option with the name of a library's own property. -/
def LeavesOptions (given : List String) : Prop :=
  ∀ argument ∈ given, ¬ ('-' :: '-' :: reserved) <+: argument.toList

/-- No process variable has the name of a library's own property, in either spelling. -/
def LeavesVariables (vars : List (String × String)) : Prop :=
  ∀ entry ∈ vars, ¬ reserved <+: entry.1.toList ∧ ¬ "LIFTOFF_".toList <+: entry.1.toList

variable {given : List String} {vars : List (String × String)} {key : String}

/-- A key that no pair is about has no value. -/
theorem get?_ofList_eq_none {pairs : List (String × String)}
    (absent : ∀ pair ∈ pairs, pair.1 ≠ key) :
    (Properties.ofList pairs).get? key = none := by
  have inserted : ∀ properties : Properties, properties.get? key = none →
      (pairs.foldl (fun merged pair => merged.insert pair.1 pair.2) properties).get? key =
        none := by
    induction pairs with
    | nil => exact fun _ silent => silent
    | cons pair rest ih =>
      intro properties silent
      refine ih (fun other among => absent other (List.mem_cons_of_mem _ among)) _ ?_
      rw [Properties.get?_insert, if_neg (Ne.symm (absent pair (List.mem_cons_self ..)))]
      exact silent
  exact inserted .empty rfl

/-- What stands behind the dashes of an option begins with its name. -/
theorem prefix_of_option {text name : String} {value : Option String}
    (option : Argument.read text = .option name value) :
    ('-' :: '-' :: name.toList) <+: text.toList := by
  unfold Argument.read at option
  split at option
  · rename_i rest shape
    split at option
    · cases option
    · rename_i found value' _ split
      cases option
      rw [shape, String.toList_ofList]
      have start : found = rest.takeWhile (· ≠ '=') := by
        unfold Argument.split at split
        exact (Prod.mk.inj split).1.symm
      rw [start]
      exact (List.prefix_cons_inj _).2 ((List.prefix_cons_inj _).2 (List.takeWhile_prefix _))
  · cases option

/-- No option provides a reserved key. -/
theorem property?_eq_none (leaves : LeavesOptions given) (own : reserved <+: key.toList) :
    Arguments.property? given key = none := by
  have plain : key ≠ Arguments.plainProperty := by
    rintro rfl
    exact absurd own (by decide)
  have unoffered : Arguments.occurrencesIn given key = [] := by
    refine List.filterMap_eq_nil_iff.2 fun argument among => ?_
    unfold Argument.value?
    split
    · rename_i name value option
      rw [if_neg]
      rintro rfl
      have start := (List.prefix_cons_inj '-').2 ((List.prefix_cons_inj '-').2 own)
      exact leaves argument among (start.trans (prefix_of_option option))
    · rfl
  rw [Arguments.property?, if_neg fun both => plain both.1, if_pos unoffered]

/-- The variable of a reserved key begins with the prefix of such variables. -/
theorem reserved_variableName (own : reserved <+: key.toList) :
    "LIFTOFF_".toList <+: (PropertySource.variableName key).toList := by
  obtain ⟨rest, whole⟩ := own
  have spelled : (PropertySource.variableName key).toList = key.toList.map fun c =>
    if c = '.' ∨ c = '-' then '_' else c.toUpper := String.toList_ofList
  rw [spelled, ← whole, List.map_append]
  exact List.prefix_append _ _

/-- The environment that the listeners of a greeting are shown. -/
def configured (coordinator : CoordinatorRef) (vars : List (String × String))
    (arguments : Arguments) : Environment :=
  let described := application coordinator
  described.configureEnvironment described.settings arguments
    (described.initialEnvironment described.settings vars)

/-- The environment once the defaults were moved behind all others. -/
def prepared (coordinator : CoordinatorRef) (vars : List (String × String))
    (arguments : Arguments) : Environment :=
  let shown := configured coordinator vars arguments
  { shown with sources := shown.sources.moveLast PropertySource.defaults }

/-- The sources of a prepared environment, the command line first if there is one. -/
theorem sources_prepared (coordinator : CoordinatorRef) (vars : List (String × String))
    (arguments : Arguments) :
    (prepared coordinator vars arguments).sources =
      (if arguments.given.isEmpty then [] else [arguments.toSource]) ++ [
        { name := PropertySource.systemEnvironment, properties := .ofList vars, relaxed := true },
        { name := PropertySource.defaults,
          properties := .ofList [("liftoff.main.banner-mode", "log")] }] := by
  have first : arguments.toSource.name = PropertySource.commandLine := rfl
  unfold prepared configured Application.configureEnvironment Application.withDefaultProperties
    Application.withCommandLine
  cases arguments.given.isEmpty with
  | true => rfl
  | false => rfl

/-- Of the library's own properties, only the banner mode is set. -/
theorem raw?_prepared (coordinator : CoordinatorRef) {arguments : Arguments}
    (parsed : Arguments.parse given = .ok arguments) (leaves : LeavesOptions given)
    (spares : LeavesVariables vars) (key : String) (own : reserved <+: key.toList) :
    (prepared coordinator vars arguments).raw? key =
      if key = "liftoff.main.banner-mode" then some "log" else none := by
  have commandLine : PropertySources.lookup?
      (if arguments.given.isEmpty then [] else [arguments.toSource]) key = none := by
    split
    · rfl
    · have silent : arguments.toProperties.get? key = none :=
        (Arguments.get?_toProperties parsed key).trans (property?_eq_none leaves own)
      simp [PropertySource.get?, Arguments.toSource, silent]
  have unset : (Properties.ofList vars).get? key = none :=
    get?_ofList_eq_none fun entry among named => (spares entry among).1 (named ▸ own)
  have unspelled : (Properties.ofList vars).get? (PropertySource.variableName key) = none :=
    get?_ofList_eq_none fun entry among named =>
      (spares entry among).2 (named ▸ reserved_variableName own)
  have defaults : (Properties.ofList [("liftoff.main.banner-mode", "log")]).get? key =
      if key = "liftoff.main.banner-mode" then some "log" else none :=
    Properties.get?_insert ..
  have behind : PropertySources.lookup? [
      { name := PropertySource.systemEnvironment, properties := .ofList vars, relaxed := true },
      { name := PropertySource.defaults,
        properties := .ofList [("liftoff.main.banner-mode", "log")] }] key =
      if key = "liftoff.main.banner-mode" then some "log" else none := by
    rw [← defaults]
    simp only [PropertySources.lookup?_cons, PropertySource.get?, unset, unspelled]
    cases (Properties.ofList [("liftoff.main.banner-mode", "log")]).get? key <;> rfl
  rw [Environment.raw?, sources_prepared, PropertySources.lookup?, List.findSome?_append]
  exact (congrArg (Option.or · _) commandLine).trans behind

/-- The name of the log is a text without references. -/
theorem resolve_log (environment : Environment) : environment.resolve "log" = "log" := by
  have once : environment.expandOnce "log".toList = "log".toList := by
    have letters : Template.read ['l', 'o', 'g'] = [.literal 'l', .literal 'o', .literal 'g'] := by
      rw [Template.read_literal (by decide), Template.read_literal (by decide),
        Template.read_literal (by decide), Template.read]
    exact congrArg (Template.fill environment.expansion) letters
  rw [Environment.resolve, Environment.maxRounds, Environment.expand, once]
  rfl

/-- Of the reserved keys, the prepared environment only has the banner mode, and that is the log. -/
theorem get?_prepared (coordinator : CoordinatorRef) {arguments : Arguments}
    (parsed : Arguments.parse given = .ok arguments) (leaves : LeavesOptions given)
    (spares : LeavesVariables vars) (key : String) (own : reserved <+: key.toList) :
    (prepared coordinator vars arguments).get? key =
      if key = "liftoff.main.banner-mode" then some "log" else none := by
  rw [Environment.get?, raw?_prepared coordinator parsed leaves spares key own]
  split
  · exact congrArg some (resolve_log _)
  · rfl

/-- The settings of a greeting. -/
def settings : Settings := { bannerMode := .log }

/-- Binding the prepared environment gives the settings of a greeting. -/
theorem bind_prepared (coordinator : CoordinatorRef) {arguments : Arguments}
    (parsed : Arguments.parse given = .ok arguments) (leaves : LeavesOptions given)
    (spares : LeavesVariables vars) :
    Binding.bind (prepared coordinator vars arguments) Binding.mainRoot {} = .ok settings := by
  have unset : ∀ name, reserved <+: name.toList → name ≠ "liftoff.main.banner-mode" →
      (prepared coordinator vars arguments).get? name = none := fun name own other => by
    rw [get?_prepared coordinator parsed leaves spares name own, if_neg other]
  have mode : (prepared coordinator vars arguments).get? "liftoff.main.banner-mode" = some "log" :=
    get?_prepared coordinator parsed leaves spares _ (by decide)
  have flag : ∀ key, reserved <+: (Binding.property Binding.mainRoot key).toList →
      Binding.property Binding.mainRoot key ≠ "liftoff.main.banner-mode" →
      Binding.optionalFlag (prepared coordinator vars arguments) Binding.mainRoot key =
        .ok none := by
    intro key own other
    rw [Binding.optionalFlag, Binding.optional, unset _ own other]
  have read : Binding.read (prepared coordinator vars arguments) Binding.mainRoot =
      .ok { bannerMode := some .log } := by
    have bannerMode : Binding.optional (prepared coordinator vars arguments)
        (Binding.property Binding.mainRoot "banner-mode") Binding.readMode = .ok (some .log) := by
      have spelled : Binding.property Binding.mainRoot "banner-mode" =
          "liftoff.main.banner-mode" := by decide
      rw [Binding.optional, spelled, mode]
      rfl
    have kind : Binding.optional (prepared coordinator vars arguments)
        (Binding.property Binding.mainRoot "web-application-type") Binding.readKind = .ok none := by
      rw [Binding.optional, unset _ (by decide) (by decide)]
    rw [Binding.read, flag "headless" (by decide) (by decide),
      flag "log-startup-info" (by decide) (by decide),
      flag "register-shutdown-hook" (by decide) (by decide),
      flag "add-command-line-properties" (by decide) (by decide),
      flag "allow-bean-definition-overriding" (by decide) (by decide),
      flag "lazy-initialization" (by decide) (by decide), bannerMode, kind,
      unset (Binding.property Binding.mainRoot "sources") (by decide) (by decide)]
    rfl
  rw [Binding.bind, read]
  rfl

end Launchpad.Greeting
