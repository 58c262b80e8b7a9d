import Launchpad.Proofs.Environment.Layers

/-!
# What can still be found

A key that was found before the layers of a run are worked in is found afterwards, and under the
same text unless the run itself gives it another one. An older command line is an exception. It is
rebuilt from the keys that it holds, as a source that does not relax names: what it answered only
under the spelling of a process variable is left to the sources around it. Older defaults are
completed in place and keep their relaxed names, under which new defaults then stand in for them.
-/

namespace Launchpad

namespace PropertySource

variable {source : PropertySource} {extra : Properties} {key : String}

/-- A value is looked up by its key, and in a relaxed source by the variable of the key after that.
-/
theorem get?_eq_or (source : PropertySource) (key : String) :
    source.get? key = (source.properties.get? key).or
      (if source.relaxed then source.properties.get? (variableName key) else none) := by
  rw [get?]
  cases source.properties.get? key <;> rfl

/-- Whether the source answers for a key, but only under its spelling as a process variable. -/
def Respells (source : PropertySource) (key : String) : Prop :=
  source.properties.get? key = none ∧ source.contains key = true

instance (source : PropertySource) (key : String) : Decidable (source.Respells key) :=
  inferInstanceAs (Decidable (_ ∧ _))

/-- A source that does not spell the key otherwise has its value under the key itself. -/
theorem get?_properties_of_not_respells (plain : ¬ source.Respells key) :
    source.properties.get? key = source.get? key := by
  cases held : source.properties.get? key with
  | some text => rw [get?, held]
  | none =>
    cases found : source.get? key with
    | none => rfl
    | some text => exact absurd ⟨held, by rw [contains, found]; rfl⟩ plain

/-- A source answers for a key that it respells with what it holds under the spelling. -/
theorem Respells.get?_eq (respells : source.Respells key) :
    source.relaxed = true ∧ source.get? key = source.properties.get? (variableName key) := by
  obtain ⟨plain, answers⟩ := respells
  rw [contains, get?_eq_or, plain, Option.none_or] at answers
  rw [get?_eq_or, plain, Option.none_or]
  cases relaxed : source.relaxed with
  | true => exact ⟨rfl, rfl⟩
  | false => simp [relaxed] at answers

/-- More properties in a source change nothing for a key that they do not give, nor for one that
they only respell and the source holds. -/
theorem get?_merge_of_none (plain : extra.get? key = none)
    (kept : source.properties.get? key = none →
      ¬ { source with properties := extra }.Respells key) :
    { source with properties := source.properties.merge extra }.get? key = source.get? key := by
  rw [get?_eq_or, get?_eq_or source, Properties.get?_merge, Properties.get?_merge, plain,
    Option.none_or]
  cases held : source.properties.get? key with
  | some text => rfl
  | none =>
    have silent := get?_properties_of_not_respells (kept held)
    rw [plain, get?_eq_or, plain, Option.none_or] at silent
    cases relaxed : source.relaxed with
    | false => rfl
    | true =>
      have silent' : extra.get? (variableName key) = none := by simpa [relaxed] using silent.symm
      rw [silent']
      rfl

/-- For a key that a source does not hold, they answer as they respell it. -/
theorem get?_merge_of_respells (absent : source.properties.get? key = none)
    (respells : { source with properties := extra }.Respells key) :
    { source with properties := source.properties.merge extra }.get? key =
      extra.get? (variableName key) := by
  obtain ⟨relaxed, answer⟩ := respells.get?_eq
  obtain ⟨text, found⟩ := Option.isSome_iff_exists.1 respells.2
  rw [answer] at found
  -- The two sources differ in their properties only.
  have relaxed' : source.relaxed = true := relaxed
  have found' : extra.get? (variableName key) = some text := found
  have plain : extra.get? key = none := respells.1
  rw [get?_eq_or, Properties.get?_merge, Properties.get?_merge, plain, absent, found']
  simp [relaxed']

end PropertySource

namespace PropertySources

variable {sources : PropertySources} {source : PropertySource} {name other key : String}

/-- Sources above others are looked at first. -/
theorem lookup?_append (above below : PropertySources) (key : String) :
    lookup? (above ++ below) key = (lookup? above key).or (lookup? below key) :=
  List.findSome?_append

/-- The sources in front of the first one of a name. -/
def ahead (sources : PropertySources) (name : String) : PropertySources :=
  sources.takeWhile (·.name ≠ name)

/-- The place of the first source of a name. -/
theorem place_of_named? (found : named? sources name = some source) :
    ∃ below, sources = ahead sources name ++ source :: below ∧
      remove sources name = ahead sources name ++ below ∧
      ∀ other, replace name other sources = ahead sources name ++ other :: below := by
  induction sources with
  | nil => cases found
  | cons held rest ih =>
    by_cases here : held.name = name
    · obtain rfl : held = source := by simpa [named?, here] using found
      exact ⟨rest, by simp [ahead, here], by simp [remove, ahead, here],
        by simp [replace, ahead, here]⟩
    · have goesOn : ahead (held :: rest) name = held :: ahead rest name := by simp [ahead, here]
      obtain ⟨below, whole, removed, replaced⟩ := ih (by simpa [named?, here] using found)
      rw [goesOn]
      refine ⟨below, ?_, ?_, fun other => ?_⟩
      · rw [List.cons_append, ← whole]
      · rw [List.cons_append, ← removed]
        simp [remove, here]
      · rw [List.cons_append, ← replaced]
        simp [replace, here]

/-- Another source is found without the first one of a name. -/
theorem named?_remove (differs : other ≠ name) :
    named? (remove sources name) other = named? sources other := by
  induction sources with
  | nil => rfl
  | cons held rest ih =>
    by_cases here : held.name = name
    · simp [remove, named?, here, Ne.symm differs]
    · have goesOn : remove (held :: rest) name = held :: remove rest name := by simp [remove, here]
      rw [goesOn]
      simp only [named?, List.find?_cons] at ih ⊢
      rw [ih]

/-- Removing one source and replacing another may be done in either order. -/
theorem remove_replace (differs : other ≠ name) (same : source.name = name) :
    remove (replace name source sources) other = replace name source (remove sources other) := by
  induction sources with
  | nil => rfl
  | cons held rest ih =>
    by_cases here : held.name = name
    · simp [replace, remove, here, same, Ne.symm differs]
    · by_cases there : held.name = other
      · simp [replace, remove, there, differs]
      · simpa [replace, remove, here, there] using ih

/-- Removing a source does not concern one of another name at the end. -/
theorem remove_append_singleton (differs : source.name ≠ name) :
    remove (sources ++ [source]) name = remove sources name ++ [source] := by
  induction sources with
  | nil => simp [remove, differs]
  | cons held rest ih =>
    by_cases here : held.name = name
    · simp [remove, here]
    · simpa [remove, here] using ih

/-- A replacement that does not answer leaves a key to the other sources. -/
theorem lookup?_replace_of_none (found : named? sources name = some source)
    {completed : PropertySource} (silent : completed.get? key = none) :
    lookup? (replace name completed sources) key = lookup? (remove sources name) key := by
  obtain ⟨below, -, removed, replaced⟩ := place_of_named? found
  rw [replaced, removed, lookup?_append, lookup?_append, lookup?_cons, silent, Option.none_or]

/-- One that answers leaves it to the sources in front of it only. -/
theorem lookup?_replace_of_some (found : named? sources name = some source)
    {completed : PropertySource} {text : String} (answers : completed.get? key = some text) :
    lookup? (replace name completed sources) key =
      (lookup? (ahead sources name) key).or (some text) := by
  obtain ⟨below, -, -, replaced⟩ := place_of_named? found
  rw [replaced, lookup?_append, lookup?_cons, answers, Option.some_or]

/-- One that answers as the source before it changes nothing. -/
theorem lookup?_replace_of_same (found : named? sources name = some source)
    {completed : PropertySource} (same : completed.get? key = source.get? key) :
    lookup? (replace name completed sources) key = lookup? sources key := by
  obtain ⟨below, whole, -, replaced⟩ := place_of_named? found
  rw [replaced, lookup?_append, lookup?_cons, same, ← lookup?_cons, ← lookup?_append, ← whole]

end PropertySources

open PropertySources

namespace Application

variable {defaults : Properties} {sources : PropertySources} {given : List String} {key : String}

/-- Whether new defaults stand in for older ones under a key that neither hold: the older ones
answer to relaxed names, and the new ones hold the spelling of the key. -/
def Recasts (defaults : Properties) (sources : PropertySources) (key : String) : Prop :=
  ∃ existing, named? sources PropertySource.defaults = some existing ∧
    existing.properties.get? key = none ∧ { existing with properties := defaults }.Respells key

instance (defaults : Properties) (sources : PropertySources) (key : String) :
    Decidable (Recasts defaults sources key) :=
  decidable_of_iff ((named? sources PropertySource.defaults).any (fun existing =>
    decide (existing.properties.get? key = none ∧
      { existing with properties := defaults }.Respells key)) = true)
    (by cases found : named? sources PropertySource.defaults <;> simp [Recasts, found])

/-- Defaults that do not give a key leave it as it is, unless they stand in for older ones. -/
theorem lookup?_withDefaultProperties (plain : defaults.get? key = none)
    (kept : ¬ Recasts defaults sources key) :
    lookup? (withDefaultProperties defaults sources) key = lookup? sources key := by
  unfold withDefaultProperties
  split
  · rfl
  · cases found : named? sources PropertySource.defaults with
    | none =>
      have silent : PropertySource.get? { name := PropertySource.defaults, properties := defaults }
          key = none := (PropertySource.get?_of_exact rfl key).trans plain
      rw [addLast, remove_eq_self found, lookup?_append, lookup?_cons, silent, lookup?_nil,
        Option.none_or, Option.or_none]
    | some existing =>
      refine lookup?_replace_of_same found (PropertySource.get?_merge_of_none plain ?_)
      exact fun absent respells => kept ⟨existing, found, absent, respells⟩

/-- Then the sources in front of the defaults and the new defaults decide. -/
theorem lookup?_withDefaultProperties_of_recasts (recasts : Recasts defaults sources key) :
    defaults.get? (PropertySource.variableName key) ≠ none ∧
      lookup? (withDefaultProperties defaults sources) key =
        (lookup? (ahead sources PropertySource.defaults) key).or
          (defaults.get? (PropertySource.variableName key)) := by
  obtain ⟨existing, found, absent, respells⟩ := recasts
  obtain ⟨text, answer⟩ := Option.isSome_iff_exists.1 respells.2
  rw [respells.get?_eq.2] at answer
  have held : defaults.get? (PropertySource.variableName key) = some text := answer
  have given : ¬ defaults.isEmpty = true := fun empty => by
    cases (Properties.get?_of_isEmpty empty _).symm.trans held
  rw [withDefaultProperties, if_neg given, found, held]
  refine ⟨nofun, lookup?_replace_of_some found ?_⟩
  rw [PropertySource.get?_merge_of_respells absent respells, held]

/-- A key that the defaults give is found. -/
theorem isSome_lookup?_withDefaultProperties {text : String}
    (gives : defaults.get? key = some text) :
    (lookup? (withDefaultProperties defaults sources) key).isSome = true := by
  have given : ¬ defaults.isEmpty = true := fun empty => by
    cases (Properties.get?_of_isEmpty empty _).symm.trans gives
  rw [withDefaultProperties, if_neg given]
  cases found : named? sources PropertySource.defaults with
  | none =>
    have answers : PropertySource.get? { name := PropertySource.defaults, properties := defaults }
        key = some text := (PropertySource.get?_of_exact rfl key).trans gives
    simp [addLast, lookup?_append, answers]
  | some existing =>
    have answers : { existing with properties := existing.properties.merge defaults }.get? key =
        some text := by
      rw [PropertySource.get?_eq_or, Properties.get?_merge, gives, Option.some_or, Option.some_or]
    simp [lookup?_replace_of_some found answers]

/-- The defaults are worked in alike with and without another source. -/
theorem remove_withDefaultProperties {name : String} (differs : name ≠ PropertySource.defaults)
    (defaults : Properties) (sources : PropertySources) :
    remove (withDefaultProperties defaults sources) name =
      withDefaultProperties defaults (remove sources name) := by
  unfold withDefaultProperties
  split
  · rfl
  · rw [named?_remove differs.symm]
    cases found : named? sources PropertySource.defaults with
    | none =>
      have found' : named? (remove sources name) PropertySource.defaults = none :=
        (named?_remove differs.symm).trans found
      simp only [addLast]
      rw [remove_eq_self found, remove_eq_self found', remove_append_singleton differs.symm]
    | some existing =>
      have named : existing.name = PropertySource.defaults := by
        simpa using List.find?_some found
      exact remove_replace differs named

/-- Removing a source does not concern the defaults. -/
theorem recasts_remove_iff {name : String} (differs : name ≠ PropertySource.defaults) :
    Recasts defaults (remove sources name) key ↔ Recasts defaults sources key := by
  rw [Recasts, named?_remove differs.symm, Recasts]

/-- A source other than the defaults is found as it was. -/
theorem named?_withDefaultProperties {name : String} (differs : name ≠ PropertySource.defaults)
    (defaults : Properties) (sources : PropertySources) :
    named? (withDefaultProperties defaults sources) name = named? sources name := by
  unfold withDefaultProperties
  split
  · rfl
  · cases found : named? sources PropertySource.defaults with
    | none =>
      simp only [addLast]
      rw [remove_eq_self found]
      simp [named?, List.find?_append, differs.symm]
    | some existing =>
      have named : existing.name = PropertySource.defaults := by
        simpa using List.find?_some found
      change named? (replace PropertySource.defaults _ sources) name = _
      rw [← named?_others differs, others_replace (by exact named), named?_others differs]

/-- Whether working a command line in takes from a key the text that an older command line had for
it: the older one answers for the key under a relaxed name only, and is rebuilt. -/
def Tears (given : List String) (sources : PropertySources) (key : String) : Prop :=
  given ≠ [] ∧ ∃ existing, named? sources PropertySource.commandLine = some existing ∧
    existing.Respells key

instance (given : List String) (sources : PropertySources) (key : String) :
    Decidable (Tears given sources key) :=
  decidable_of_iff (given ≠ [] ∧ (named? sources PropertySource.commandLine).any
    (fun existing => decide (existing.Respells key)) = true)
    (by cases found : named? sources PropertySource.commandLine <;> simp [Tears, found])

/-- The sources that are left to a key that the command line does not give. -/
def leftTo (given : List String) (sources : PropertySources) (key : String) : PropertySources :=
  if Tears given sources key then remove sources PropertySource.commandLine else sources

section CommandLine

variable {arguments : Arguments}

/-- A completed command line does not answer under the relaxed names of the older one. -/
theorem get?_completedBy_toSource (parsed : Arguments.parse given = .ok arguments)
    (existing : PropertySource) (key : String) :
    (completedBy arguments.toSource existing).get? key =
      (Arguments.property? given key).or (existing.properties.get? key) := by
  rw [completedBy_get?_eq_or rfl, get?_toSource parsed]

/-- A key that the command line gives is found. -/
theorem isSome_lookup?_withCommandLine (parsed : Arguments.parse given = .ok arguments)
    {text : String} (gives : Arguments.property? given key = some text) :
    (lookup? (withCommandLine arguments sources) key).isSome = true := by
  have among : given.isEmpty = false := by
    rw [List.isEmpty_eq_false_iff]
    rintro rfl
    rw [Arguments.property?_nil] at gives
    cases gives
  unfold withCommandLine
  rw [Arguments.given_of_parse parsed, among]
  cases found : named? sources PropertySource.commandLine with
  | none =>
    simp [addFirst, get?_toSource parsed, gives]
  | some existing =>
    have answers : (completedBy arguments.toSource existing).get? key = some text := by
      rw [get?_completedBy_toSource parsed, gives, Option.some_or]
    simp [lookup?_replace_of_some found answers]

/-- A command line that does not give a key leaves it to the other sources if it tears it, and as it
is otherwise. -/
theorem lookup?_withCommandLine (parsed : Arguments.parse given = .ok arguments)
    (silent : Arguments.property? given key = none) (sources : PropertySources) :
    lookup? (withCommandLine arguments sources) key = lookup? (leftTo given sources key) key := by
  unfold withCommandLine leftTo
  rw [Arguments.given_of_parse parsed]
  cases found : named? sources PropertySource.commandLine with
  | none =>
    have whole : ¬ Tears given sources key := by simp [Tears, found]
    have absent : named? sources arguments.toSource.name = none := found
    rw [if_neg whole]
    split
    · rfl
    · rw [addFirst, remove_eq_self absent, lookup?_cons, get?_toSource parsed, silent,
        Option.none_or]
  | some existing =>
    have answers : (completedBy arguments.toSource existing).get? key =
        existing.properties.get? key := by
      rw [get?_completedBy_toSource parsed, silent, Option.none_or]
    split
    · rename_i empty
      rw [if_neg fun torn => torn.1 (List.isEmpty_iff.1 empty)]
    · rename_i among
      by_cases respells : existing.Respells key
      · rw [if_pos ⟨by simpa using among, existing, found, respells⟩]
        exact lookup?_replace_of_none found (answers.trans respells.1)
      · have whole : ¬ Tears given sources key := by simp [Tears, found, respells]
        rw [if_neg whole]
        exact lookup?_replace_of_same found
          (answers.trans (PropertySource.get?_properties_of_not_respells respells))

/-- The defaults play no part in what is left to a key. -/
theorem leftTo_withDefaultProperties (given : List String) (defaults : Properties)
    (sources : PropertySources) (key : String) :
    leftTo given (withDefaultProperties defaults sources) key =
      withDefaultProperties defaults (leftTo given sources key) := by
  have differs : PropertySource.commandLine ≠ PropertySource.defaults := by decide
  have tears_iff : Tears given (withDefaultProperties defaults sources) key ↔
      Tears given sources key := by
    rw [Tears, named?_withDefaultProperties differs, Tears]
  unfold leftTo
  by_cases torn : Tears given sources key
  · rw [if_pos (tears_iff.2 torn), if_pos torn, remove_withDefaultProperties differs]
  · rw [if_neg (mt tears_iff.1 torn), if_neg torn]

/-- The command line does not concern the defaults. -/
theorem recasts_leftTo_iff :
    Recasts defaults (leftTo given sources key) key ↔ Recasts defaults sources key := by
  unfold leftTo
  split
  · exact recasts_remove_iff (by decide)
  · rfl

end CommandLine

/-- The arguments that a run works into its environment. -/
def workedIn (settings : Settings) (given : List String) : List String :=
  if settings.addCommandLineProperties then given else []

/-- Whether a run gives a key, on the command line that it works in or by its defaults. -/
def Gives (application : Application) (settings : Settings) (given : List String)
    (key : String) : Prop :=
  Arguments.property? (workedIn settings given) key ≠ none ∨
    application.defaultProperties.get? key ≠ none

/-- The sources of a configured environment: a run that does not want its command line worked in
works in an empty one. -/
theorem exists_sources_configureEnvironment (application : Application) (settings : Settings)
    {arguments : Arguments} (parsed : Arguments.parse given = .ok arguments)
    (before : Environment) :
    ∃ line, Arguments.parse (workedIn settings given) = .ok line ∧
      (application.configureEnvironment settings arguments before).sources =
        withCommandLine line
          (withDefaultProperties application.defaultProperties before.sources) := by
  rw [configureEnvironment, sources_withProfiles, workedIn]
  dsimp only
  split
  · exact ⟨arguments, parsed, rfl⟩
  · exact ⟨_, rfl, rfl⟩

/-- A key that the command line of a run does not give is found in the sources that are left to it,
with the defaults worked in. -/
theorem raw?_configureEnvironment {application : Application} {settings : Settings}
    {arguments : Arguments} (parsed : Arguments.parse given = .ok arguments) (before : Environment)
    (silent : Arguments.property? (workedIn settings given) key = none) :
    (application.configureEnvironment settings arguments before).raw? key =
      lookup? (withDefaultProperties application.defaultProperties
        (leftTo (workedIn settings given) before.sources key)) key := by
  obtain ⟨line, parsed, same⟩ :=
    exists_sources_configureEnvironment application settings parsed before
  rw [Environment.raw?, same, lookup?_withCommandLine parsed silent, leftTo_withDefaultProperties]

/-- A key that a run does not give, and that its defaults leave, is found in what is left to it. -/
theorem raw?_configureEnvironment_of_kept {application : Application} {settings : Settings}
    {arguments : Arguments} (parsed : Arguments.parse given = .ok arguments) (before : Environment)
    (ungiven : ¬ Gives application settings given key)
    (kept : ¬ Recasts application.defaultProperties before.sources key) :
    (application.configureEnvironment settings arguments before).raw? key =
      lookup? (leftTo (workedIn settings given) before.sources key) key := by
  obtain ⟨silent, plain⟩ := not_or.1 ungiven
  rw [raw?_configureEnvironment parsed before (not_not.1 silent)]
  exact lookup?_withDefaultProperties (not_not.1 plain) (mt recasts_leftTo_iff.1 kept)

/-- Where new defaults stand in for older ones, the sources in front of them come first. -/
theorem raw?_configureEnvironment_of_recasts {application : Application} {settings : Settings}
    {arguments : Arguments} (parsed : Arguments.parse given = .ok arguments) (before : Environment)
    (ungiven : ¬ Gives application settings given key)
    (recasts : Recasts application.defaultProperties before.sources key) :
    application.defaultProperties.get? (PropertySource.variableName key) ≠ none ∧
      (application.configureEnvironment settings arguments before).raw? key =
        (lookup? (ahead (leftTo (workedIn settings given) before.sources key)
          PropertySource.defaults) key).or
        (application.defaultProperties.get? (PropertySource.variableName key)) := by
  rw [raw?_configureEnvironment parsed before (not_not.1 (not_or.1 ungiven).1)]
  exact lookup?_withDefaultProperties_of_recasts (recasts_leftTo_iff.2 recasts)

/-- A key that a run gives is found. -/
theorem has_configureEnvironment_of_gives {application : Application} {settings : Settings}
    {arguments : Arguments} (parsed : Arguments.parse given = .ok arguments) (before : Environment)
    (gives : Gives application settings given key) :
    (application.configureEnvironment settings arguments before).has key = true := by
  cases silent : Arguments.property? (workedIn settings given) key with
  | some text =>
    obtain ⟨line, parsed, same⟩ :=
      exists_sources_configureEnvironment application settings parsed before
    rw [Environment.has, Environment.raw?, same]
    exact isSome_lookup?_withCommandLine parsed silent
  | none =>
    obtain ⟨text, defaulted⟩ := Option.ne_none_iff_exists'.1 (gives.resolve_left (not_not.2 silent))
    rw [Environment.has, raw?_configureEnvironment parsed before silent]
    exact isSome_lookup?_withDefaultProperties defaulted

/-- What an environment retains when the layers of a run are worked into it. -/
structure Retains (application : Application) (settings : Settings) (given : List String)
    (before after : Environment) : Prop where
  /-- A key that was found is found, unless it is torn and nothing else answers for it. -/
  found_iff : ∀ key, before.has key = true → (after.has key = true ↔
    ¬ Tears (workedIn settings given) before.sources key ∨
      Gives application settings given key ∨
      Recasts application.defaultProperties before.sources key ∨
      (lookup? (remove before.sources PropertySource.commandLine) key).isSome = true)
  /-- A key that is not given keeps its text, unless it is torn and nothing else has that text. -/
  same_iff : ∀ key, ¬ Gives application settings given key →
    ¬ Recasts application.defaultProperties before.sources key →
    (after.raw? key = before.raw? key ↔
      ¬ Tears (workedIn settings given) before.sources key ∨
        lookup? (remove before.sources PropertySource.commandLine) key = before.raw? key)
  /-- Such a key is found in the sources that are left to it. -/
  left : ∀ key, ¬ Gives application settings given key →
    ¬ Recasts application.defaultProperties before.sources key →
    after.raw? key = lookup? (leftTo (workedIn settings given) before.sources key) key
  /-- Where new defaults stand in for older ones, the sources in front of them come first. -/
  recast : ∀ key, ¬ Gives application settings given key →
    Recasts application.defaultProperties before.sources key →
    after.raw? key = (lookup? (ahead (leftTo (workedIn settings given) before.sources key)
        PropertySource.defaults) key).or
      (application.defaultProperties.get? (PropertySource.variableName key))

/-- The layers of a run leave every key that was found, and under its text if the run does not give
it, except those that an older command line answered under a relaxed name only. -/
theorem configureEnvironment_retains (application : Application) (settings : Settings)
    {given : List String} {arguments : Arguments} (parsed : Arguments.parse given = .ok arguments)
    (before : Environment) :
    Retains application settings given before
      (application.configureEnvironment settings arguments before) := by
  refine ⟨fun key held => ?_, fun key ungiven kept => ?_,
    fun _ => raw?_configureEnvironment_of_kept parsed before,
    fun _ ungiven recasts => (raw?_configureEnvironment_of_recasts parsed before ungiven recasts).2⟩
  · by_cases gives : Gives application settings given key
    · exact iff_of_true (has_configureEnvironment_of_gives parsed before gives)
        (.inr (.inl gives))
    · by_cases recasts : Recasts application.defaultProperties before.sources key
      · obtain ⟨answers, found⟩ :=
          raw?_configureEnvironment_of_recasts parsed before gives recasts
        refine iff_of_true ?_ (.inr (.inr (.inl recasts)))
        rw [Environment.has, found, Option.isSome_or, Option.isSome_iff_ne_none.2 answers,
          Bool.or_true]
      · rw [Environment.has, raw?_configureEnvironment_of_kept parsed before gives recasts, leftTo]
        by_cases torn : Tears (workedIn settings given) before.sources key
        · simp [torn, gives, recasts]
        · rw [if_neg torn]
          exact iff_of_true held (.inl torn)
  · rw [raw?_configureEnvironment_of_kept parsed before ungiven kept, leftTo]
    by_cases torn : Tears (workedIn settings given) before.sources key
    · simp [torn]
    · rw [if_neg torn]
      exact iff_of_true rfl (.inl torn)

/-- An environment in which an older command line and older defaults answer to relaxed names. -/
def handedOver : Environment where
  kind := .standard
  sources := [
    { name := PropertySource.commandLine,
      properties := Properties.empty.insert "SERVER_PORT" "9000", relaxed := true },
    { name := PropertySource.defaults, relaxed := true,
      properties := (Properties.empty.insert "LOG_LEVEL" "warn").insert "SERVER_NAME" "old" }]

/-- An application with defaults of its own. -/
def completing : Application where
  primarySources := [.package "completing"]
  defaultProperties := Properties.empty.insert "SERVER_NAME" "new"
  catalog := .withDefaults
  coordinator := ⟨0⟩

/-- A value of relaxed defaults is still found and a new default wins, while what stood in a relaxed
command line is lost. -/
theorem configureEnvironment_retains_handedOver :
    ∃ arguments, Arguments.parse ["--debug"] = .ok arguments ∧
      let after := completing.configureEnvironment {} arguments handedOver
      after.raw? "log.level" = handedOver.raw? "log.level" ∧
        after.raw? "server.name" = some "new" ∧ after.has "server.port" = false := by
  obtain ⟨arguments, parsed⟩ : ∃ arguments, Arguments.parse ["--debug"] = .ok arguments :=
    ⟨_, rfl⟩
  have retains := configureEnvironment_retains completing {} parsed handedOver
  have ungiven : ∀ key ∈ ["log.level", "server.name", "server.port"],
      ¬ Gives completing {} ["--debug"] key := by
    simp only [Gives]
    decide +kernel
  have kept : ∀ key ∈ ["log.level", "server.port"],
      ¬ Recasts completing.defaultProperties handedOver.sources key := by
    decide +kernel
  refine ⟨arguments, parsed, ?_, ?_, ?_⟩
  · refine (retains.same_iff "log.level" (ungiven _ (by simp)) (kept _ (by simp))).2 (.inl ?_)
    decide +kernel
  · rw [retains.recast "server.name" (ungiven _ (by simp)) (by decide +kernel)]
    decide +kernel
  · rw [Environment.has, retains.left "server.port" (ungiven _ (by simp)) (kept _ (by simp))]
    decide +kernel

/-- An option of no concern takes a key from an older command line that answers to relaxed names. -/
theorem key_torn_by_option :
    ∃ arguments, Arguments.parse ["--debug"] = .ok arguments ∧
      Arguments.property? ["--debug"] "server.port" = none ∧
      completing.defaultProperties.get? "server.port" = none ∧
      handedOver.raw? "server.port" = some "9000" ∧
      (completing.configureEnvironment {} arguments handedOver).raw? "server.port" = none :=
  ⟨_, rfl, by decide +kernel, by decide +kernel, by decide +kernel, by decide +kernel⟩

end Application

end Launchpad
