import Launchpad.Launch.Preparation
import Launchpad.Proofs.Environment.CommandLine

/-!
# The layers of a prepared environment

A run works two layers of its own into a stack of property sources: the application's default
properties and the command line. Both win over what the source of their name gave before. Everything
else in the stack stays as it is.
-/

namespace Launchpad

namespace PropertySource

variable {source : PropertySource}

/-- A source that is exact has a value for the key itself or for none. -/
theorem get?_of_exact (exact : source.relaxed = false) (key : String) :
    source.get? key = source.properties.get? key := by
  rw [get?]
  split
  · symm; assumption
  · rw [exact]
    symm
    assumption

/-- Only a name that a source holds can be answered from its own properties. -/
theorem get?_properties_eq_none {key : String} (absent : key ∉ source.keys) :
    source.properties.get? key = none := by
  rw [Properties.get?, List.lookup_eq_none_iff]
  intro entry among
  have differs : key ≠ entry.1 := fun same => absent (same ▸ List.mem_map_of_mem among)
  simpa using differs

/-- A name that a source holds is answered from its own properties. -/
theorem exists_of_mem_keys {key : String} (held : key ∈ source.keys) :
    ∃ text, source.properties.get? key = some text := by
  obtain ⟨entry, among, rfl⟩ := List.mem_map.1 held
  refine Option.ne_none_iff_exists'.1 fun absent => ?_
  rw [Properties.get?, List.lookup_eq_none_iff] at absent
  simpa using absent entry among

end PropertySource

namespace PropertySources

variable {sources : PropertySources} {source : PropertySource} {name other : String}

/-- The text that the source of a name gives under a key. -/
def textIn (sources : PropertySources) (name key : String) : Option String :=
  (named? sources name).bind (·.get? key)

/-- The sources of other names. -/
def others (sources : PropertySources) (name : String) : PropertySources :=
  sources.filter (·.name ≠ name)

@[simp] theorem others_nil : others [] name = [] := rfl

theorem others_cons : others (source :: sources) name =
    if source.name = name then others sources name else source :: others sources name := by
  unfold others
  by_cases same : source.name = name <;> simp [same]

/-- It does not matter which of two names is left out first. -/
theorem others_comm : others (others sources name) other = others (others sources other) name := by
  unfold others
  rw [List.filter_filter, List.filter_filter]
  congr
  funext held
  exact Bool.and_comm ..

/-- A source of another name is found without those of this one. -/
theorem named?_others (differs : other ≠ name) :
    named? (others sources name) other = named? sources other := by
  rw [named?, others, List.find?_filter]
  congr
  funext held
  by_cases same : held.name = other
  · simp [same, differs]
  · simp [same]

/-- Replacing a source by one of its name leaves the names. -/
theorem names_replace (same : source.name = name) :
    names (replace name source sources) = names sources := by
  induction sources with
  | nil => rfl
  | cons held rest ih =>
    unfold replace
    split
    · rename_i here
      simp [names, same, here]
    · exact congrArg (held.name :: ·) ih

/-- Replacing a source puts the new one in its place, if there is one. -/
theorem named?_replace (same : source.name = name) :
    named? (replace name source sources) name = (named? sources name).map fun _ => source := by
  induction sources with
  | nil => rfl
  | cons held rest ih =>
    unfold replace
    split
    · rename_i here
      simp [named?, same, here]
    · rename_i differs
      simpa [named?, differs] using ih

/-- Replacing a source leaves the others. -/
theorem others_replace (same : source.name = name) :
    others (replace name source sources) name = others sources name := by
  induction sources with
  | nil => rfl
  | cons held rest ih =>
    unfold replace
    split
    · rename_i here
      rw [others_cons, others_cons, if_pos same, if_pos here]
    · rw [others_cons, others_cons, ih]

/-- Nothing is removed where there is nothing of the name. -/
theorem remove_eq_self (absent : named? sources name = none) : remove sources name = sources :=
  remove_of_hasSource_eq_false (by rw [hasSource, absent]; rfl)

end PropertySources

open PropertySources

/-- What working a layer into a stack does. The source of the layer's name answers with the texts of
the layer before those that it gave until then, the first names and the last names are those of new
sources, and the sources of other names stay. -/
structure WorkedIn (name : String) (layer : String → Option String) (first last : List String)
    (before after : PropertySources) : Prop where
  text : ∀ key, textIn after name key = (layer key).or (textIn before name key)
  names : names after = first ++ PropertySources.names before ++ last
  others : others after name = PropertySources.others before name

namespace WorkedIn

variable {name : String} {sources : PropertySources} {layer : String → Option String}

/-- A layer that gives nothing changes nothing. -/
theorem nothing (silent : ∀ key, layer key = none) : WorkedIn name layer [] [] sources sources where
  text key := by rw [silent, Option.none_or]
  names := by simp
  others := rfl

/-- A source that exists is replaced where it stands. -/
theorem replacing {existing completed : PropertySource}
    (found : named? sources name = some existing) (same : completed.name = name)
    (text : ∀ key, completed.get? key = (layer key).or (existing.get? key)) :
    WorkedIn name layer [] [] sources (replace name completed sources) where
  text key := by
    rw [textIn, named?_replace same, textIn, found]
    exact text key
  names := by simp [names_replace same]
  others := others_replace same

/-- A new source is put in front of the others. -/
theorem inFront {source : PropertySource} (absent : named? sources name = none)
    (same : source.name = name) (text : ∀ key, source.get? key = layer key) :
    WorkedIn name layer [name] [] sources (addFirst sources source) where
  text key := by
    subst same
    rw [textIn, named?_addFirst, textIn, absent]
    simp [text]
  names := by
    rw [addFirst, same, remove_eq_self absent]
    simp [PropertySources.names, same]
  others := by
    rw [addFirst, same, remove_eq_self absent, others_cons, if_pos same]

/-- A new source is put behind the others. -/
theorem behind {source : PropertySource} (absent : named? sources name = none)
    (same : source.name = name) (text : ∀ key, source.get? key = layer key) :
    WorkedIn name layer [] [name] sources (addLast sources source) where
  text key := by
    have found : named? (sources ++ [source]) name = some source := by
      rw [named?] at absent
      simp [named?, List.find?_append, absent, same]
    rw [addLast, same, remove_eq_self absent, textIn, found, textIn, absent]
    simp [text]
  names := by
    rw [addLast, same, remove_eq_self absent]
    simp [PropertySources.names, same]
  others := by
    rw [addLast, same, remove_eq_self absent]
    simp [PropertySources.others, List.filter_append, same]

/-- A layer leaves the sources of other names where they are found. -/
theorem named?_other {other : String} {first last : List String} {after : PropertySources}
    (worked : WorkedIn name layer first last sources after) (differs : other ≠ name) :
    named? after other = named? sources other := by
  rw [← named?_others differs, worked.others, named?_others differs]

end WorkedIn

namespace Application

/-- A name is new in a stack if it is to be given and no source has it. -/
def newName (given : Bool) (name : String) (sources : PropertySources) : List String :=
  if given && !hasSource sources name then [name] else []

/-- A name that is taken is not a new one. -/
theorem newName_of_named? {given : Bool} {name : String} {sources : PropertySources}
    {existing : PropertySource} (found : named? sources name = some existing) :
    newName given name sources = [] := by
  simp [newName, hasSource, found]

/-- A name that is free is a new one, if there is anything to give. -/
theorem newName_of_absent {name : String} {sources : PropertySources}
    (absent : named? sources name = none) : newName true name sources = [name] := by
  simp [newName, hasSource, absent]

/-- The defaults of an application win over those in the stack. -/
theorem withDefaultProperties_worked (properties : Properties) {sources : PropertySources}
    (exact : ∀ source, named? sources PropertySource.defaults = some source →
      source.relaxed = false) :
    WorkedIn PropertySource.defaults properties.get? []
      (newName (!properties.isEmpty) PropertySource.defaults sources)
      sources (withDefaultProperties properties sources) := by
  unfold withDefaultProperties
  split
  · rename_i empty
    simpa [newName, empty] using WorkedIn.nothing (Properties.get?_of_isEmpty empty)
  · rename_i given
    cases found : named? sources PropertySource.defaults with
    | none =>
      rw [Bool.not_eq_true] at given
      rw [given, Bool.not_false, newName_of_absent found]
      exact .behind found rfl fun key => PropertySource.get?_of_exact rfl key
    | some existing =>
      have named : existing.name = PropertySource.defaults := by
        simpa using List.find?_some found
      have plain := exact existing found
      rw [newName_of_named? found]
      refine .replacing found named fun key => ?_
      rw [PropertySource.get?_of_exact plain, PropertySource.get?_of_exact (by exact plain),
        Properties.get?_merge]

/-- A source completed by one property of an older one. -/
def completedByKey (existing source : PropertySource) (key : String) : PropertySource :=
  if source.contains key then source
  else match existing.get? key with
    | some text => source.insert key text
    | none => source

/-- What one property of an older source adds to a source without relaxed names. -/
theorem completedByKey_adds (existing : PropertySource) {source : PropertySource}
    (exact : source.relaxed = false) (key : String) :
    (completedByKey existing source key).name = source.name ∧
      (completedByKey existing source key).relaxed = false ∧
      ∀ other, (completedByKey existing source key).get? other =
        (source.get? other).or (if other = key then existing.get? key else none) := by
  unfold completedByKey
  split
  · rename_i answers
    refine ⟨rfl, exact, fun other => ?_⟩
    by_cases same : other = key
    · obtain ⟨text, found⟩ := Option.isSome_iff_exists.1 answers
      rw [same, found, Option.some_or]
    · rw [if_neg same, Option.or_none]
  · rename_i silent
    have unanswered : source.get? key = none := by
      simpa [PropertySource.contains] using silent
    cases found : existing.get? key with
    | none => exact ⟨rfl, exact, fun other => by simp⟩
    | some text =>
      refine ⟨rfl, exact, fun other => ?_⟩
      have inserted : (source.insert key text).relaxed = false := exact
      rw [PropertySource.get?_of_exact inserted, PropertySource.get?_of_exact exact]
      rw [PropertySource.get?_of_exact exact] at unanswered
      by_cases same : other = key
      · simp [PropertySource.insert, same, unanswered]
      · simp [PropertySource.insert, same]

/-- What several properties of an older source add to a source without relaxed names. -/
theorem completedByKeys_add (existing : PropertySource) (keys : List String)
    {source : PropertySource} (exact : source.relaxed = false) :
    (keys.foldl (completedByKey existing) source).name = source.name ∧
      ∀ other, (keys.foldl (completedByKey existing) source).get? other =
        (source.get? other).or (if other ∈ keys then existing.get? other else none) := by
  induction keys generalizing source with
  | nil => exact ⟨rfl, fun key => by simp⟩
  | cons key rest ih =>
    obtain ⟨sameName, exactly, answers⟩ := completedByKey_adds existing exact key
    obtain ⟨named, texts⟩ := ih exactly
    refine ⟨named.trans sameName, fun other => ?_⟩
    rw [List.foldl_cons, texts, answers, Option.or_assoc]
    by_cases same : other = key
    · subst same
      by_cases later : other ∈ rest <;> simp [later]
    · simp [same]

/-- The completed source answers with its own texts before those that the older one holds. -/
theorem completedBy_get?_eq_or {incoming : PropertySource} (exact : incoming.relaxed = false)
    (existing : PropertySource) (key : String) :
    (completedBy incoming existing).get? key =
      (incoming.get? key).or (existing.properties.get? key) := by
  have texts : (completedBy incoming existing).get? key = _ :=
    (completedByKeys_add existing existing.keys exact).2 key
  rw [texts]
  by_cases held : key ∈ existing.keys
  · obtain ⟨text, found⟩ := PropertySource.exists_of_mem_keys held
    have own : existing.get? key = existing.properties.get? key := by
      rw [PropertySource.get?, found]
    rw [if_pos held, own]
  · rw [if_neg held, PropertySource.get?_properties_eq_none held]

/-- A source that is completed by another has its own values, and those of the other where it has
none. -/
theorem completedBy_get? {incoming existing : PropertySource} (exact : incoming.relaxed = false)
    (plain : existing.relaxed = false) (key : String) :
    (completedBy incoming existing).get? key = (incoming.get? key).or (existing.get? key) := by
  rw [completedBy_get?_eq_or exact, PropertySource.get?_of_exact plain]

/-- The source of a command line gives the properties that its arguments give. -/
theorem get?_toSource {given : List String} {arguments : Arguments}
    (parsed : Arguments.parse given = .ok arguments) (key : String) :
    arguments.toSource.get? key = Arguments.property? given key := by
  rw [PropertySource.get?_of_exact rfl]
  exact Arguments.get?_toProperties parsed key

/-- The command line wins over the one in the stack. -/
theorem withCommandLine_worked {given : List String} {arguments : Arguments}
    (parsed : Arguments.parse given = .ok arguments) {sources : PropertySources}
    (exact : ∀ source, named? sources PropertySource.commandLine = some source →
      source.relaxed = false) :
    WorkedIn PropertySource.commandLine (Arguments.property? given)
      (newName (!given.isEmpty) PropertySource.commandLine sources) []
      sources (withCommandLine arguments sources) := by
  unfold withCommandLine
  rw [Arguments.given_of_parse parsed]
  split
  · rename_i empty
    obtain rfl := List.isEmpty_iff.1 empty
    simpa [newName] using WorkedIn.nothing Arguments.property?_nil
  · rename_i some
    rw [Bool.not_eq_true] at some
    cases found : named? sources PropertySource.commandLine with
    | none =>
      rw [some, Bool.not_false, newName_of_absent found]
      exact .inFront found rfl (get?_toSource parsed)
    | some existing =>
      have named : (completedBy arguments.toSource existing).name = PropertySource.commandLine :=
        (completedByKeys_add existing existing.keys rfl).1
      rw [newName_of_named? found]
      refine .replacing found named fun key => ?_
      rw [completedBy_get? rfl (exact existing found), get?_toSource parsed]

/-- How the layers of a run lie in its sources, compared with the sources that it started from. -/
structure Layered (application : Application) (settings : Settings) (given : List String)
    (before after : PropertySources) : Prop where
  /-- The command line wins over an older one. -/
  commandLine : ∀ key, textIn after PropertySource.commandLine key =
    (if settings.addCommandLineProperties then Arguments.property? given key else none).or
      (textIn before PropertySource.commandLine key)
  /-- The defaults of the application win over older ones. -/
  defaults : ∀ key, textIn after PropertySource.defaults key =
    (application.defaultProperties.get? key).or (textIn before PropertySource.defaults key)
  /-- A source that existed keeps its place, a new command line is first, and new defaults are
  last. -/
  names : names after =
    newName (settings.addCommandLineProperties && !given.isEmpty) PropertySource.commandLine
        before ++
      PropertySources.names before ++
      newName (!application.defaultProperties.isEmpty) PropertySource.defaults before
  /-- All other sources stay, in their order. -/
  others : others (others after PropertySource.commandLine) PropertySource.defaults =
    PropertySources.others (PropertySources.others before PropertySource.commandLine)
      PropertySource.defaults
  /-- Without arguments, or if they are not asked for, only the defaults are worked in. -/
  unasked : given = [] ∨ settings.addCommandLineProperties = false →
    PropertySources.others after PropertySource.defaults =
      PropertySources.others before PropertySource.defaults

/-- Of the two sources that a run fills itself, none answers to relaxed names. -/
def ExactLayers (sources : PropertySources) : Prop :=
  ∀ source ∈ sources, source.name = PropertySource.commandLine ∨
    source.name = PropertySource.defaults → source.relaxed = false

/-- In exact layers, the sources of the command line and of the defaults are exact. -/
theorem ExactLayers.of_named? {sources : PropertySources} {source : PropertySource} {name : String}
    (exact : ExactLayers sources)
    (own : name = PropertySource.commandLine ∨ name = PropertySource.defaults)
    (found : named? sources name = some source) : source.relaxed = false := by
  have named : source.name = name := by simpa using List.find?_some found
  exact exact source (List.mem_of_find?_eq_some found) (named ▸ own)

/-- Profiles are no concern of the sources. -/
@[simp] theorem sources_withProfiles (additional : List String) (environment : Environment) :
    (withProfiles additional environment).sources = environment.sources := by
  unfold withProfiles
  split <;> rfl

/-- The command line and the defaults are worked into the environment of a run, and nothing else. -/
theorem configureEnvironment_layered (application : Application) (settings : Settings)
    {given : List String} {arguments : Arguments} (parsed : Arguments.parse given = .ok arguments)
    {environment : Environment} (exact : ExactLayers environment.sources) :
    Layered application settings given environment.sources
      (application.configureEnvironment settings arguments environment).sources := by
  have defaulted := withDefaultProperties_worked application.defaultProperties
    fun _ => exact.of_named? (.inr rfl)
  rw [configureEnvironment, sources_withProfiles]
  -- The defaults come first, and the source of the command line is the same before and after them.
  generalize withDefaultProperties application.defaultProperties environment.sources = between
    at defaulted
  have held : named? between PropertySource.commandLine =
      named? environment.sources PropertySource.commandLine := defaulted.named?_other (by decide)
  have sameText : ∀ key, textIn between PropertySource.commandLine key =
      textIn environment.sources PropertySource.commandLine key :=
    fun key => by rw [textIn, held]; rfl
  have sameNew : ∀ asked, newName asked PropertySource.commandLine between =
      newName asked PropertySource.commandLine environment.sources := fun asked => by
    rw [newName, newName, hasSource, held, hasSource]
  dsimp only
  split
  · rename_i asked
    have lineless : ∀ source, named? between PropertySource.commandLine = some source →
        source.relaxed = false := fun _ found => exact.of_named? (.inl rfl) (held ▸ found)
    have lined := withCommandLine_worked parsed lineless
    refine ⟨fun key => ?_, fun key => ?_, ?_, ?_, ?_⟩
    · rw [lined.text, sameText, if_pos asked]
    · rw [textIn, lined.named?_other (by decide)]
      exact defaulted.text key
    · rw [lined.names, defaulted.names, sameNew, asked, Bool.true_and]
      simp
    · rw [lined.others, others_comm, defaulted.others, others_comm]
    · rintro (rfl | off)
      · rw [withCommandLine, Arguments.given_of_parse parsed]
        exact defaulted.others
      · rw [asked] at off
        cases off
  · rename_i off
    refine ⟨fun key => ?_, defaulted.text, ?_, ?_, fun _ => defaulted.others⟩
    · rw [if_neg off, Option.none_or, sameText]
    · rw [defaulted.names, Bool.not_eq_true] at *
      simp [newName, off]
    · rw [others_comm, defaulted.others, others_comm]

end Application

end Launchpad
