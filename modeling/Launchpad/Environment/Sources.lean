import Launchpad.Environment.Source

/-!
# Stacks of property sources

Sources in order of precedence, the first with the highest. Adding a source drops the first one of
the same name; replacing keeps the place. A lookup takes the first source that answers.
-/

namespace Launchpad

/-- Property sources in order of precedence. -/
abbrev PropertySources := List PropertySource

namespace PropertySources

/-- The stack without the first source of a name. -/
def remove (sources : PropertySources) (name : String) : PropertySources :=
  sources.eraseP (·.name = name)

/-- Puts a source in front of all others, in place of one with its name. -/
def addFirst (sources : PropertySources) (source : PropertySource) : PropertySources :=
  source :: remove sources source.name

/-- Puts a source behind all others, in place of one with its name. -/
def addLast (sources : PropertySources) (source : PropertySource) : PropertySources :=
  remove sources source.name ++ [source]

/-- The first source of a name. -/
def named? (sources : PropertySources) (name : String) : Option PropertySource :=
  sources.find? (·.name = name)

/-- Whether there is a source of a name. -/
def hasSource (sources : PropertySources) (name : String) : Bool := (named? sources name).isSome

/-- Puts another source in the place of the first source of a name; without such a source the stack
stays as it is. -/
def replace (name : String) (source : PropertySource) : PropertySources → PropertySources
  | [] => []
  | held :: rest => if held.name = name then source :: rest else held :: replace name source rest

/-- The names of the sources, in order. -/
def names (sources : PropertySources) : List String := sources.map (·.name)

/-- The text of a property in the first source that answers. -/
def lookup? (sources : PropertySources) (key : String) : Option String :=
  sources.findSome? (·.get? key)

/-- The stack with the first source of a name moved behind all others. -/
def moveLast (sources : PropertySources) (name : String) : PropertySources :=
  match named? sources name with
  | some source => addLast (remove sources name) source
  | none => sources

@[simp] theorem lookup?_nil (key : String) : lookup? [] key = none := rfl

@[simp] theorem lookup?_cons (source : PropertySource) (sources : PropertySources) (key : String) :
    lookup? (source :: sources) key = (source.get? key).or (lookup? sources key) := by
  simp only [lookup?, List.findSome?_cons]
  cases source.get? key <;> rfl

/-- The source added first is found under its name. -/
@[simp] theorem named?_addFirst (sources : PropertySources) (source : PropertySource) :
    named? (addFirst sources source) source.name = some source := by
  simp [named?, addFirst]

theorem hasSource_iff_mem_names {sources : PropertySources} {name : String} :
    hasSource sources name = true ↔ name ∈ names sources := by
  simp [hasSource, named?, names]

/-- Removing a name that no source has changes nothing. -/
theorem remove_of_hasSource_eq_false {sources : PropertySources} {name : String}
    (absent : hasSource sources name = false) : remove sources name = sources := by
  apply List.eraseP_of_forall_not
  intro source member named
  have present : hasSource sources name = true :=
    hasSource_iff_mem_names.2 (List.mem_map.2 ⟨source, member, by simpa using named⟩)
  simp [absent] at present

@[simp] theorem length_replace (name : String) (source : PropertySource)
    (sources : PropertySources) : (replace name source sources).length = sources.length := by
  induction sources with
  | nil => rfl
  | cons held rest ih =>
    by_cases same : held.name = name <;> simp [replace, same, ih]

end PropertySources

end Launchpad
