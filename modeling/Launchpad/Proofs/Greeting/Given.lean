import Launchpad.Greeting.Basic
import Launchpad.Proofs.Environment.Written

/-!
# The arguments of a greeting as they are given

What the greeting application takes from its arguments can be read off the given texts: the first
argument that is malformed, the first values of its two options, and the arguments that are no
options.
-/

namespace Launchpad

namespace Greeting

/-- The first value that is given for an option, or a default. -/
def valueIn (option default : String) (given : List String) : String :=
  (given.findSome? (Argument.valueBehind? option)).getD default

/-- The name that is given. -/
def nameIn (given : List String) : String := valueIn "name" "world" given

/-- The salutation that is given. -/
def salutationIn (given : List String) : String := valueIn "salutation" "Hello" given

/-- The lines of a greeting. -/
def greetingIn (given : List String) : List String :=
  (salutationIn given ++ ", " ++ nameIn given ++ "!") ::
    if Arguments.undashed given = [] then []
    else ["args: " ++ " ".intercalate (Arguments.undashed given)]

variable {given : List String} {arguments : Arguments}

/-- The first value of an option, as it is given. -/
theorem firstValue_eq (parsed : Arguments.parse given = .ok arguments) {option : String}
    (named : option ≠ "") (unmarked : '=' ∉ option.toList) (default : String) :
    firstValue arguments option default = valueIn option default given := by
  have first : (arguments.values? option).bind List.head? =
      given.findSome? (Argument.valueBehind? option) := by
    rw [(Arguments.reads_of_parse parsed).values option, ← List.head?_filterMap,
      ← Arguments.reduceOption_occurrencesIn named unmarked]
    split
    · rename_i none
      rw [none]
      rfl
    · rfl
  rw [firstValue, first, valueIn]

/-- What the greeting runner makes of the arguments. -/
theorem line_eq (parsed : Arguments.parse given = .ok arguments) :
    line arguments =
      if Text.trim (nameIn given) = "" then .error ⟨emptyName, []⟩
      else .ok (salutationIn given ++ ", " ++ nameIn given ++ "!") := by
  have name : firstValue arguments "name" "world" = nameIn given :=
    firstValue_eq parsed (by decide) (by decide) _
  have salutation : firstValue arguments "salutation" "Hello" = salutationIn given :=
    firstValue_eq parsed (by decide) (by decide) _
  rw [line, name, salutation]

/-- The lines that a run adds to the transcript. -/
theorem lines_eq (given : List String) :
    (salutationIn given ++ ", " ++ nameIn given ++ "!") :: (echo given).toList =
      greetingIn given := by
  have plain : given.filter (fun argument => !looksLikeOption argument) =
      Arguments.undashed given := rfl
  rw [greetingIn, echo, plain]
  cases Arguments.undashed given with
  | nil => rfl
  | cons argument rest => rfl

end Greeting

end Launchpad
