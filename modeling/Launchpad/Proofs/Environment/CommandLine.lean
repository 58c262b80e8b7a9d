import Launchpad.Arguments
import Mathlib.Data.List.ReduceOption

/-!
# The properties of a command line

What a command line gives as properties can be read off its arguments: under the name of an option
the values of all its occurrences, and under a name of its own the plain arguments. The parsed
options are kept in ascending order of their names, so none of them hides another.
-/

namespace Launchpad

theorem lookup_cons_ite {β : Type} (key : String) (entry : String × β)
    (rest : List (String × β)) :
    (entry :: rest).lookup key = if key = entry.1 then some entry.2 else rest.lookup key := by
  rw [List.lookup_cons]
  by_cases same : key = entry.1
  · rw [if_pos same, beq_iff_eq.2 same]
  · rw [if_neg same, beq_eq_false_iff_ne.2 same]

namespace Properties

/-- Of several maps with distinct names inserted one after the other, each entry counts. -/
theorem get?_insertAll {pairs : List (String × String)} (distinct : (pairs.map Prod.fst).Nodup)
    (properties : Properties) (key : String) :
    (pairs.foldl (fun merged pair => merged.insert pair.1 pair.2) properties).get? key =
      (pairs.lookup key).or (properties.get? key) := by
  induction pairs generalizing properties with
  | nil => rfl
  | cons pair rest ih =>
    obtain ⟨first, distinct⟩ := List.nodup_cons.1 distinct
    rw [List.foldl_cons, ih distinct, get?_insert, lookup_cons_ite]
    by_cases same : key = pair.1
    · have absent : rest.lookup key = none := by
        rw [List.lookup_eq_none_iff]
        rintro other among
        have differs : pair.1 ≠ other.1 := fun named => first (named ▸ List.mem_map_of_mem among)
        simpa [same] using differs
      rw [absent, if_pos same, if_pos same, Option.none_or, Option.some_or]
    · rw [if_neg same, if_neg same]

/-- No key stands twice in properties. -/
theorem nodup_keys (properties : Properties) : (properties.entries.map Prod.fst).Nodup :=
  properties.ascending.imp fun before => Std.ne_of_lt before

/-- Merging prefers the entries of the second map. -/
@[simp] theorem get?_merge (properties extra : Properties) (key : String) :
    (properties.merge extra).get? key = (extra.get? key).or (properties.get? key) :=
  get?_insertAll extra.nodup_keys properties key

/-- There is nothing in properties that are empty. -/
theorem get?_of_isEmpty {properties : Properties} (empty : properties.isEmpty = true)
    (name : String) : properties.get? name = none := by
  rw [isEmpty, List.isEmpty_iff] at empty
  rw [get?, empty, List.lookup_nil]

/-- Properties made of pairs with different keys have the values of the pairs. -/
theorem get?_ofList {pairs : List (String × String)} (distinct : (pairs.map Prod.fst).Nodup)
    (key : String) : (ofList pairs).get? key = pairs.lookup key := by
  rw [ofList, get?_insertAll distinct, get?_empty, Option.or_none]

end Properties

namespace Argument

/-- The text of a plain argument. -/
def plain? (text : String) : Option String :=
  match read text with
  | .plain text => some text
  | _ => none

/-- The value in an occurrence of an option: an occurrence may be without one. -/
def value? (name text : String) : Option (Option String) :=
  match read text with
  | .option found value => if found = name then some value else none
  | _ => none

end Argument

namespace Arguments

/-- The plain ones among given arguments. -/
def plainIn (given : List String) : List String := given.filterMap Argument.plain?

/-- The values in the occurrences of an option among given arguments. -/
def occurrencesIn (given : List String) (name : String) : List (Option String) :=
  given.filterMap (Argument.value? name)

/-- The property that a command line gives under a key: the plain arguments under their own name if
there are any, else the values of the option of that name, joined by commas. -/
def property? (given : List String) (key : String) : Option String :=
  if key = plainProperty ∧ plainIn given ≠ [] then some (Text.joined "," (plainIn given))
  else if occurrencesIn given key = [] then none
  else some (Text.joined "," (occurrencesIn given key).reduceOption)

@[simp] theorem property?_nil (key : String) : property? [] key = none := by
  simp [property?, plainIn, occurrencesIn]

/-- Options are put among others as entries are put among properties. -/
theorem names_addOption (name : String) (value : Option String)
    (options : List (String × List String)) :
    (addOption name value options).map Prod.fst =
      (Properties.insertEntry name "" (options.map fun option => (option.1, ""))).map Prod.fst := by
  induction options with
  | nil => rfl
  | cons option rest ih =>
    unfold addOption
    rw [List.map_cons, Properties.insertEntry]
    split
    · simp_all
    · split
      · simp
      · rw [List.map_cons, ih, List.map_cons]

/-- Adding an option keeps the options sorted by their names. -/
theorem ascending_addOption (name : String) (value : Option String)
    {options : List (String × List String)}
    (ascending : (options.map Prod.fst).Pairwise (· < ·)) :
    ((addOption name value options).map Prod.fst).Pairwise (· < ·) := by
  rw [names_addOption]
  exact Properties.ascending_insertEntry name "" (by simpa [Function.comp_def] using ascending)

/-- An occurrence of an option adds its value to the earlier ones. -/
theorem lookup_addOption (name : String) (value : Option String)
    {options : List (String × List String)}
    (ascending : (options.map Prod.fst).Pairwise (· < ·)) (other : String) :
    (addOption name value options).lookup other =
      if other = name then some ((options.lookup name).getD [] ++ value.toList)
      else options.lookup other := by
  induction options with
  | nil => simp [addOption, lookup_cons_ite]
  | cons option rest ih =>
    obtain ⟨first, sorted⟩ := List.pairwise_cons.1 ascending
    unfold addOption
    split
    · rename_i here
      subst here
      by_cases same : other = option.1 <;> simp [lookup_cons_ite, same]
    · rename_i differs
      split
      · rename_i before
        have absent : rest.lookup name = none := by
          rw [List.lookup_eq_none_iff]
          intro later among
          have after := String.lt_trans before (first later.1 (List.mem_map_of_mem among))
          simpa using Std.ne_of_lt after
        simp [lookup_cons_ite, differs, absent]
      · rw [lookup_cons_ite, ih sorted, lookup_cons_ite, lookup_cons_ite, if_neg differs]
        by_cases same : other = name
        · simp [same, differs]
        · simp [same]

/-- What arguments hold of the texts that were read so far. -/
structure Reads (given : List String) (arguments : Arguments) : Prop where
  plain : arguments.plain = plainIn given
  values : ∀ name, arguments.values? name =
    if occurrencesIn given name = [] then none else some (occurrencesIn given name).reduceOption
  ascending : (arguments.options.map Prod.fst).Pairwise (· < ·)

namespace Reads

variable {given : List String} {arguments after : Arguments} {text : String}

/-- Adding one more argument reads the list that ends with it. -/
theorem step (reads : Reads given arguments) (added : addArgument arguments text = .ok after) :
    Reads (given ++ [text]) after := by
  have plainIn_snoc :
      plainIn (given ++ [text]) = plainIn given ++ (Argument.plain? text).toList := by
    cases found : Argument.plain? text <;> simp [plainIn, found]
  have occurrencesIn_snoc : ∀ name, occurrencesIn (given ++ [text]) name =
      occurrencesIn given name ++ (Argument.value? name text).toList := by
    intro name
    cases found : Argument.value? name text <;> simp [occurrencesIn, found]
  unfold addArgument at added
  cases here : Argument.read text with
  | nameless => simp [here] at added
  | plain shown =>
    simp only [here, Except.ok.injEq] at added
    subst added
    refine ⟨?_, fun name => ?_, reads.ascending⟩
    · simp [plainIn_snoc, reads.plain, Argument.plain?, here]
    · rw [occurrencesIn_snoc, Argument.value?, here]
      simpa [values?] using reads.values name
  | option found value =>
    simp only [here, Except.ok.injEq] at added
    subst added
    refine ⟨?_, fun name => ?_, ascending_addOption found value reads.ascending⟩
    · simp [plainIn_snoc, reads.plain, Argument.plain?, here]
    · have before := reads.values name
      rw [values?] at before
      rw [values?, lookup_addOption found value reads.ascending, occurrencesIn_snoc,
        Argument.value?, here]
      by_cases same : name = found
      · subst same
        simp only [if_true, before, List.append_eq_nil_iff, Option.toList_some,
          List.reduceOption_append, List.reduceOption_singleton]
        by_cases first : occurrencesIn given name = [] <;> simp [first]
      · simp [same, Ne.symm same, before]

/-- Whatever was read before, reading goes through all texts. -/
theorem run {rest : List String} (reads : Reads given arguments)
    (read : rest.foldlM addArgument arguments = .ok after) : Reads (given ++ rest) after := by
  induction rest generalizing given arguments with
  | nil =>
    cases read
    simpa using reads
  | cons text rest ih =>
    rw [List.foldlM_cons] at read
    cases added : addArgument arguments text with
    | error fault => simp [added, bind, Except.bind] at read
    | ok between =>
      rw [added] at read
      simpa using ih (reads.step added) read

end Reads

variable {given : List String} {arguments : Arguments}

/-- Arguments that are parsed are what their list reads as. -/
theorem reads_of_parse (parsed : parse given = .ok arguments) : Reads given arguments := by
  have unread : Reads [] ⟨given, [], []⟩ := ⟨rfl, fun _ => rfl, .nil⟩
  exact unread.run parsed

/-- Adding an argument does not change the list that was given. -/
theorem given_of_addArgument {after : Arguments} {text : String}
    (added : addArgument arguments text = .ok after) : after.given = arguments.given := by
  unfold addArgument at added
  split at added <;> cases added <;> rfl

/-- Parsing keeps the arguments. -/
theorem given_of_parse (parsed : parse given = .ok arguments) : arguments.given = given := by
  have keeps : ∀ (rest : List String) (start : Arguments),
      rest.foldlM addArgument start = .ok arguments → arguments.given = start.given := by
    intro rest
    induction rest with
    | nil =>
      rintro start read
      cases read
      rfl
    | cons text rest ih =>
      intro start read
      rw [List.foldlM_cons] at read
      cases added : addArgument start text with
      | error fault => simp [added, bind, Except.bind] at read
      | ok between =>
        rw [added] at read
        rw [ih between read, given_of_addArgument added]
  exact keeps given _ parsed

/-- The properties of parsed arguments are those that the given ones show. -/
theorem get?_toProperties (parsed : parse given = .ok arguments) (key : String) :
    arguments.toProperties.get? key = property? given key := by
  have reads := reads_of_parse parsed
  have names : (arguments.options.map fun option =>
      (option.1, Text.joined "," option.2)).map Prod.fst = arguments.options.map Prod.fst := by
    simp
  have distinct : ((arguments.options.map fun option =>
      (option.1, Text.joined "," option.2)).map Prod.fst).Nodup := by
    rw [names]
    exact reads.ascending.imp fun before => Std.ne_of_lt before
  have joins : ∀ options : List (String × List String),
      (options.map fun option => (option.1, Text.joined "," option.2)).lookup key =
        (options.lookup key).map (Text.joined ",") := by
    intro options
    induction options with
    | nil => rfl
    | cons option rest ih =>
      rw [List.map_cons, List.lookup_cons, List.lookup_cons, ih]
      split <;> rfl
  have option : (Properties.ofList <| arguments.options.map fun option =>
      (option.1, Text.joined "," option.2)).get? key =
      if occurrencesIn given key = [] then none
      else some (Text.joined "," (occurrencesIn given key).reduceOption) := by
    have values := reads.values key
    rw [values?] at values
    rw [Properties.get?_ofList distinct, joins, values]
    split <;> rfl
  unfold toProperties property?
  rw [← reads.plain]
  by_cases bare : arguments.plain = []
  · simp [bare, option]
  · by_cases own : key = plainProperty
    · simp [bare, own]
    · simp [bare, own, option]

end Arguments

end Launchpad
