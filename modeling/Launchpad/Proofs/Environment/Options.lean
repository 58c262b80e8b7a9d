import Launchpad.Proofs.Environment.Written
import Mathlib.Data.List.Sort

/-!
# What parsed arguments hold

The texts that are given determine what is parsed: `Reflects` says in terms of the texts alone which
options and plain arguments there are, and `parse_eq_ok_iff` that parsing yields exactly that. As
properties, the values of an option can be read back, unless the option bears the name under which
the plain arguments stand: then the plain arguments take its place.
-/

namespace Launchpad

/-- The names of entries are those that are found. -/
theorem mem_names_iff_lookup {β : Type} {entries : List (String × β)} {name : String} :
    name ∈ entries.map Prod.fst ↔ entries.lookup name ≠ none := by
  rw [Ne, List.lookup_eq_none_iff, not_forall, List.mem_map]
  constructor
  · rintro ⟨entry, among, rfl⟩
    exact ⟨entry, fun differs => by simpa using differs among⟩
  · rintro ⟨entry, differs⟩
    rw [Classical.not_imp] at differs
    have same : name = entry.1 := by simpa using differs.2
    exact ⟨entry, differs.1, same.symm⟩

open Argument (isMalformed)

namespace Arguments

variable {given : List String} {arguments other : Arguments} {name : String}

/-- What parsed arguments are, in terms of the given texts. -/
structure Reflects (texts : List String) (arguments : Arguments) : Prop where
  given : arguments.given = texts
  /-- The plain arguments are those without two dashes in front, in order. -/
  plain : arguments.plain = undashed texts
  names : ∀ name, name ∈ arguments.optionNames ↔ ∃ text ∈ texts, Argument.Names name text
  ascending : arguments.optionNames.Pairwise (· < ·)
  values : ∀ name ∈ arguments.optionNames, arguments.values? name = some (valuesIn name texts)
  absent : ∀ name, name ∉ arguments.optionNames → arguments.values? name = none

/-- The occurrences of an option are the texts that are written as such. -/
theorem exists_names_iff (fine : given.find? isMalformed = none) :
    occurrencesIn given name ≠ [] ↔ ∃ text ∈ given, Argument.Names name text := by
  have occurs : ∀ text ∈ given,
      (∃ value, Argument.value? name text = some value) ↔ Argument.Names name text := by
    intro text among
    have named (shown : Argument.Names name text) : name ≠ "" :=
      shown.named (List.find?_eq_none.1 fine text among)
    have reads : (∃ value, Argument.value? name text = some value) ↔
        ∃ value, Argument.read text = .option name value := by
      unfold Argument.value?
      split
      · rename_i found held here
        rw [here]
        by_cases same : found = name <;> simp [same]
      · rename_i other
        exact iff_of_false (by simp) fun ⟨value, here⟩ => other name value here
    rw [reads]
    simp only [Argument.read_eq_option]
    exact ⟨fun ⟨value, _, unmarked, shown⟩ => ⟨unmarked, value, shown⟩,
      fun shown => ⟨shown.2.choose, named shown, shown.1, shown.2.choose_spec⟩⟩
  rw [occurrencesIn, Ne, List.eq_nil_iff_forall_not_mem, not_forall_not]
  simp only [List.mem_filterMap]
  constructor
  · rintro ⟨value, text, among, here⟩
    exact ⟨text, among, (occurs text among).1 ⟨value, here⟩⟩
  · rintro ⟨text, among, shown⟩
    obtain ⟨value, here⟩ := (occurs text among).2 shown
    exact ⟨value, text, among, here⟩

/-- An option has a name if it has values, even none. -/
theorem mem_optionNames : name ∈ arguments.optionNames ↔ arguments.values? name ≠ none :=
  mem_names_iff_lookup

/-- Parsing fails exactly at the first malformed text. -/
theorem find?_of_parse (parsed : parse given = .ok arguments) :
    given.find? isMalformed = none := by
  cases found : given.find? isMalformed with
  | none => rfl
  | some text =>
    rw [parse_eq_error found] at parsed
    cases parsed

/-- Parsing fails exactly if an argument is malformed, with the first that is. -/
theorem parse_eq_error_iff {text : String} :
    parse given = .error text ↔ given.find? isMalformed = some text := by
  refine ⟨fun failed => ?_, parse_eq_error⟩
  cases found : given.find? isMalformed with
  | none =>
    obtain ⟨arguments, parsed⟩ := exists_parse found
    rw [failed] at parsed
    cases parsed
  | some first =>
    rw [parse_eq_error found] at failed
    cases failed
    rfl

/-- Arguments that are parsed reflect their texts. -/
theorem reflects_of_parse (parsed : parse given = .ok arguments) : Reflects given arguments := by
  have reads := reads_of_parse parsed
  have fine := find?_of_parse parsed
  have names (name : String) :
      name ∈ arguments.optionNames ↔ ∃ text ∈ given, Argument.Names name text := by
    rw [mem_optionNames, reads.values, ← exists_names_iff fine]
    simp
  refine ⟨given_of_parse parsed, reads.plain.trans (plainIn_eq given), names, reads.ascending,
    fun name among => ?_, fun name absent => ?_⟩
  · obtain ⟨text, here, shown⟩ := (names name).1 among
    have named := shown.named (List.find?_eq_none.1 fine text here)
    have occurs := (exists_names_iff fine).2 ⟨text, here, shown⟩
    rw [reads.values, if_neg occurs, reduceOption_occurrencesIn named shown.1, valuesIn]
  · by_contra present
    exact absent (mem_optionNames.2 present)

/-- Options with distinct names are determined by the values of each. -/
theorem options_eq {options : List (String × List String)}
    (distinct : (options.map Prod.fst).Nodup) :
    options = (options.map Prod.fst).map fun name => (name, (options.lookup name).getD []) := by
  induction options with
  | nil => rfl
  | cons option rest ih =>
    obtain ⟨first, distinct⟩ := List.nodup_cons.1 distinct
    have others : (rest.map Prod.fst).map (fun name => (name, (rest.lookup name).getD [])) =
        (rest.map Prod.fst).map fun name => (name, ((option :: rest).lookup name).getD []) := by
      refine List.map_congr_left fun name among => ?_
      rw [lookup_cons_ite, if_neg fun same : name = option.1 => first (same ▸ among)]
    rw [List.map_cons, List.map_cons, ← others, ← ih distinct, lookup_cons_ite, if_pos rfl]
    rfl

/-- What the texts say determines the arguments. -/
theorem Reflects.unique (first : Reflects given arguments) (second : Reflects given other) :
    arguments = other := by
  have distinct {held : Arguments} (ascending : held.optionNames.Pairwise (· < ·)) :
      held.optionNames.Nodup := ascending.imp fun before => Std.ne_of_lt before
  have names : arguments.optionNames = other.optionNames := by
    refine List.Perm.eq_of_pairwise (fun a b _ _ before after => ?_) first.ascending
      second.ascending ?_
    · exact absurd (String.lt_trans before after) (String.lt_irrefl a)
    · rw [List.perm_ext_iff_of_nodup (distinct first.ascending) (distinct second.ascending)]
      exact fun name => (first.names name).trans (second.names name).symm
  have options : arguments.options = other.options := by
    rw [options_eq (distinct first.ascending), options_eq (distinct second.ascending)]
    change arguments.optionNames.map _ = other.optionNames.map _
    rw [← names]
    refine List.map_congr_left fun name among => ?_
    have here := first.values name among
    have there := second.values name (names ▸ among)
    rw [values?] at here there
    rw [here, there]
  cases arguments
  cases other
  exact (Arguments.mk.injEq ..).mpr ⟨first.given.trans second.given.symm, options,
    first.plain.trans second.plain.symm⟩

/-- Parsing yields exactly the arguments that the texts say. -/
theorem parse_eq_ok_iff :
    parse given = .ok arguments ↔ given.find? isMalformed = none ∧ Reflects given arguments := by
  refine ⟨fun parsed => ⟨find?_of_parse parsed, reflects_of_parse parsed⟩, ?_⟩
  rintro ⟨fine, reflects⟩
  obtain ⟨parsed, reads⟩ := exists_parse fine
  rw [reads, (reflects_of_parse reads).unique reflects]

/-! ## Options as properties -/

/-- What the options and the plain arguments among given texts are as properties of a source. -/
structure Exposed (given : List String) (source : PropertySource) : Prop where
  /-- The values of an option stand under its name, joined by commas. Only the name of the plain
  arguments is theirs if there are any. -/
  options : ∀ name, (∃ text ∈ given, Argument.Names name text) →
    (name = plainProperty → undashed given = []) →
      source.get? name = some (Text.joined "," (valuesIn name given))
  plain : undashed given ≠ [] →
    source.get? plainProperty = some (Text.joined "," (undashed given))
  /-- There are no other properties. -/
  keys : ∀ key, key ∈ source.keys ↔
    (∃ text ∈ given, Argument.Names key text) ∨
      key = plainProperty ∧ undashed given ≠ []
  /-- Whoever cuts a property at its commas finds every value that was written for the option. -/
  readBack : ∀ name value, '=' ∉ name.toList → Argument.written name (some value) ∈ given →
    (name = plainProperty → undashed given = []) →
      ∃ shown, source.get? name = some shown ∧
        Text.pieces ',' value.toList <:+: Text.pieces ',' shown.toList

/-- The source of the command line has just the properties that the arguments make. -/
theorem get?_toSource (arguments : Arguments) (key : String) :
    arguments.toSource.get? key = arguments.toProperties.get? key := by
  unfold PropertySource.get? toSource
  dsimp only
  cases arguments.toProperties.get? key <;> rfl

/-- A key is in the source of the command line exactly if the arguments give it a value. -/
theorem mem_keys_toSource (parsed : parse given = .ok arguments) (key : String) :
    key ∈ arguments.toSource.keys ↔ property? given key ≠ none := by
  rw [← get?_toProperties parsed]
  exact mem_names_iff_lookup

/-- A value that is written for an option is among its values. -/
theorem mem_valuesIn {value : String} (among : Argument.written name (some value) ∈ given) :
    value ∈ valuesIn name given := by
  refine List.mem_filterMap.2 ⟨_, among, ?_⟩
  rw [Argument.valueBehind?, Option.map_eq_some_iff]
  refine ⟨value.toList, ?_, String.ofList_toList⟩
  rw [List.isPrefixOf?_eq_some_iff_append_eq]
  simp [Argument.written]

/-- The properties of a command line are its options and its plain arguments, and no option is lost
but one that bears the name of the plain arguments. -/
theorem exposed_of_parse (parsed : parse given = .ok arguments) :
    Exposed given arguments.toSource := by
  have fine := find?_of_parse parsed
  have shows (key : String) : arguments.toSource.get? key = property? given key :=
    (get?_toSource arguments key).trans (get?_toProperties parsed key)
  have options (name : String) (named : ∃ text ∈ given, Argument.Names name text)
      (unshared : name = plainProperty → undashed given = []) :
      arguments.toSource.get? name = some (Text.joined "," (valuesIn name given)) := by
    have own : ¬ (name = plainProperty ∧ plainIn given ≠ []) := fun ⟨same, present⟩ =>
      present ((plainIn_eq given).trans (unshared same))
    rw [shows, property?, if_neg own, if_neg ((exists_names_iff fine).2 named)]
    obtain ⟨text, among, names⟩ := named
    have present := names.named (List.find?_eq_none.1 fine text among)
    rw [reduceOption_occurrencesIn present names.1, valuesIn]
  refine ⟨options, fun present => ?_, fun key => ?_,
    fun name value unmarked among unshared => ?_⟩
  · rw [shows, property?, plainIn_eq, if_pos ⟨rfl, present⟩]
  · rw [mem_keys_toSource parsed, property?, ← exists_names_iff fine, plainIn_eq]
    by_cases own : key = plainProperty ∧ undashed given ≠ []
    · simp [own]
    · by_cases occurs : occurrencesIn given key = [] <;> simp [own, occurs]
  · refine ⟨_, options name ⟨_, among, unmarked, _, rfl⟩ unshared, ?_⟩
    obtain ⟨before, after, split⟩ := List.append_of_mem (mem_valuesIn among)
    rw [split, Text.pieces_joined (by simp), List.flatMap_append, List.flatMap_cons]
    exact ⟨_, _, List.append_assoc ..⟩

/-- A repeated option, one of whose values has a comma in it, beside a plain argument. -/
theorem exposed_of_parse_repeated :
    ∃ arguments, parse ["--tag=a", "--debug", "in.txt", "--tag=b,c"] = .ok arguments ∧
      Exposed ["--tag=a", "--debug", "in.txt", "--tag=b,c"] arguments.toSource ∧
      arguments.toProperties.entries =
        [("debug", ""), ("nonOptionArgs", "in.txt"), ("tag", "a,b,c")] :=
  ⟨_, rfl, exposed_of_parse rfl, by decide⟩

/-- An option that bears the name of the plain arguments is given, and its value is not among the
properties. -/
theorem option_hidden_by_plain :
    ∃ arguments, parse ["--nonOptionArgs=x", "a"] = .ok arguments ∧
      arguments.values? "nonOptionArgs" = some ["x"] ∧
      arguments.toSource.get? "nonOptionArgs" = some "a" :=
  ⟨_, rfl, by decide, by decide⟩

end Arguments

end Launchpad
