import Launchpad.Proofs.Environment.CommandLine

/-!
# How arguments are written

What parsing makes of an argument can be read off its text. An option is two dashes and a name, with
or without a mark and a value behind it; the name ends at the first mark. Two dashes without a name
are malformed, and every text without two dashes in front is plain.
-/

namespace Launchpad

namespace Argument

/-- Whether an argument is `--` or begins with `--=`. -/
def isMalformed (argument : String) : Bool :=
  argument.toList = ['-', '-'] || ['-', '-', '='].isPrefixOf argument.toList

/-- Whether an argument begins with two dashes. -/
def isDashed (argument : String) : Bool := ['-', '-'].isPrefixOf argument.toList

/-- The value of an argument that is written `--option=value`. -/
def valueBehind? (option argument : String) : Option String :=
  (List.isPrefixOf? ('-' :: '-' :: option.toList ++ ['=']) argument.toList).map String.ofList

/-- An option as it is written, bare or with a value. -/
def written (name : String) : Option String → String
  | none => "--" ++ name
  | some value => "--" ++ name ++ "=" ++ value

/-- A text is an occurrence of an option: the name is what stands between the two dashes and the
first mark, or the end. -/
def Names (name text : String) : Prop := '=' ∉ name.toList ∧ ∃ value, text = written name value

/-! ## Reading what is written -/

/-- What is not a mark belongs to the name. -/
theorem split_cons_of_ne {letter : Char} (unmarked : letter ≠ '=') (rest : List Char) :
    split (letter :: rest) = (letter :: (split rest).1, (split rest).2) := by
  simp [split, unmarked]

/-- The first mark stands between the name and the value. -/
theorem split_eq_iff {option name value : List Char} :
    split option = (name, some value) ↔ '=' ∉ name ∧ name ++ '=' :: value = option := by
  induction option generalizing name with
  | nil => simp [split]
  | cons letter rest ih =>
    by_cases mark : letter = '='
    · subst mark
      have splits : split ('=' :: rest) = ([], some rest) := rfl
      rw [splits]
      cases name with
      | nil => simp [eq_comm]
      | cons first name =>
        have apart : '=' ∉ first :: name → first :: name ++ '=' :: value ≠ '=' :: rest :=
          fun unmarked whole => unmarked ((List.cons.inj whole).1 ▸ List.mem_cons_self ..)
        simpa using apart
    · rw [split_cons_of_ne mark]
      cases name with
      | nil => simp [Ne.symm mark]
      | cons first name =>
        have head : (letter :: (split rest).1, (split rest).2) = (first :: name, some value) ↔
            letter = first ∧ split rest = (name, some value) := by
          simp [Prod.ext_iff, and_assoc]
        rw [head, ih]
        constructor
        · rintro ⟨rfl, unmarked, rfl⟩
          exact ⟨by simp [Ne.symm mark, unmarked], rfl⟩
        · rintro ⟨unmarked, whole⟩
          obtain ⟨rfl, joined⟩ := List.cons.inj whole
          exact ⟨rfl, fun among => unmarked (List.mem_cons_of_mem _ among), joined⟩

/-- Without a mark there is no value. -/
theorem split_eq_bare_iff {option name : List Char} :
    split option = (name, none) ↔ '=' ∉ name ∧ name = option := by
  induction option generalizing name with
  | nil => simpa [split, eq_comm] using fun empty : name = [] => by simp [empty]
  | cons letter rest ih =>
    by_cases mark : letter = '='
    · subst mark
      have splits : split ('=' :: rest) = ([], some rest) := rfl
      rw [splits]
      exact iff_of_false (by simp) fun both => both.1 (both.2 ▸ List.mem_cons_self)
    · rw [split_cons_of_ne mark, Prod.ext_iff]
      cases name with
      | nil => simp
      | cons first name =>
        have tail : (split rest).1 = name ∧ (split rest).2 = none ↔ '=' ∉ name ∧ name = rest := by
          rw [← ih, Prod.ext_iff]
        simp only [List.cons.injEq, and_assoc, tail, List.mem_cons, not_or]
        constructor
        · rintro ⟨rfl, unmarked, rfl⟩
          exact ⟨Ne.symm mark, unmarked, rfl, rfl⟩
        · rintro ⟨-, unmarked, rfl, rfl⟩
          exact ⟨rfl, unmarked, rfl⟩

/-- An option with a value is its name and its value around a mark, behind two dashes. -/
theorem read_eq_option_iff {text name value : String} (named : name ≠ "") :
    read text = .option name (some value) ↔
      '=' ∉ name.toList ∧ '-' :: '-' :: name.toList ++ '=' :: value.toList = text.toList := by
  unfold read
  split
  · rename_i rest shape
    have splits : '=' ∉ name.toList ∧ '-' :: '-' :: name.toList ++ '=' :: value.toList =
        '-' :: '-' :: rest ↔ split rest = (name.toList, some value.toList) := by
      rw [split_eq_iff]
      simp
    rw [shape, splits]
    have present : name.toList ≠ [] := fun empty => named (String.toList_inj.1 empty)
    split
    · rename_i held nameless
      rw [nameless]
      simp [Ne.symm present]
    · rename_i found held _ parted
      rw [parted]
      have same (letters : List Char) (text : String) :
          String.ofList letters = text ↔ letters = text.toList := by
        rw [← String.toList_inj, String.toList_ofList]
      cases held with
      | none => simp
      | some held => simp [same]
  · rename_i other
    constructor
    · exact fun reads => absurd reads (by simp)
    · rintro ⟨_, whole⟩
      exact absurd whole.symm (other _)

/-- An option without a value is its name behind two dashes. -/
theorem read_eq_bare_iff {text name : String} (named : name ≠ "") :
    read text = .option name none ↔
      '=' ∉ name.toList ∧ '-' :: '-' :: name.toList = text.toList := by
  unfold read
  split
  · rename_i rest shape
    have splits : '=' ∉ name.toList ∧ '-' :: '-' :: name.toList = '-' :: '-' :: rest ↔
        split rest = (name.toList, none) := by
      rw [split_eq_bare_iff]
      simp
    rw [shape, splits]
    have present : name.toList ≠ [] := fun empty => named (String.toList_inj.1 empty)
    split
    · rename_i held nameless
      rw [nameless]
      simp [Ne.symm present]
    · rename_i found held _ parted
      rw [parted]
      cases held <;> simp [← String.toList_inj]
  · rename_i other
    constructor
    · exact fun reads => absurd reads (by simp)
    · rintro ⟨_, whole⟩
      exact absurd whole.symm (other _)

/-- An option that was read has a name. -/
theorem ne_empty_of_read {text name : String} {value : Option String}
    (reads : read text = .option name value) : name ≠ "" := by
  unfold read at reads
  split at reads
  · split at reads
    · cases reads
    · rename_i found held unnamed _
      simp only [Argument.option.injEq] at reads
      obtain ⟨rfl, -⟩ := reads
      intro empty
      exact unnamed (by simpa [← String.toList_inj] using empty)
  · cases reads

/-- An argument is read as an option exactly if it is written as one. -/
theorem read_eq_option {text name : String} {value : Option String} :
    read text = .option name value ↔
      name ≠ "" ∧ '=' ∉ name.toList ∧ text = written name value := by
  by_cases named : name = ""
  · exact iff_of_false (fun reads => ne_empty_of_read reads named) fun shown => shown.1 named
  · rw [and_iff_right named]
    cases value with
    | none =>
      rw [read_eq_bare_iff named, ← @String.toList_inj text]
      simp [written, eq_comm]
    | some value =>
      rw [read_eq_option_iff named, ← @String.toList_inj text]
      simp [written, eq_comm]

/-- A plain argument is one without two dashes in front. -/
theorem plain?_eq (text : String) :
    plain? text = if isDashed text then none else some text := by
  cases dashed : isDashed text with
  | true =>
    obtain ⟨rest, whole⟩ := List.isPrefixOf_iff_prefix.1 dashed
    have reads : ∀ plain, read text ≠ .plain plain := by
      intro plain
      unfold read
      rw [← whole]
      simp only [List.cons_append, List.nil_append]
      split <;> simp
    rw [plain?]
    split
    · rename_i plain here
      exact absurd here (reads plain)
    · rfl
  | false =>
    have undashed : ∀ rest, text.toList ≠ '-' :: '-' :: rest := by
      intro rest shape
      rw [isDashed, shape] at dashed
      cases dashed
    have reads : read text = .plain text := by
      unfold read
      split
      · rename_i rest shape
        exact absurd shape (undashed rest)
      · rfl
    rw [plain?, reads]
    rfl

/-- Only a malformed text is an occurrence of an option without a name. -/
theorem Names.named {name text : String} (names : Names name text)
    (fine : ¬ isMalformed text = true) : name ≠ "" := by
  rintro rfl
  obtain ⟨-, value, rfl⟩ := names
  exact fine (by cases value <;> simp [written, isMalformed])

/-- A malformed argument reads as an option without a name. -/
theorem read_of_isMalformed {text : String} (malformed : isMalformed text = true) :
    read text = .nameless text := by
  unfold read
  rcases Bool.or_eq_true_iff.1 malformed with bare | marked
  · rw [of_decide_eq_true bare]
    rfl
  · obtain ⟨rest, whole⟩ := List.isPrefixOf_iff_prefix.1 marked
    rw [← whole]
    rfl

/-- What reads as an option without a name is malformed. -/
theorem isMalformed_of_read {text other : String} (nameless : read text = .nameless other) :
    isMalformed text = true := by
  unfold read at nameless
  split at nameless
  · rename_i rest shape
    rw [isMalformed, shape]
    cases rest with
    | nil => rfl
    | cons letter rest =>
      by_cases mark : letter = '='
      · simp [mark]
      · simp [Argument.split, mark] at nameless
  · cases nameless

/-- The value that an occurrence of an option is read with is what stands behind its name. -/
theorem value?_join_eq {option : String} (named : option ≠ "") (unmarked : '=' ∉ option.toList)
    (text : String) : (value? option text).join = valueBehind? option text := by
  refine Option.ext fun value => ?_
  have holds : (value? option text).join = some value ↔
      read text = .option option (some value) := by
    unfold value?
    split
    · rename_i found held reads
      rw [reads]
      by_cases same : found = option <;> simp [same]
    · rename_i other
      exact iff_of_false (by simp) (other option (some value))
  have shows : valueBehind? option text = some value ↔
      '-' :: '-' :: option.toList ++ '=' :: value.toList = text.toList := by
    rw [valueBehind?, Option.map_eq_some_iff]
    simp only [List.isPrefixOf?_eq_some_iff_append_eq, ← String.toList_inj, String.toList_ofList]
    constructor
    · rintro ⟨letters, whole, rfl⟩
      simpa using whole
    · exact fun whole => ⟨value.toList, by simpa using whole, rfl⟩
  rw [holds, shows, read_eq_option_iff named]
  exact and_iff_right unmarked

end Argument

namespace Arguments

open Argument (isMalformed)

variable {given : List String}

/-- The values that are written for an option, in order. -/
def valuesIn (name : String) (given : List String) : List String :=
  given.filterMap (Argument.valueBehind? name)

/-- The arguments without two dashes in front, in order. -/
def undashed (given : List String) : List String :=
  given.filter fun argument => !Argument.isDashed argument

/-- The arguments that read as plain are those without two dashes in front. -/
theorem plainIn_eq (given : List String) : plainIn given = undashed given := by
  rw [plainIn, undashed, ← List.filterMap_eq_filter]
  refine congrArg (List.filterMap · given) (funext fun text => ?_)
  rw [Argument.plain?_eq, Option.guard]
  cases Argument.isDashed text <;> rfl

/-- The first malformed argument is the error of parsing. -/
theorem parse_eq_error {text : String} (found : given.find? isMalformed = some text) :
    parse given = .error text := by
  -- What was read before the malformed argument does not matter, so the start is any.
  have stops : ∀ start, given.foldlM addArgument start = .error text := by
    induction given with
    | nil => cases found
    | cons argument rest ih =>
      intro start
      rw [List.foldlM_cons, addArgument]
      cases malformed : isMalformed argument with
      | true =>
        rw [List.find?_cons_of_pos malformed] at found
        cases found
        rw [Argument.read_of_isMalformed malformed]
        rfl
      | false =>
        rw [List.find?_cons_of_neg (by simp [malformed])] at found
        cases read : Argument.read argument with
        | plain text => exact ih found _
        | option name value => exact ih found _
        | nameless text => rw [Argument.isMalformed_of_read read] at malformed; cases malformed
  exact stops _

/-- Without a malformed argument parsing succeeds. -/
theorem exists_parse (unfound : given.find? isMalformed = none) :
    ∃ arguments, parse given = .ok arguments := by
  have goesOn : ∀ start, ∃ arguments, given.foldlM addArgument start = .ok arguments := by
    induction given with
    | nil => exact fun start => ⟨start, rfl⟩
    | cons argument rest ih =>
      intro start
      rw [List.find?_cons] at unfound
      split at unfound
      · cases unfound
      · rename_i fine
        rw [List.foldlM_cons, addArgument]
        cases read : Argument.read argument with
        | plain text => exact ih unfound _
        | option name value => exact ih unfound _
        | nameless text => rw [Argument.isMalformed_of_read read] at fine; cases fine
  exact goesOn _

/-- The values in the occurrences of an option are those that are written behind its name. -/
theorem reduceOption_occurrencesIn {option : String} (named : option ≠ "")
    (unmarked : '=' ∉ option.toList) (given : List String) :
    (occurrencesIn given option).reduceOption = given.filterMap (Argument.valueBehind? option) := by
  rw [occurrencesIn, List.reduceOption, List.filterMap_filterMap]
  exact congrArg (List.filterMap · given)
    (funext fun text => Argument.value?_join_eq named unmarked text)

end Arguments

end Launchpad
