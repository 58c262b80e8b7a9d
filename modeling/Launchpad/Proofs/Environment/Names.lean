import Launchpad.Proofs.Environment.Layers
import Mathlib.Data.List.Induction
import Mathlib.Data.List.Nodup

/-!
# Names in a stack of property sources

As long as the names in a stack are distinct, whatever is done under a name concerns the only source
of that name. Adding and removing sources keep the names distinct. Replacing does not look at the
name of the source that it puts in: in the place of a source of another name, that source may stand
beside one of its own name. `Edit.Doubles` is exactly this case, and `distinct_names_of_edits` says
that there is no other.
-/

namespace Launchpad

namespace PropertySources

variable {sources : PropertySources} {source : PropertySource} {name key : String}

/-- A name that no source has removes nothing from the others. -/
theorem others_eq_self (absent : name ∉ names sources) : others sources name = sources := by
  refine List.filter_eq_self.2 fun source among => ?_
  have differs : source.name ≠ name := fun same => absent (same ▸ List.mem_map_of_mem among)
  simpa using differs

/-- Of sources with distinct names, removing one leaves those of other names. -/
theorem remove_eq_others (distinct : (names sources).Nodup) :
    remove sources name = others sources name := by
  induction sources with
  | nil => rfl
  | cons held rest ih =>
    obtain ⟨first, distinct⟩ := List.nodup_cons.1 distinct
    rw [others_cons]
    split
    · rename_i here
      subst here
      rw [others_eq_self first]
      simp [remove]
    · rename_i differs
      rw [← ih distinct]
      simp [remove, differs]

/-- Moving one of several sources with distinct names behind the others changes nothing else. -/
theorem moveLast_eq (distinct : (names sources).Nodup) :
    moveLast sources name = others sources name ++ (named? sources name).toList := by
  unfold moveLast
  split
  · rename_i source found
    have named : source.name = name := by simpa using List.find?_some found
    have absent : named? (others sources name) name = none := by
      simp [named?, others, List.find?_filter]
    rw [addLast, named, remove_eq_others distinct, remove_eq_self absent, found]
    rfl
  · rename_i absent
    rw [absent, Option.toList_none, List.append_nil, ← remove_eq_others distinct,
      remove_eq_self absent]

/-- Where names are distinct, a source is found exactly if it is there and has the name. -/
theorem named?_eq_some_iff (distinct : (names sources).Nodup) {source : PropertySource} :
    named? sources name = some source ↔ source ∈ sources ∧ source.name = name := by
  constructor
  · intro found
    exact ⟨List.mem_of_find?_eq_some found, by simpa using List.find?_some found⟩
  · rintro ⟨among, named⟩
    cases found : named? sources name with
    | none =>
      have differs := List.find?_eq_none.1 found source among
      simp [named] at differs
    | some other =>
      have sameName : other.name = name := by simpa using List.find?_some found
      have held := List.mem_of_find?_eq_some found
      rw [List.inj_on_of_nodup_map distinct held among (sameName.trans named.symm)]

/-- Moving a source to the end loses none. -/
theorem mem_moveLast (distinct : (names sources).Nodup) {source : PropertySource} :
    source ∈ moveLast sources name ↔ source ∈ sources := by
  rw [moveLast_eq distinct, List.mem_append, others, List.mem_filter, Option.mem_toList,
    named?_eq_some_iff distinct, ← and_or_left]
  simp [em']

@[simp] theorem names_nil : names [] = [] := rfl

@[simp] theorem names_cons : names (source :: sources) = source.name :: names sources := rfl

@[simp] theorem names_append (sources added : PropertySources) :
    names (sources ++ added) = names sources ++ names added := List.map_append

/-- The other sources have the other names. -/
theorem names_others : names (others sources name) = (names sources).filter (· ≠ name) := by
  induction sources with
  | nil => rfl
  | cons held rest ih =>
    rw [others_cons]
    by_cases same : held.name = name <;> simp [same, ih]

/-- The others have other names. -/
theorem not_mem_names_others : name ∉ names (others sources name) := by simp [names_others]

/-- Without a source of the name, nothing is replaced. -/
theorem replace_of_not_mem (absent : name ∉ names sources) :
    replace name source sources = sources := by
  induction sources with
  | nil => rfl
  | cons held rest ih =>
    rw [names_cons, List.mem_cons, not_or] at absent
    unfold replace
    rw [if_neg (Ne.symm absent.1), ih absent.2]

/-- Of sources with distinct names, replacing concerns the one of the name. -/
theorem replace_eq_map (distinct : (names sources).Nodup) :
    replace name source sources =
      sources.map fun held => if held.name = name then source else held := by
  induction sources with
  | nil => rfl
  | cons held rest ih =>
    obtain ⟨first, distinct⟩ := List.nodup_cons.1 distinct
    unfold replace
    rw [List.map_cons, ← ih distinct]
    split
    · rename_i here
      rw [replace_of_not_mem (here ▸ first)]
    · rfl

/-- A name that is not in a stack comes in with the source that has it. -/
theorem mem_names_replace {other : String} (absent : other ∉ names sources) :
    other ∈ names (replace name source sources) ↔ name ∈ names sources ∧ source.name = other := by
  induction sources with
  | nil => simp [replace]
  | cons held rest ih =>
    rw [names_cons, List.mem_cons, not_or] at absent
    unfold replace
    by_cases here : held.name = name
    · simp [here, absent.2, eq_comm]
    · simp [here, absent.1, ih absent.2, Ne.symm here]

/-! ## One change -/

/-- A change to a stack. -/
inductive Edit where
  | addFirst (source : PropertySource)
  | addLast (source : PropertySource)
  | replace (name : String) (source : PropertySource)
  | remove (name : String)

namespace Edit

/-- The stack after a change. -/
def apply (sources : PropertySources) : Edit → PropertySources
  | addFirst source => sources.addFirst source
  | addLast source => sources.addLast source
  | replace name source => PropertySources.replace name source sources
  | remove name => sources.remove name

/-- Whether a change puts a source in the place of one of another name although there is one of its
own name. -/
def Doubles (sources : PropertySources) : Edit → Prop
  | replace name source =>
    name ∈ names sources ∧ source.name ≠ name ∧ source.name ∈ names sources
  | _ => False

end Edit

/-- Replacing keeps the names distinct unless it doubles one. -/
theorem nodup_names_replace_iff (distinct : (names sources).Nodup) :
    (names (replace name source sources)).Nodup ↔
      ¬ (name ∈ names sources ∧ source.name ≠ name ∧ source.name ∈ names sources) := by
  induction sources with
  | nil => simp [replace]
  | cons held rest ih =>
    rw [names_cons, List.nodup_cons] at distinct
    obtain ⟨first, distinct⟩ := distinct
    unfold replace
    by_cases here : held.name = name
    · subst here
      by_cases same : source.name = held.name
      · simp [same, distinct, first]
      · simp [same, distinct]
    · rw [if_neg here, names_cons, List.nodup_cons, ih distinct, mem_names_replace first]
      by_cases replaced : name ∈ names rest
      · by_cases doubled : source.name = held.name
        · simp [replaced, doubled, here]
        · simp [replaced, doubled]
      · simp [replaced, Ne.symm here]

/-- Of all changes to a stack with distinct names, exactly those that double a name leave a stack
whose names are not distinct. -/
theorem nodup_names_apply_iff (distinct : (names sources).Nodup) (edit : Edit) :
    (names (edit.apply sources)).Nodup ↔ ¬ edit.Doubles sources := by
  have left (name : String) : (names (others sources name)).Nodup := by
    rw [names_others]
    exact distinct.filter _
  cases edit with
  | addFirst added =>
    simp [Edit.apply, Edit.Doubles, addFirst, remove_eq_others distinct, left,
      not_mem_names_others]
  | addLast added =>
    have apart : ∀ held ∈ names (others sources added.name), held ≠ added.name := by
      intro held among same
      exact not_mem_names_others (same ▸ among)
    simpa [Edit.apply, Edit.Doubles, addLast, remove_eq_others distinct, List.nodup_append, left]
      using apart
  | replace name source => exact nodup_names_replace_iff distinct
  | remove name => simp [Edit.apply, Edit.Doubles, remove_eq_others distinct, left]

/-! ## Any number of changes -/

/-- The stack that changes make of the empty one. -/
def edited (edits : List Edit) : PropertySources := edits.foldl Edit.apply []

theorem edited_append_singleton (edits : List Edit) (edit : Edit) :
    edited (edits ++ [edit]) = edit.apply (edited edits) := by
  simp [edited]

/-- Whether a change doubles a name when its turn comes. -/
def DoublesIn (edits : List Edit) : Prop :=
  ∃ earlier edit later, edits = earlier ++ edit :: later ∧ edit.Doubles (edited earlier)

/-- Edits that double no name leave the names distinct. -/
theorem nodup_names_edited {edits : List Edit} (single : ¬ DoublesIn edits) :
    (names (edited edits)).Nodup := by
  induction edits using List.reverseRecOn with
  | nil => exact List.nodup_nil
  | append_singleton earlier edit ih =>
    have before : ¬ DoublesIn earlier := by
      rintro ⟨first, doubling, rest, rfl, doubles⟩
      exact single ⟨first, doubling, rest ++ [edit], by simp, doubles⟩
    rw [edited_append_singleton, nodup_names_apply_iff (ih before)]
    intro doubles
    exact single ⟨earlier, edit, [], by simp, doubles⟩

/-- The names stay distinct along a sequence of changes exactly if none of them doubles a name. In a
stack with distinct names, a name leads to the only source that has it: this is the one that is
found, replaced, or removed, and nothing else changes. -/
theorem distinct_names_of_edits (edits : List Edit) :
    ((∀ earlier later, edits = earlier ++ later → (names (edited earlier)).Nodup) ↔
      ¬ DoublesIn edits) ∧
    ((names (edited edits)).Nodup → ∀ name,
      (∀ source, named? (edited edits) name = some source ↔
        source ∈ edited edits ∧ source.name = name) ∧
      (remove (edited edits) name = others (edited edits) name ∧
        hasSource (remove (edited edits) name) name = false) ∧
      ∀ source, replace name source (edited edits) =
        (edited edits).map fun held => if held.name = name then source else held) := by
  refine ⟨⟨?_, ?_⟩, ?_⟩
  · rintro distinct ⟨earlier, edit, later, rfl, doubles⟩
    have after := distinct (earlier ++ [edit]) later (by simp)
    rw [edited_append_singleton,
      nodup_names_apply_iff (distinct earlier (edit :: later) rfl)] at after
    exact after doubles
  · rintro single earlier later rfl
    apply nodup_names_edited
    rintro ⟨first, edit, rest, rfl, doubles⟩
    exact single ⟨first, edit, rest ++ later, by simp, doubles⟩
  · intro distinct name
    refine ⟨fun source => named?_eq_some_iff distinct, ⟨remove_eq_others distinct, ?_⟩,
      fun source => replace_eq_map distinct⟩
    rw [remove_eq_others distinct, ← Bool.not_eq_true, hasSource_iff_mem_names]
    exact not_mem_names_others

/-- A source put in the place of another one stands beside one of its own name, and is still there
when that name has been removed. -/
theorem names_doubled_by_replace :
    ¬ (names (edited [.addLast { name := "a" }, .addLast { name := "b" },
      .replace "a" { name := "b" }])).Nodup ∧
    hasSource (edited [.addLast { name := "a" }, .addLast { name := "b" },
      .replace "a" { name := "b" }, .remove "b"]) "b" = true := by
  decide

end PropertySources

end Launchpad
