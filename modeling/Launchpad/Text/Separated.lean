import Launchpad.Text.Blank

/-!
# Separated texts

`pieces` cuts a text at every occurrence of a separator and always yields at least one piece;
`items` reads a list value: the pieces between commas, trimmed, without the empty ones. `joined`
is the inverse direction.
-/

namespace Launchpad.Text

/-- The texts between the occurrences of `separator`. -/
def pieces (separator : Char) : List Char → List (List Char)
  | [] => [[]]
  | c :: rest =>
    if c = separator then [] :: pieces separator rest
    else match pieces separator rest with
      | [] => [[c]]
      | piece :: more => (c :: piece) :: more

theorem pieces_ne_nil (separator : Char) (text : List Char) : pieces separator text ≠ [] := by
  cases text with
  | nil => simp [pieces]
  | cons c rest =>
    unfold pieces
    split
    · simp
    · split <;> simp

theorem pieces_append_cons (separator : Char) (text rest : List Char) :
    pieces separator (text ++ separator :: rest) =
      pieces separator text ++ pieces separator rest := by
  induction text with
  | nil => simp [pieces]
  | cons c text ih =>
    rw [List.cons_append, pieces, ih, pieces]
    split
    · rfl
    · obtain ⟨piece, more, cut⟩ := List.exists_cons_of_ne_nil (pieces_ne_nil separator text)
      rw [cut]
      rfl

/-- Cutting joined texts yields the pieces of one text after the other. -/
theorem pieces_intercalate (separator : Char) {texts : List (List Char)} (some : texts ≠ []) :
    pieces separator ([separator].intercalate texts) = texts.flatMap (pieces separator) := by
  induction texts with
  | nil => contradiction
  | cons text rest ih =>
    cases rest with
    | nil => simp
    | cons next rest =>
      rw [List.intercalate_cons_cons, List.append_assoc, List.singleton_append, pieces_append_cons,
        ih (List.cons_ne_nil _ _)]
      rfl

section

variable {separator : Char} {text : List Char}

theorem pieces_of_not_mem (absent : separator ∉ text) : pieces separator text = [text] := by
  induction text with
  | nil => rfl
  | cons c rest ih =>
    simp only [List.mem_cons, not_or] at absent
    simp [pieces, Ne.symm absent.1, ih absent.2]

theorem not_mem_of_mem_pieces {part : List Char} (among : part ∈ pieces separator text) :
    separator ∉ part := by
  induction text generalizing part with
  | nil => simp_all [pieces]
  | cons c rest ih =>
    unfold pieces at among
    split at among
    · rcases List.mem_cons.1 among with rfl | later
      · simp
      · exact ih later
    · rename_i other
      split at among
      · simp_all [Ne.symm other]
      · rename_i piece more cut
        rcases List.mem_cons.1 among with rfl | later
        · simp only [List.mem_cons, not_or]
          exact ⟨Ne.symm other, ih (cut ▸ List.mem_cons_self)⟩
        · exact ih (cut ▸ List.mem_cons_of_mem piece later)

theorem intercalate_pieces (separator : Char) (text : List Char) :
    [separator].intercalate (pieces separator text) = text := by
  induction text with
  | nil => simp [pieces]
  | cons c rest ih =>
    unfold pieces
    split
    · rename_i same
      obtain ⟨piece, more, cut⟩ := List.exists_cons_of_ne_nil (pieces_ne_nil separator rest)
      rw [cut] at ih ⊢
      rw [List.intercalate_cons_cons, ih, same]
      rfl
    · split
      · rename_i none
        exact absurd none (pieces_ne_nil separator rest)
      · rename_i piece more cut
        rw [cut] at ih
        rw [← ih]
        cases more with
        | nil => simp
        | cons next others => simp [List.intercalate_cons_cons]

/-- The pieces of a text are the only texts without the separator that make it up. -/
theorem pieces_eq_iff {parts : List (List Char)} :
    pieces separator text = parts ↔
      parts ≠ [] ∧ (∀ part ∈ parts, separator ∉ part) ∧ [separator].intercalate parts = text := by
  constructor
  · rintro rfl
    exact ⟨pieces_ne_nil separator text, fun _ => not_mem_of_mem_pieces,
      intercalate_pieces separator text⟩
  · rintro ⟨some, plain, rfl⟩
    have whole : parts.map (pieces separator) = parts.map fun part => [part] :=
      List.map_congr_left fun part among => pieces_of_not_mem (plain part among)
    rw [pieces_intercalate separator some, List.flatMap_def, whole, ← List.flatMap_def,
      List.flatMap_singleton']

end

/-- The items of a comma-separated list value: trimmed, and without the empty ones. -/
def items (text : String) : List String :=
  ((pieces ',' text.toList).map fun piece => String.ofList (trimChars piece)).filter (· ≠ "")

/-- The texts in a row, with `separator` between neighbours. -/
def joined (separator : String) (texts : List String) : String := separator.intercalate texts

/-- The pieces between the commas of joined texts are those of the texts. -/
theorem pieces_joined {texts : List String} (some : texts ≠ []) :
    pieces ',' (joined "," texts).toList = texts.flatMap fun text => pieces ',' text.toList := by
  have separator : ",".toList = [','] := rfl
  rw [joined, String.toList_intercalate, separator, pieces_intercalate _ (by simpa using some),
    List.flatMap_map]

/-- Whether `part` occurs in `text`. -/
def occursIn (part : List Char) : List Char → Bool
  | [] => part.isEmpty
  | c :: rest => part.isPrefixOf (c :: rest) || occursIn part rest

/-- Whether `text` contains `part`. -/
def contains (text part : String) : Bool := occursIn part.toList text.toList

end Launchpad.Text
