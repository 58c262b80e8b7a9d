/-!
# Templates

A text with references `${key}` and `${key:default}`. Reading a text as a template never fails:
whatever is no complete reference is literal, so `written (read text) = text`. A key is a non-empty
run of characters without a colon or a closing brace, and a default ends at the next closing brace.
-/

namespace Launchpad

/-- One part of a template. -/
inductive TemplatePart where
  | literal (c : Char)
  | reference (key : List Char) (fallback : Option (List Char))
  deriving DecidableEq, Repr

/-- A text cut into literal characters and references. -/
abbrev Template := List TemplatePart

namespace TemplatePart

/-- A part as it stands in the text. -/
def written : TemplatePart → List Char
  | literal c => [c]
  | reference key none => '$' :: '\x7b' :: key ++ ['\x7d']
  | reference key (some fallback) => '$' :: '\x7b' :: key ++ ':' :: fallback ++ ['\x7d']

end TemplatePart

namespace Template

/-- Whether a character can stand in a key. -/
def isKeyChar (c : Char) : Bool := c != '\x7d' && c != ':'

/-- Reads what follows the opening brace of a reference, up to and including its closing brace. -/
def reference? (text : List Char) : Option (TemplatePart × List Char) :=
  match text.takeWhile isKeyChar, text.dropWhile isKeyChar with
  | [], _ => none
  | _ :: _, [] => none
  | c :: key, ':' :: rest =>
    match rest.dropWhile (· != '\x7d') with
    | [] => none
    | _ :: rest' => some (.reference (c :: key) (some (rest.takeWhile (· != '\x7d'))), rest')
  | c :: key, _ :: rest => some (.reference (c :: key) none, rest)

theorem length_dropWhile_le {α : Type} (p : α → Bool) (items : List α) :
    (items.dropWhile p).length ≤ items.length :=
  (List.dropWhile_suffix p).length_le

theorem length_of_reference? {text rest : List Char} {part : TemplatePart}
    (found : reference? text = some (part, rest)) : rest.length < text.length := by
  have outer := length_dropWhile_le isKeyChar text
  unfold reference? at found
  split at found
  · simp at found
  · simp at found
  · rename_i after _ dropped
    have inner := length_dropWhile_le (· != '\x7d') after
    rw [dropped] at outer
    split at found
    · simp at found
    · rename_i _ rest' closed
      rw [closed] at inner
      simp at found
      obtain ⟨_, rfl⟩ := found
      simp at outer inner
      omega
  · rename_i dropped
    rw [dropped] at outer
    simp at found
    obtain ⟨_, rfl⟩ := found
    simp at outer
    omega

/-- Reads a text as a template: references from left to right, everything else literal. -/
def read : List Char → Template
  | [] => []
  | '$' :: '\x7b' :: rest =>
    match _found : reference? rest with
    | some (part, rest') => part :: read rest'
    | none => .literal '$' :: read ('\x7b' :: rest)
  | c :: rest => .literal c :: read rest
termination_by text => text.length
decreasing_by
  · have := length_of_reference? _found
    simp
    omega
  · simp
  · simp

/-- The text of a template. -/
def written (template : Template) : List Char := template.flatMap TemplatePart.written

/-- The text of a template with every reference replaced by `expand`. -/
def fill (expand : TemplatePart → List Char) (template : Template) : List Char :=
  template.flatMap expand

theorem written_of_reference? {text rest : List Char} {part : TemplatePart}
    (found : reference? text = some (part, rest)) :
    part.written ++ rest = '$' :: '\x7b' :: text := by
  have outer := List.takeWhile_append_dropWhile (p := isKeyChar) (l := text)
  unfold reference? at found
  split at found
  · simp at found
  · simp at found
  · rename_i c key after taken dropped
    have inner := List.takeWhile_append_dropWhile (p := (· != '\x7d')) (l := after)
    split at found
    · simp at found
    · rename_i closing rest' closed
      have brace : closing = '\x7d' := by
        have := List.head?_dropWhile_not (· != '\x7d') after
        simp [closed] at this
        exact this
      simp at found
      obtain ⟨rfl, rfl⟩ := found
      rw [taken, dropped, ← inner, closed] at outer
      simp [TemplatePart.written, ← outer, brace]
  · rename_i c key closing after notColon taken dropped
    have brace : closing = '\x7d' := by
      have := List.head?_dropWhile_not isKeyChar text
      simp [dropped, isKeyChar] at this
      by_cases h : closing = '\x7d'
      · exact h
      · exact absurd (this h) (fun h => notColon h)
    simp at found
    obtain ⟨rfl, rfl⟩ := found
    rw [taken, dropped] at outer
    simp [TemplatePart.written, ← outer, brace]

/-- Reading loses nothing. -/
theorem written_read (text : List Char) : written (read text) = text := by
  fun_induction read text with
  | case1 => rfl
  | case2 rest part rest' found ih =>
    have := written_of_reference? found
    simp only [written, List.flatMap_cons] at ih ⊢
    rw [ih, this]
  | case3 rest _ ih => simpa [written, TemplatePart.written] using ih
  | case4 c rest _ ih => simpa [written, TemplatePart.written] using ih

end Template

end Launchpad
