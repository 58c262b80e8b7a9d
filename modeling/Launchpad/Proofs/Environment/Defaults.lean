import Launchpad.Proofs.Environment.References
import Mathlib.Data.List.TakeWhile

/-!
# Defaults that hold references

A default ends at the first closing brace that follows its colon, whatever was opened in between. If
all closing braces of a default stand at its end, one of them closes the reference in place of its
own, and the last one is left for what was opened in the default: nothing is lost as long as the key
is undefined. The literal text around a reference plays no part in any round, so what becomes of the
text is what becomes of the default, with one round less.
-/

namespace Launchpad

/-- An item at which a prefix ends is not a part of it. -/
theorem takeWhile_append_stop {α : Type} {p : α → Bool} {stop : α} (stops : p stop = false)
    (items rest : List α) : (items ++ stop :: rest).takeWhile p = items.takeWhile p := by
  rw [List.takeWhile_append]
  split
  · rename_i all
    have same := (List.takeWhile_prefix p).eq_of_length all
    simp [stops, same]
  · rfl

theorem dropWhile_append_stop {α : Type} {p : α → Bool} {stop : α} (stops : p stop = false)
    (items rest : List α) :
    (items ++ stop :: rest).dropWhile p = items.dropWhile p ++ stop :: rest := by
  rw [List.dropWhile_append]
  split
  · rename_i none
    rw [List.isEmpty_iff.1 none, List.nil_append, List.dropWhile_cons_of_neg (by simp [stops])]
  · rfl

/-- The reference that stands between an opening and the next closing brace, if there is a key. -/
def TemplatePart.between? (inside : List Char) : Option TemplatePart :=
  match inside.takeWhile Template.isKeyChar, inside.dropWhile Template.isKeyChar with
  | [], _ => none
  | key, [] => some (.reference key none)
  | key, _ :: fallback => some (.reference key (some fallback))

namespace Template

open TemplatePart

variable {inside text rest lead trail : List Char}

/-- Whether no reference opens in a text. -/
def IsLiteral (text : List Char) : Prop := ¬ ['$', '\x7b'] <:+: text

instance (text : List Char) : Decidable (IsLiteral text) := inferInstanceAs (Decidable (¬ _))

/-- A part of a literal text is literal. -/
theorem IsLiteral.of_infix (literal : IsLiteral text) (part : rest <:+: text) : IsLiteral rest :=
  fun opens => literal (opens.trans part)

/-- A text without a dollar sign is literal. -/
theorem isLiteral_of_not_mem (absent : '$' ∉ text) : IsLiteral text :=
  fun opens => absent (opens.subset List.mem_cons_self)

/-- Before the first closing brace a key ends at a colon, if there is one. -/
theorem dropWhile_isKeyChar (first : '\x7d' ∉ inside) :
    inside.dropWhile isKeyChar = [] ∨ ∃ fallback,
      inside.dropWhile isKeyChar = ':' :: fallback ∧ ∀ c ∈ fallback, (c != '\x7d') = true := by
  have ends := List.head?_dropWhile_not isKeyChar inside
  have whole : ∀ c ∈ inside.dropWhile isKeyChar, (c != '\x7d') = true := by
    intro c among
    have within : c ∈ inside := (List.dropWhile_suffix isKeyChar).subset among
    simpa using ne_of_mem_of_not_mem within first
  cases behind : inside.dropWhile isKeyChar with
  | nil => exact .inl rfl
  | cons stop fallback =>
    rw [behind] at ends whole
    obtain ⟨here, later⟩ := List.forall_mem_cons.1 whole
    obtain rfl : stop = ':' := by simpa [isKeyChar, here] using ends
    exact .inr ⟨fallback, rfl, later⟩

/-- A reference is read up to the first closing brace. -/
theorem reference?_closed (first : '\x7d' ∉ inside) (rest : List Char) :
    reference? (inside ++ '\x7d' :: rest) = (between? inside).map (·, rest) := by
  have stops : isKeyChar '\x7d' = false := rfl
  unfold reference? between?
  rw [takeWhile_append_stop stops, dropWhile_append_stop stops]
  cases inside.takeWhile isKeyChar with
  | nil => rfl
  | cons c key =>
    obtain ended | ⟨fallback, colon, whole⟩ := dropWhile_isKeyChar first
    · rw [ended]
      rfl
    · simp [colon, List.takeWhile_append_of_pos whole, List.dropWhile_append_of_pos whole]

/-- Without a closing brace there is no reference. -/
theorem reference?_unclosed (unclosed : '\x7d' ∉ text) : reference? text = none := by
  unfold reference?
  cases text.takeWhile isKeyChar with
  | nil => rfl
  | cons c key =>
    obtain ended | ⟨fallback, colon, whole⟩ := dropWhile_isKeyChar unclosed
    · rw [ended]
    · simp [colon, List.dropWhile_eq_nil_iff.2 whole]

/-- What follows a text does not change the references in it, unless it has a closing brace. -/
theorem reference?_append (unclosed : '\x7d' ∉ trail) (text : List Char) :
    reference? (text ++ trail) =
      (reference? text).map fun found => (found.1, found.2 ++ trail) := by
  by_cases closed : '\x7d' ∈ text
  · obtain ⟨inside, rest, rfl, first⟩ := List.eq_append_cons_of_mem closed
    rw [List.append_assoc, List.cons_append, reference?_closed first, reference?_closed first,
      Option.map_map]
    rfl
  · rw [reference?_unclosed closed, reference?_unclosed (by simp [closed, unclosed])]
    rfl

/-- A character is literal unless a reference begins with it. -/
theorem read_cons {c : Char}
    (plain : ∀ rest, c = '$' → text = '\x7b' :: rest → reference? rest = none) :
    read (c :: text) = .literal c :: read text := by
  by_cases opens : c = '$' ∧ ∃ rest, text = '\x7b' :: rest
  · obtain ⟨rfl, rest, rfl⟩ := opens
    rw [read]
    split
    · rename_i found
      rw [plain rest rfl rfl] at found
      contradiction
    · rfl
  · rw [read]
    rintro rest rfl rfl
    exact opens ⟨rfl, rest, rfl⟩

/-- A text without a closing brace is literal. -/
theorem read_unclosed (unclosed : '\x7d' ∉ text) : read text = text.map .literal := by
  induction text with
  | nil => rw [read]; rfl
  | cons c rest ih =>
    have later : '\x7d' ∉ rest := List.not_mem_of_not_mem_cons unclosed
    rw [read_cons, ih later, List.map_cons]
    rintro behind rfl rfl
    exact reference?_unclosed (List.not_mem_of_not_mem_cons later)

/-- In front of a text, one in which no reference opens is literal, unless a reference opens where
the two meet. -/
theorem read_append_of_literal (literal : IsLiteral lead)
    (apart : lead.getLast? = some '$' → text.head? ≠ some '\x7b') :
    read (lead ++ text) = lead.map .literal ++ read text := by
  induction lead with
  | nil => rfl
  | cons c rest ih =>
    have later : rest.getLast? = some '$' → text.head? ≠ some '\x7b' := fun last => by
      refine apart ?_
      rw [List.getLast?_cons, last, Option.getD_some]
    rw [List.cons_append, read_cons, ih (literal.of_infix (List.suffix_cons c rest).isInfix) later]
    · rfl
    · rintro behind rfl opens
      cases rest with
      | nil => exact absurd (congrArg List.head? opens) (apart rfl)
      | cons next rest =>
        cases opens
        exact absurd (List.prefix_append ['$', '\x7b'] rest).isInfix literal

/-- A literal text is read letter by letter. -/
theorem read_of_literal (literal : IsLiteral text) : read text = text.map .literal := by
  have whole : read (text ++ []) = text.map .literal ++ read [] :=
    read_append_of_literal literal nofun
  rwa [List.append_nil, read_unclosed List.not_mem_nil, List.map_nil, List.append_nil] at whole

/-- What follows a text without closing a brace is literal, and the text is read as if it were not
there. -/
theorem read_append_unclosed (unclosed : '\x7d' ∉ trail) (text : List Char) :
    read (text ++ trail) = read text ++ trail.map .literal := by
  fun_induction read text with
  | case1 => exact read_unclosed unclosed
  -- A reference in the text is closed in the text; none is closed by what stands behind it.
  | case2 rest part rest' found ih =>
    have longer : reference? (rest ++ trail) = some (part, rest' ++ trail) := by
      rw [reference?_append unclosed, found]
      rfl
    rw [List.cons_append, List.cons_append, read]
    split
    · rename_i found'
      rw [longer] at found'
      cases found'
      rw [ih]
      rfl
    · rename_i missing
      rw [longer] at missing
      contradiction
  | case3 rest missing ih =>
    have longer : reference? (rest ++ trail) = none := by
      rw [reference?_append unclosed, missing]
      rfl
    rw [List.cons_append, read_cons, ih]
    · rfl
    · rintro _ - ⟨⟩
      exact longer
  | case4 c rest plain ih =>
    rw [List.cons_append, read_cons, ih]
    · rfl
    · rintro behind rfl opens
      cases rest with
      | nil =>
        obtain rfl : trail = '\x7b' :: behind := opens
        exact reference?_unclosed (List.not_mem_of_not_mem_cons unclosed)
      | cons next rest =>
        cases opens
        exact absurd rfl (plain rest rfl)

/-- A reference whose default has no closing brace is read up to its own. -/
theorem read_default {key cut : List Char} (isKey : key ≠ [] ∧ ∀ c ∈ key, isKeyChar c = true)
    (uncut : '\x7d' ∉ cut) (rest : List Char) :
    read ((reference key (some cut)).written ++ rest) = reference key (some cut) :: read rest := by
  obtain ⟨named, letters⟩ := isKey
  have open' : '\x7d' ∉ key ++ ':' :: cut := by
    have unclosed : '\x7d' ∉ key := fun among => by simpa [isKeyChar] using letters _ among
    simp [unclosed, uncut]
  have here : between? (key ++ ':' :: cut) = some (reference key (some cut)) := by
    obtain ⟨c, more, rfl⟩ := List.exists_cons_of_ne_nil named
    rw [between?, List.takeWhile_append_of_pos letters, List.dropWhile_append_of_pos letters]
    simp [isKeyChar]
  have found := reference?_closed open' rest
  rw [here, Option.map_some] at found
  have same : (reference key (some cut)).written ++ rest =
      '$' :: '\x7b' :: (key ++ ':' :: cut ++ '\x7d' :: rest) := by
    simp [TemplatePart.written]
  rw [same, read]
  split
  · rename_i found'
    rw [found] at found'
    cases found'
    rfl
  · rename_i missing
    rw [found] at missing
    contradiction

@[simp] theorem fill_append (expand : TemplatePart → List Char) (template more : Template) :
    fill expand (template ++ more) = fill expand template ++ fill expand more :=
  List.flatMap_append

/-- Whether all closing braces of a text stand at its end. -/
def ClosesAtEnd (text : List Char) : Prop :=
  ∃ cut braces, '\x7d' ∉ cut ∧ text = cut ++ List.replicate braces '\x7d'

end Template

namespace Environment

open TemplatePart Template

variable {environment : Environment} {lead key cut fallback text trail : List Char}

theorem fill_map_literal (text : List Char) :
    fill environment.expansion (text.map .literal) = text := by
  rw [fill, List.flatMap_map]
  exact List.flatMap_singleton' text

/-- The literal text around another one stays as it is, and plays no part in its references. -/
theorem expandOnce_surrounded (literal : IsLiteral lead) (apart : lead.getLast? ≠ some '$')
    (unclosed : '\x7d' ∉ trail) (text : List Char) :
    environment.expandOnce (lead ++ text ++ trail) =
      lead ++ environment.expandOnce text ++ trail := by
  rw [expandOnce, expandOnce, read_append_unclosed unclosed,
    read_append_of_literal literal fun last => absurd last apart, fill_append, fill_append,
    fill_map_literal, fill_map_literal]

/-- A text in which no reference opens has nothing to replace. -/
theorem expandOnce_of_literal (literal : IsLiteral text) : environment.expandOnce text = text := by
  rw [expandOnce, read_of_literal literal, fill_map_literal]

/-- A round that changes nothing may be repeated. -/
theorem expand_eq_iterate (rounds : Nat) (text : List Char) :
    environment.expand rounds text = environment.expandOnce^[rounds] text := by
  induction rounds generalizing text with
  | zero => rfl
  | succ rounds ih =>
    rw [expand]
    split
    · rename_i unchanged
      rw [Function.iterate_fixed unchanged]
    · rw [ih, Function.iterate_succ_apply]

/-- A literal text is not expanded. -/
theorem expand_of_literal (literal : IsLiteral text) (rounds : Nat) :
    environment.expand rounds text = text := by
  rw [expand_eq_iterate, Function.iterate_fixed (expandOnce_of_literal literal)]

/-- What stands around a text is not expanded with it, if it is literal in front and closes nothing
behind. -/
theorem expand_surrounded (literal : IsLiteral lead) (apart : lead.getLast? ≠ some '$')
    (unclosed : '\x7d' ∉ trail) (rounds : Nat) (text : List Char) :
    environment.expand rounds (lead ++ text ++ trail) =
      lead ++ environment.expand rounds text ++ trail := by
  have surrounded : Function.Semiconj (fun text => lead ++ text ++ trail) environment.expandOnce
      environment.expandOnce := fun text => (expandOnce_surrounded literal apart unclosed text).symm
  rw [expand_eq_iterate, expand_eq_iterate]
  exact (surrounded.iterate_right rounds text).symm

/-- A round puts the value of a key, or its default up to the first closing brace, in the place of a
reference, and goes on behind it. -/
theorem expandOnce_default (isKey : key ≠ [] ∧ ∀ c ∈ key, isKeyChar c = true)
    (uncut : '\x7d' ∉ cut) (trail : List Char) :
    environment.expandOnce ((reference key (some cut)).written ++ trail) =
      environment.expansion (reference key (some cut)) ++ environment.expandOnce trail := by
  rw [expandOnce, read_default isKey uncut]
  rfl

/-- While the key is undefined, a round puts a default in the place of its reference as long as all
its closing braces stand at its end. -/
theorem expandOnce_default_of_absent (isKey : key ≠ [] ∧ ∀ c ∈ key, isKeyChar c = true)
    (closes : ClosesAtEnd fallback) (absent : environment.raw? (named key) = none) :
    environment.expandOnce (reference key (some fallback)).written = fallback := by
  obtain ⟨cut, braces, uncut, rfl⟩ := closes
  have same : (reference key (some (cut ++ List.replicate braces '\x7d'))).written =
      (reference key (some cut)).written ++ List.replicate braces '\x7d' := by
    simp [TemplatePart.written, ← List.replicate_succ, List.replicate_succ']
  have literal : IsLiteral (List.replicate braces '\x7d') := isLiteral_of_not_mem (by simp)
  rw [same, expandOnce_default isKey uncut, expandOnce_of_literal literal, expansion_reference,
    absent]

/-- A value stays in the place of a reference if no reference opens in the text that it makes. -/
theorem expand_default_of_held (isKey : key ≠ [] ∧ ∀ c ∈ key, isKeyChar c = true)
    (uncut : '\x7d' ∉ fallback) {value : String} (held : environment.raw? (named key) = some value)
    (literal : IsLiteral (lead ++ value.toList ++ trail)) (rounds : Nat) :
    environment.expand (rounds + 1) (lead ++ (reference key (some fallback)).written ++ trail) =
      lead ++ value.toList ++ trail := by
  have before : IsLiteral lead :=
    literal.of_infix
      ((List.prefix_append lead _).isInfix.trans (List.prefix_append _ trail).isInfix)
  have behind : IsLiteral trail := literal.of_infix (List.suffix_append _ trail).isInfix
  have begins : ((reference key (some fallback)).written ++ trail).head? ≠ some '\x7b' := by
    simp [TemplatePart.written]
  have once : environment.expandOnce (lead ++ ((reference key (some fallback)).written ++ trail)) =
      lead ++ (value.toList ++ trail) := by
    rw [expandOnce, read_append_of_literal before fun _ => begins, fill_append, fill_map_literal]
    change _ ++ environment.expandOnce _ = _
    rw [expandOnce_default isKey uncut, expandOnce_of_literal behind, expansion_reference, held]
  rw [expand_eq_iterate, Function.iterate_succ_apply, List.append_assoc, once, ← List.append_assoc,
    ← expand_eq_iterate, expand_of_literal literal]

/-- What becomes of a default with references in a literal text. A value of the key stands in the
place of a default without references, if it leaves the text literal. If the key is undefined, the
default stands there, with one round less left for it; that is how it is resolved by itself exactly
if its eighth round changes nothing. -/
theorem resolve_nested_default (environment : Environment)
    (isKey : key ≠ [] ∧ ∀ c ∈ key, isKeyChar c = true) :
    let resolved := environment.resolve
      (String.ofList (lead ++ (reference key (some fallback)).written ++ trail))
    let within (middle : List Char) := String.ofList (lead ++ middle ++ trail)
    (∀ value, environment.raw? (named key) = some value → '\x7d' ∉ fallback →
      IsLiteral (lead ++ value.toList ++ trail) → resolved = within value.toList) ∧
    (environment.raw? (named key) = none → ClosesAtEnd fallback →
      IsLiteral lead → lead.getLast? ≠ some '$' → '\x7d' ∉ trail →
      resolved = within (environment.expand (maxRounds - 1) fallback) ∧
      (resolved = within (environment.resolve (String.ofList fallback)).toList ↔
        environment.expandOnce (environment.expand (maxRounds - 1) fallback) =
          environment.expand (maxRounds - 1) fallback)) := by
  intro resolved within
  refine ⟨fun value held uncut literal => ?_, fun absent closes literal apart unclosed => ?_⟩
  · simp only [resolved, within, resolve, String.toList_ofList]
    exact congrArg String.ofList
      (expand_default_of_held isKey uncut held literal (maxRounds - 1))
  · have around : resolved =
        within (environment.expand maxRounds (reference key (some fallback)).written) := by
      simp only [resolved, within, resolve, String.toList_ofList]
      rw [expand_surrounded literal apart unclosed]
    have begins : resolved = within (environment.expand (maxRounds - 1) fallback) := by
      rw [around, expand_eq_iterate, maxRounds, Function.iterate_succ_apply,
        expandOnce_default_of_absent isKey closes absent, expand_eq_iterate]
    have eighth : (environment.resolve (String.ofList fallback)).toList =
        environment.expandOnce (environment.expand (maxRounds - 1) fallback) := by
      rw [resolve, String.toList_ofList, String.toList_ofList, expand_eq_iterate, expand_eq_iterate,
        maxRounds, Function.iterate_succ_apply']
    refine ⟨begins, ?_⟩
    rw [begins, eighth]
    simp only [within, String.ofList_inj, List.append_cancel_right_eq, List.append_cancel_left_eq]
    exact eq_comm

/-- A host, and a value that opens a reference to it. -/
def hosting : Environment where
  kind := .standard
  sources := [{ name := "hosts",
                properties := .ofList [("host", "db"), ("open", "$\x7bhost")] }]

/-- A default is resolved in the place of an undefined key, whatever stands around it, and left out
for a defined one. -/
theorem resolve_nested_default_host :
    hosting.resolve "to $\x7bhost:none\x7d!" = "to db!" ∧
      hosting.resolve "to $\x7bu:$\x7bhost\x7d\x7d!" = "to db!" := by
  have isKey : (['u'] ≠ [] ∧ ∀ c ∈ ['u'], isKeyChar c = true) ∧
      "host".toList ≠ [] ∧ ∀ c ∈ "host".toList, isKeyChar c = true := by simp [isKeyChar]
  have held : hosting.raw? (named "host".toList) = some "db" := by decide
  have absent : hosting.raw? (named ['u']) = none := by decide
  have closes : ClosesAtEnd "$\x7bhost\x7d".toList := ⟨"$\x7bhost".toList, 1, by decide, by decide⟩
  have literal : IsLiteral ("to ".toList ++ "db".toList ++ ['!']) := by decide
  constructor
  · have resolved := (resolve_nested_default hosting isKey.2).1 "db" held
      (by decide : '\x7d' ∉ "none".toList) literal
    exact resolved
  · have resolved := ((resolve_nested_default hosting isKey.1).2 absent closes
      (by decide : IsLiteral "to ".toList) (by decide) (by decide : '\x7d' ∉ ['!'])).1
    have value : hosting.expand (maxRounds - 1) "$\x7bhost\x7d".toList = "db".toList := by
      decide +kernel
    rw [value] at resolved
    exact resolved

/-- Defaults of an undefined key, one in the other, around a text of one letter. -/
def nested : Nat → List Char
  | 0 => ['d']
  | depth + 1 => (reference ['u'] (some (nested depth))).written

/-- A default in the place of a defined key is torn at its first closing brace; eight rounds do not
come to the end of nine defaults, while they do of the eight in the outermost of them; and a brace
behind a reference closes what a value of its default opens. -/
theorem nested_default_cut :
    hosting.resolve "to $\x7bhost:$\x7bother\x7d\x7d!" = "to db\x7d!" ∧
      hosting.resolve (String.ofList (nested 8)) = "d" ∧
      hosting.resolve (String.ofList (nested 9)) = "$\x7bu:d\x7d" ∧
      hosting.resolve "$\x7bopen\x7d" = "$\x7bhost" ∧
      hosting.resolve "$\x7bu:$\x7bopen\x7d\x7d\x7d" = "db" := by
  decide +kernel

end Environment

end Launchpad
