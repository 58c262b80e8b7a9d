import Launchpad.Environment.Basic
import Mathlib.Logic.Function.Iterate

/-!
# References and their expansion

References are replaced in rounds over the whole text, and a round knows nothing of the one before.
`Environment.Expands` is the law that the rounds are to meet: a text is expanded by recursion over
its parts, and the value of a defined key is expanded before it is put in place of a reference.

The two agree on well-formed templates. Such a template is read back as it was written, so a round
on its text is a round on its parts (`expandOnce_written`), and a template that is put in place of a
reference is well formed again. What is left is counting: the chains of references become shorter by
one with each round, and the last reference of a chain counts too if it is replaced by a default.
-/

namespace Launchpad

/-- The characters that stand for themselves in every place of a template. -/
def IsOrdinary (c : Char) : Prop := c ≠ '$' ∧ c ≠ '\x7b' ∧ c ≠ '\x7d'

instance (c : Char) : Decidable (IsOrdinary c) := inferInstanceAs (Decidable (_ ∧ _ ∧ _))

/-- A part that is read as it was written, whatever stands next to it. -/
def TemplatePart.WellFormed : TemplatePart → Prop
  | literal c => IsOrdinary c
  | reference key fallback =>
    key ≠ [] ∧ (∀ c ∈ key, IsOrdinary c ∧ c ≠ ':') ∧ ∀ text ∈ fallback, ∀ c ∈ text, IsOrdinary c

namespace Template

/-- A template whose parts are well formed. -/
def WellFormed (template : Template) : Prop := ∀ part ∈ template, part.WellFormed

variable {template : Template} {part : TemplatePart}

theorem wellFormed_nil : WellFormed [] := nofun

/-- A template is well formed if all of its parts are. -/
@[simp] theorem wellFormed_cons :
    WellFormed (part :: template) ↔ part.WellFormed ∧ template.WellFormed := by
  simp [WellFormed]

@[simp] theorem written_nil : written [] = [] := rfl

/-- What is written for a template is written part by part. -/
@[simp] theorem written_cons :
    written (part :: template) = part.written ++ written template := rfl

/-- Templates one after the other are written one after the other. -/
@[simp] theorem written_append (template more : Template) :
    written (template ++ more) = written template ++ written more := List.flatMap_append

/-- A template of literals is written as its text. -/
@[simp] theorem written_map_literal (text : List Char) : written (text.map .literal) = text := by
  induction text with
  | nil => rfl
  | cons c rest ih => simp [TemplatePart.written, ih]

/-- Whatever is no dollar sign is read as a literal. -/
theorem read_literal {c : Char} (ordinary : c ≠ '$') (text : List Char) :
    read (c :: text) = .literal c :: read text := by
  rw [read]
  intro _ dollar
  contradiction

/-- A well-formed reference is read up to its closing brace and no further. -/
theorem reference?_written {key : List Char} {fallback : Option (List Char)}
    (formed : (TemplatePart.reference key fallback).WellFormed) (rest : List Char) :
    ∃ text, (TemplatePart.reference key fallback).written ++ rest = '$' :: '\x7b' :: text ∧
      reference? text = some (.reference key fallback, rest) := by
  obtain ⟨some, named, ordinary⟩ := formed
  have isKey : ∀ c ∈ key, isKeyChar c = true := by
    intro c among
    simp [isKeyChar, (named c among).1.2.2, (named c among).2]
  obtain ⟨c, more, rfl⟩ := List.exists_cons_of_ne_nil some
  cases fallback with
  | none =>
    refine ⟨(c :: more) ++ '\x7d' :: rest, by simp [TemplatePart.written], ?_⟩
    unfold reference?
    rw [List.takeWhile_append_of_pos isKey, List.dropWhile_append_of_pos isKey]
    simp [isKeyChar]
  | some text =>
    have inside : ∀ c ∈ text, (c != '\x7d') = true := by
      intro c among
      simp [(ordinary text rfl c among).2.2]
    refine ⟨(c :: more) ++ ':' :: (text ++ '\x7d' :: rest), by simp [TemplatePart.written], ?_⟩
    unfold reference?
    rw [List.takeWhile_append_of_pos isKey, List.dropWhile_append_of_pos isKey]
    simp [isKeyChar, List.takeWhile_append_of_pos inside, List.dropWhile_append_of_pos inside]

/-- A well-formed template is read back from its text. -/
theorem read_written (formed : template.WellFormed) : read template.written = template := by
  induction template with
  | nil => rw [written_nil, read]
  | cons part rest ih =>
    obtain ⟨here, later⟩ := wellFormed_cons.1 formed
    rw [written_cons]
    cases part with
    | literal c =>
      rw [TemplatePart.written, List.singleton_append, read_literal here.1, ih later]
    | reference key fallback =>
      obtain ⟨text, same, found⟩ := reference?_written here (written rest)
      rw [same, read]
      split
      · rename_i part' rest' found'
        rw [found] at found'
        simp only [Option.some.injEq, Prod.mk.injEq] at found'
        obtain ⟨rfl, rfl⟩ := found'
        rw [ih later]
      · rename_i missing
        rw [found] at missing
        contradiction

/-- Well-formed templates of one text are the same. -/
theorem written_inj {other : Template} (formed : template.WellFormed)
    (formed' : other.WellFormed) (same : template.written = other.written) : template = other := by
  rw [← read_written formed, same, read_written formed']

end Template

namespace Environment

open TemplatePart Template

/-- The name that a reference looks up. -/
def named (key : List Char) : String := String.ofList (Text.trimChars key)

/-- Expansion by recursion. A literal stands for itself, a reference to a defined key for the
expansion of the value, and a reference to any other key for its default or, without one, for
itself. -/
inductive Expands (environment : Environment) : Template → List Char → Prop
  | nil : Expands environment [] []
  | literal {c rest text} (later : Expands environment rest text) :
      Expands environment (literal c :: rest) (c :: text)
  | defined {key fallback value inner expanded rest text}
      (held : environment.raw? (named key) = some value)
      (formed : inner.WellFormed) (same : value.toList = inner.written)
      (within : Expands environment inner expanded) (later : Expands environment rest text) :
      Expands environment (reference key fallback :: rest) (expanded ++ text)
  | default {key fallback rest text} (absent : environment.raw? (named key) = none)
      (later : Expands environment rest text) :
      Expands environment (reference key (some fallback) :: rest) (fallback ++ text)
  | kept {key rest text} (absent : environment.raw? (named key) = none)
      (later : Expands environment rest text) :
      Expands environment (reference key none :: rest) ((reference key none).written ++ text)

/-- A chain of references, each in the value of the key before: the keys, all of which are defined,
and the template in the value of the last one. -/
inductive Chain (environment : Environment) : Template → List String → Template → Prop
  | stop {template} : Chain environment template [] template
  | through {template key fallback value inner keys last}
      (among : reference key fallback ∈ template)
      (held : environment.raw? (named key) = some value)
      (formed : inner.WellFormed) (same : value.toList = inner.written)
      (onward : Chain environment inner keys last) :
      Chain environment template (named key :: keys) last

variable {environment : Environment} {template : Template}

/-- A template expands to one text at most. -/
theorem Expands.unique {text other : List Char} (first : Expands environment template text)
    (second : Expands environment template other) : text = other := by
  induction first generalizing other with
  | nil =>
    cases second
    rfl
  | literal _ ih =>
    cases second with
    | literal later => rw [ih later]
  | defined held formed same _ _ ih ih' =>
    cases second with
    | defined held' formed' same' within' later' =>
      rw [held, Option.some.injEq] at held'
      have inner := written_inj formed formed' (same.symm.trans (held' ▸ same'))
      subst inner
      rw [ih within', ih' later']
    | default absent => simp [held] at absent
    | kept absent => simp [held] at absent
  | default absent _ ih =>
    cases second with
    | defined held => simp [held] at absent
    | default _ later => rw [ih later]
  | kept absent _ ih =>
    cases second with
    | defined held => simp [held] at absent
    | kept _ later => rw [ih later]

/-- Templates one after the other expand one after the other. -/
theorem Expands.append {more : Template} {text text' : List Char}
    (first : Expands environment template text) (second : Expands environment more text') :
    Expands environment (template ++ more) (text ++ text') := by
  induction first with
  | nil => exact second
  | literal _ ih => exact ih.literal
  | defined held formed same within _ _ ih =>
    rw [List.append_assoc]
    exact .defined held formed same within ih
  | default absent _ ih =>
    rw [List.append_assoc]
    exact ih.default absent
  | kept absent _ ih =>
    rw [List.append_assoc]
    exact ih.kept absent

/-- What a round puts in the place of a part. -/
def replaced (environment : Environment) : TemplatePart → Template
  | .literal c => [.literal c]
  | .reference key fallback =>
    match environment.raw? (named key), fallback with
    | some value, _ => read value.toList
    | none, some text => text.map .literal
    | none, none => [.reference key none]

/-- A round on the parts of a template. -/
def round (environment : Environment) (template : Template) : Template :=
  template.flatMap environment.replaced

/-- A reference stands for the value of its key, or for its default, or for itself. -/
theorem expansion_reference (key : List Char) (fallback : Option (List Char)) :
    environment.expansion (.reference key fallback) =
      match environment.raw? (named key), fallback with
      | some value, _ => value.toList
      | none, some text => text
      | none, none => (TemplatePart.reference key none).written := rfl

/-- What stands in the place of a part after a round is what the part expands to. -/
theorem written_replaced (part : TemplatePart) :
    written (environment.replaced part) = environment.expansion part := by
  cases part with
  | literal c => rfl
  | reference key fallback =>
    simp only [replaced, expansion_reference]
    cases environment.raw? (named key) with
    | some value => exact written_read value.toList
    | none => cases fallback <;> simp

/-- A round writes each part as what it expands to. -/
theorem written_round (template : Template) :
    written (environment.round template) = template.fill environment.expansion := by
  induction template with
  | nil => rfl
  | cons part rest ih =>
    simp only [round, fill, List.flatMap_cons, written_append, written_replaced] at ih ⊢
    rw [ih]

/-- On the text of a well-formed template a round is a round on its parts. -/
theorem expandOnce_written (formed : template.WellFormed) :
    environment.expandOnce template.written = (environment.round template).written := by
  rw [expandOnce, read_written formed, written_round]

/-- A round works on each part by itself. -/
theorem round_append (template more : Template) :
    environment.round (template ++ more) = environment.round template ++ environment.round more :=
  List.flatMap_append

/-- A round leaves literals alone. -/
theorem round_map_literal (text : List Char) :
    environment.round (text.map .literal) = text.map .literal := by
  rw [round, List.flatMap_map]
  exact List.map_eq_flatMap.symm

/-- Any number of rounds works on each part by itself. -/
theorem iterate_round_append (rounds : Nat) (template more : Template) :
    environment.round^[rounds] (template ++ more) =
      environment.round^[rounds] template ++ environment.round^[rounds] more := by
  induction rounds generalizing template more with
  | zero => rfl
  | succ rounds ih => rw [Function.iterate_succ_apply, round_append, ih]; rfl

/-- A part that is expanded by the given number of rounds at most. -/
inductive Shallow (environment : Environment) : Nat → TemplatePart → Prop
  | literal {rounds c} (ordinary : IsOrdinary c) : Shallow environment rounds (literal c)
  | kept {rounds key} (formed : (reference key none).WellFormed)
      (absent : environment.raw? (named key) = none) :
      Shallow environment rounds (reference key none)
  | default {rounds key text} (formed : (reference key (some text)).WellFormed)
      (absent : environment.raw? (named key) = none) :
      Shallow environment (rounds + 1) (reference key (some text))
  | defined {rounds key fallback value} {inner : Template}
      (formed : (reference key fallback).WellFormed)
      (held : environment.raw? (named key) = some value) (same : value.toList = inner.written)
      (within : ∀ part ∈ inner, Shallow environment rounds part) :
      Shallow environment (rounds + 1) (reference key fallback)

namespace Shallow

variable {part : TemplatePart} {rounds : Nat}

/-- A part of limited depth is well formed. -/
theorem wellFormed (shallow : Shallow environment rounds part) : part.WellFormed := by
  cases shallow <;> assumption

/-- A round makes a part less deep by one. -/
theorem replaced (shallow : Shallow environment (rounds + 1) part) :
    ∀ other ∈ environment.replaced part, Shallow environment rounds other := by
  cases shallow with
  | literal ordinary => simp [Environment.replaced, literal ordinary]
  | kept formed absent => simp [Environment.replaced, absent, kept formed absent]
  | default formed absent =>
    intro other among
    simp only [Environment.replaced, absent, List.mem_map] at among
    obtain ⟨c, inText, rfl⟩ := among
    exact literal (formed.2.2 _ rfl c inText)
  | defined formed held same within =>
    have formed' : Template.WellFormed _ := fun part among => (within part among).wellFormed
    simpa [Environment.replaced, held, same, read_written formed'] using within

/-- A round makes a whole template less deep by one. -/
theorem round (shallow : ∀ part ∈ template, Shallow environment (rounds + 1) part) :
    ∀ part ∈ environment.round template, Shallow environment rounds part := by
  intro part among
  obtain ⟨origin, before, after⟩ := List.mem_flatMap.1 among
  exact (shallow origin before).replaced part after

end Shallow

/-- The rounds on the text of a shallow template are rounds on its parts. A round that changes
nothing leaves nothing for a later one to do. -/
theorem expand_written {rounds : Nat}
    (shallow : ∀ part ∈ template, Shallow environment rounds part) :
    environment.expand rounds template.written = written (environment.round^[rounds] template) := by
  induction rounds generalizing template with
  | zero => rfl
  | succ rounds ih =>
    have formed : template.WellFormed := fun part among => (shallow part among).wellFormed
    have later := Shallow.round shallow
    have formed' : (environment.round template).WellFormed :=
      fun part among => (later part among).wellFormed
    rw [expand, expandOnce_written formed]
    split
    · rename_i unchanged
      have fixed := written_inj formed' formed unchanged
      rw [Function.iterate_fixed fixed]
    · rw [ih later, Function.iterate_succ_apply]

/-- The template is the expansion of another one: nothing in it can be replaced. -/
structure Expanded (environment : Environment) (template result : Template) : Prop where
  formed : result.WellFormed
  law : Expands environment template result.written
  settled : ∀ key fallback, reference key fallback ∈ result → environment.raw? (named key) = none

namespace Expanded

/-- Nothing is left to expand in the empty template. -/
theorem nil : Expanded environment [] [] where
  formed := wellFormed_nil
  law := .nil
  settled := nofun

/-- Templates that are expanded stay so one after the other. -/
theorem append {more result result' : Template} (first : Expanded environment template result)
    (second : Expanded environment more result') :
    Expanded environment (template ++ more) (result ++ result') where
  formed part among := by
    rcases List.mem_append.1 among with here | there
    · exact first.formed part here
    · exact second.formed part there
  law := by
    rw [written_append]
    exact first.law.append second.law
  settled key fallback among := by
    rcases List.mem_append.1 among with here | there
    · exact first.settled key fallback here
    · exact second.settled key fallback there

/-- A template is expanded when each of its parts is. -/
theorem of_parts {rounds : Nat}
    (each : ∀ part ∈ template, Expanded environment [part] (environment.round^[rounds] [part])) :
    Expanded environment template (environment.round^[rounds] template) := by
  induction template with
  | nil =>
    rw [Function.iterate_fixed rfl]
    exact nil
  | cons part rest ih =>
    have later := ih fun other among => each other (List.mem_cons_of_mem part among)
    have here := each part List.mem_cons_self
    rw [← List.singleton_append, iterate_round_append]
    exact here.append later

end Expanded

/-- As many rounds as a part is deep expand it. -/
theorem Shallow.expanded {rounds : Nat} {part : TemplatePart}
    (shallow : Shallow environment rounds part) :
    Expanded environment [part] (environment.round^[rounds] [part]) := by
  induction shallow with
  | literal ordinary =>
    rw [Function.iterate_fixed rfl]
    exact ⟨wellFormed_cons.2 ⟨ordinary, wellFormed_nil⟩, .literal .nil, by simp⟩
  | kept formed absent =>
    rw [Function.iterate_fixed (by simp [Environment.round, Environment.replaced, absent])]
    exact ⟨wellFormed_cons.2 ⟨formed, wellFormed_nil⟩, .kept absent .nil, by simpa using absent⟩
  | @default _ key text formed absent =>
    have once : environment.round [reference key (some text)] = text.map .literal := by
      simp [Environment.round, Environment.replaced, absent]
    rw [Function.iterate_succ_apply, once, Function.iterate_fixed (round_map_literal text)]
    refine ⟨?_, by simpa using Expands.default absent .nil, by simp⟩
    intro part among
    obtain ⟨c, inText, rfl⟩ := List.mem_map.1 among
    exact formed.2.2 text rfl c inText
  | @defined _ key fallback value inner formed held same within ih =>
    have formed' : inner.WellFormed := fun part among => (within part among).wellFormed
    have once : environment.round [reference key fallback] = inner := by
      simp [Environment.round, Environment.replaced, held, same, read_written formed']
    rw [Function.iterate_succ_apply, once]
    have expanded := Expanded.of_parts ih
    have law : Expands environment [reference key fallback] _ :=
      .defined held formed' same expanded.law .nil
    exact ⟨expanded.formed, by simpa using law, expanded.settled⟩

/-- Every value that a chain of references from the template comes to is well formed. -/
def TemplatesWithin (environment : Environment) (template : Template) : Prop :=
  ∀ keys last key fallback value, Chain environment template keys last →
    reference key fallback ∈ last → environment.raw? (named key) = some value →
    ∃ inner : Template, inner.WellFormed ∧ value.toList = inner.written

/-- No chain of references from the template has more than `most` keys. -/
def ChainsWithin (environment : Environment) (template : Template) (most : Nat) : Prop :=
  ∀ keys last, Chain environment template keys last → keys.length ≤ most

/-- No chain of references from the template that ends in an undefined key with a default has more
than `most` keys, that key counted. -/
def DefaultsWithin (environment : Environment) (template : Template) (most : Nat) : Prop :=
  ∀ keys last key text, Chain environment template keys last →
    reference key (some text) ∈ last → environment.raw? (named key) = none → keys.length < most

/-- The depth of a template is at most the length of its chains of keys. -/
theorem shallow_of_chains {most : Nat} (formed : template.WellFormed)
    (values : TemplatesWithin environment template)
    (chains : ChainsWithin environment template most)
    (defaults : DefaultsWithin environment template most) :
    ∀ part ∈ template, Shallow environment most part := by
  induction most generalizing template with
  | zero =>
    intro part among
    have formed' := formed part among
    cases part with
    | literal c => exact .literal formed'
    | reference key fallback =>
      cases held : environment.raw? (named key) with
      | some value =>
        obtain ⟨inner, innerFormed, same⟩ := values _ _ _ _ _ .stop among held
        have long := chains _ _ (.through among held innerFormed same .stop)
        simp at long
      | none =>
        cases fallback with
        | none => exact .kept formed' held
        | some text =>
          have short := defaults _ _ _ _ .stop among held
          simp at short
  -- Chains through the value of the reference are shorter by one than those from the reference.
  | succ most ih =>
    intro part among
    have formed' := formed part among
    cases part with
    | literal c => exact .literal formed'
    | reference key fallback =>
      cases held : environment.raw? (named key) with
      | some value =>
        obtain ⟨inner, innerFormed, same⟩ := values _ _ _ _ _ .stop among held
        have onward {keys last} (chain : Chain environment inner keys last) :=
          Chain.through among held innerFormed same chain
        refine .defined formed' held same (ih innerFormed ?_ ?_ ?_)
        · intro keys last _ _ _ chain
          exact values _ _ _ _ _ (onward chain)
        · intro keys last chain
          have short := chains _ _ (onward chain)
          simpa using short
        · intro keys last _ _ chain inLast absent
          have short := defaults _ _ _ _ (onward chain) inLast absent
          simpa using short
      | none =>
        cases fallback with
        | none => exact .kept formed' held
        | some text => exact .default formed' held

/-- A chain from a single reference to a defined key goes on in its value. -/
theorem chain_reference_iff {key : List Char} {fallback : Option (List Char)} {inner : Template}
    {keys : List String} {last : Template}
    (held : environment.raw? (named key) = some (String.ofList inner.written))
    (formed : inner.WellFormed) :
    Chain environment [reference key fallback] keys last ↔
      (keys = [] ∧ last = [reference key fallback]) ∨
        ∃ onward, keys = named key :: onward ∧ Chain environment inner onward last := by
  constructor
  · intro chain
    cases chain with
    | stop => exact .inl ⟨rfl, rfl⟩
    | @through _ key' fallback' value inner' onward _ among held' formed' same chain =>
      simp only [List.mem_singleton, reference.injEq] at among
      obtain ⟨rfl, rfl⟩ := among
      rw [held, Option.some.injEq] at held'
      subst held'
      rw [String.toList_ofList] at same
      cases written_inj formed formed' same
      exact .inr ⟨onward, rfl, chain⟩
  · rintro (⟨rfl, rfl⟩ | ⟨onward, rfl, chain⟩)
    · exact .stop
    · exact .through (List.mem_singleton.2 rfl) held formed (String.toList_ofList ..) chain

/-- A round puts the value of a defined key in the place of a reference. -/
theorem expand_reference {key text : List Char} {fallback : Option (List Char)} (rounds : Nat)
    (formed : WellFormed [reference key fallback])
    (held : environment.raw? (named key) = some (String.ofList text))
    (differs : text ≠ written [reference key fallback]) :
    environment.expand (rounds + 1) (written [reference key fallback]) =
      environment.expand rounds text := by
  have once : environment.expandOnce (written [reference key fallback]) = text := by
    rw [expandOnce, read_written formed]
    simp [fill, expansion_reference, held]
  rw [expand, once, if_neg differs]

/-- A reference to one of eight keys. -/
def rung (n : Nat) : TemplatePart := reference ['k', Nat.digitChar n] none

/-- An environment with a chain of eight keys from `k7` down to `k0`, the value of which is
`bottom`. -/
def ladder (bottom : Template) : Environment where
  kind := .standard
  sources := [{
    name := "ladder"
    properties := .ofList [("k7", "$\x7bk6\x7d"), ("k6", "$\x7bk5\x7d"), ("k5", "$\x7bk4\x7d"),
      ("k4", "$\x7bk3\x7d"), ("k3", "$\x7bk2\x7d"), ("k2", "$\x7bk1\x7d"),
      ("k1", "$\x7bk0\x7d"), ("k0", String.ofList bottom.written)] }]

section

variable {bottom : Template} {n : Nat}

/-- A rung is well formed. -/
theorem wellFormed_rung (below : n < 8) : WellFormed [rung n] := by
  have digit := (by decide : ∀ n < 8, IsOrdinary (Nat.digitChar n) ∧ Nat.digitChar n ≠ ':') n below
  have letter : IsOrdinary 'k' ∧ 'k' ≠ ':' := by decide
  simp [rung, TemplatePart.WellFormed, wellFormed_nil, digit, letter]

/-- What stands at the bottom of a ladder is seen under its first key only. -/
theorem raw?_ladder (bottom : Template) (key : String) : (ladder bottom).raw? key =
    if key = "k0" then some (String.ofList bottom.written) else (ladder []).raw? key := by
  by_cases first : key = "k0" <;>
    simp [ladder, raw?, PropertySource.get?, Properties.ofList, first]

/-- The first key of a ladder holds what stands at its bottom. -/
theorem raw?_ladder_zero :
    (ladder bottom).raw? (named ['k', Nat.digitChar 0]) = some (String.ofList bottom.written) := by
  rw [raw?_ladder, if_pos (by decide)]

/-- Every other key of a ladder refers to the one before. -/
theorem raw?_ladder_succ (below : n + 1 < 8) :
    (ladder bottom).raw? (named ['k', Nat.digitChar (n + 1)]) =
      some (String.ofList (written [rung n])) := by
  have held : ∀ n < 7, named ['k', Nat.digitChar (n + 1)] ≠ "k0" ∧
      (ladder []).raw? (named ['k', Nat.digitChar (n + 1)]) =
        some (String.ofList (written [rung n])) := by
    decide
  have small := Nat.lt_of_succ_lt_succ below
  rw [raw?_ladder, if_neg (held n small).1, (held n small).2]

/-- What stands on the bottom is what a rung expands to. -/
theorem expands_ladder (formed : bottom.WellFormed) {text : List Char}
    (law : Expands (ladder bottom) bottom text) (below : n < 8) :
    Expands (ladder bottom) [rung n] text := by
  rw [← List.append_nil text]
  induction n with
  | zero => exact .defined raw?_ladder_zero formed (String.toList_ofList ..) law .nil
  | succ n ih =>
    have below' := Nat.lt_of_succ_lt below
    have inner := ih below'
    rw [List.append_nil] at inner
    exact .defined (raw?_ladder_succ below) (wellFormed_rung below')
      (String.toList_ofList ..) inner .nil

/-- A round takes one rung. -/
theorem expand_ladder (other : bottom.written ≠ written [rung 0]) (below : n < 8) :
    (ladder bottom).expand (n + 1) (written [rung n]) = bottom.written := by
  induction n with
  | zero => exact expand_reference 0 (wellFormed_rung below) raw?_ladder_zero other
  | succ n ih =>
    have below' := Nat.lt_of_succ_lt below
    have differs := (by decide : ∀ n < 7, written [rung n] ≠ written [rung (n + 1)]) n
      (Nat.lt_of_succ_lt_succ below)
    have held : (ladder bottom).raw? _ = _ := raw?_ladder_succ below
    have once := expand_reference (n + 1) (wellFormed_rung below) held differs
    exact once.trans (ih below')

variable (formed : bottom.WellFormed) (dead : ∀ key fallback, reference key fallback ∈ bottom →
  (ladder bottom).raw? (named key) = none)

include formed dead

/-- A chain on the ladder stops on a rung or at the bottom. -/
theorem chain_ladder (below : n < 8) {keys : List String} {last : Template}
    (chain : Chain (ladder bottom) [rung n] keys last) :
    (∃ m < 8, keys.length ≤ n ∧ last = [rung m]) ∨ (keys.length = n + 1 ∧ last = bottom) := by
  induction n generalizing keys with
  | zero =>
    rcases (chain_reference_iff raw?_ladder_zero formed).1 chain with
      ⟨rfl, rfl⟩ | ⟨onward, rfl, inner⟩
    · exact .inl ⟨0, below, by simp, rfl⟩
    · cases inner with
      | stop => exact .inr ⟨rfl, rfl⟩
      | through among held => simp [dead _ _ among] at held
  | succ n ih =>
    have below' := Nat.lt_of_succ_lt below
    rcases (chain_reference_iff (raw?_ladder_succ below) (wellFormed_rung below')).1 chain with
      ⟨rfl, rfl⟩ | ⟨onward, rfl, inner⟩
    · exact .inl ⟨n + 1, below, by simp, rfl⟩
    · rcases ih below' inner with ⟨m, small, short, stops⟩ | ⟨long, stops⟩
      · exact .inl ⟨m, small, by simpa using short, stops⟩
      · exact .inr ⟨by simpa using long, stops⟩

/-- The values of a ladder are templates. -/
theorem templatesWithin_ladder : TemplatesWithin (ladder bottom) [rung 7] := by
  intro keys last key fallback value chain among held
  rcases chain_ladder formed dead (by decide) chain with ⟨m, small, -, rfl⟩ | ⟨-, rfl⟩
  · simp only [rung, List.mem_singleton, reference.injEq] at among
    obtain ⟨rfl, rfl⟩ := among
    cases m with
    | zero =>
      rw [raw?_ladder_zero, Option.some.injEq] at held
      exact ⟨bottom, formed, by simp [← held]⟩
    | succ m =>
      rw [raw?_ladder_succ small, Option.some.injEq] at held
      exact ⟨[rung m], wellFormed_rung (Nat.lt_of_succ_lt small), by simp [← held]⟩
  · simp [dead _ _ among] at held

/-- No chain of keys on a ladder is longer than eight. -/
theorem chainsWithin_ladder : ChainsWithin (ladder bottom) [rung 7] 8 := by
  intro keys last chain
  rcases chain_ladder formed dead (by decide) chain with ⟨-, -, short, -⟩ | ⟨long, -⟩ <;> omega

end

/-- Resolving references agrees with expansion by recursion. -/
theorem resolve_eq_expansion (environment : Environment) (template : Template)
    (formed : template.WellFormed) (values : TemplatesWithin environment template)
    (chains : ChainsWithin environment template 8)
    (defaults : DefaultsWithin environment template 8) :
    ∃ expanded, Expands environment template expanded ∧
      (∀ other, Expands environment template other → other = expanded) ∧
      environment.resolve (String.ofList template.written) = String.ofList expanded ∧
      ∀ key fallback, reference key fallback ∈ Template.read expanded →
        environment.raw? (named key) = none := by
  have shallow := shallow_of_chains formed values chains defaults
  have result := Expanded.of_parts fun part among => (shallow part among).expanded
  refine ⟨_, result.law, fun other law => law.unique result.law, ?_, ?_⟩
  · rw [resolve, String.toList_ofList, maxRounds, expand_written shallow]
  · rw [read_written result.formed]
    exact result.settled

/-- A chain of eight keys is not too long. -/
theorem resolve_ladder : Expands (ladder [.literal 'e']) [rung 7] ['e'] ∧
    (ladder [.literal 'e']).resolve (String.ofList (written [rung 7])) = "e" := by
  have formed : Template.WellFormed [.literal 'e'] :=
    wellFormed_cons.2 ⟨(by decide : IsOrdinary 'e'), wellFormed_nil⟩
  have dead : ∀ key fallback, reference key fallback ∈ [TemplatePart.literal 'e'] →
      (ladder [.literal 'e']).raw? (named key) = none := by
    simp
  have law := expands_ladder (n := 7) formed (.literal .nil) (by decide)
  obtain ⟨expanded, -, unique, same, -⟩ := resolve_eq_expansion (ladder [.literal 'e']) [rung 7]
    (wellFormed_rung (by decide)) (templatesWithin_ladder formed dead)
    (chainsWithin_ladder formed dead) (by
      intro keys last key text chain among
      rcases chain_ladder formed dead (by decide) chain with ⟨_, -, -, rfl⟩ | ⟨-, rfl⟩ <;>
        simp [rung] at among)
  rw [← unique _ law] at same
  exact ⟨law, same⟩

/-- The defaults have to be counted: on a ladder of eight keys that ends in a reference with a
default, the default is due in a ninth round. -/
theorem default_left_after_eight_keys :
    let environment := ladder [reference ['u'] (some ['d'])]
    WellFormed [rung 7] ∧ TemplatesWithin environment [rung 7] ∧
      ChainsWithin environment [rung 7] 8 ∧ Expands environment [rung 7] ['d'] ∧
      environment.resolve (String.ofList (written [rung 7])) = "$\x7bu:d\x7d" := by
  intro environment
  have formed : Template.WellFormed [reference ['u'] (some ['d'])] := by
    simp [TemplatePart.WellFormed, wellFormed_nil, IsOrdinary]
  have absent : environment.raw? (named ['u']) = none := by decide
  have dead : ∀ key fallback, reference key fallback ∈ [reference ['u'] (some ['d'])] →
      environment.raw? (named key) = none := by
    intro key fallback among
    simp only [List.mem_singleton, reference.injEq] at among
    rw [among.1, absent]
  refine ⟨wellFormed_rung (by decide), templatesWithin_ladder formed dead,
    chainsWithin_ladder formed dead, expands_ladder formed (.default absent .nil) (by decide), ?_⟩
  rw [resolve, String.toList_ofList, maxRounds, expand_ladder (by decide) (by decide)]
  rfl

end Environment

end Launchpad
