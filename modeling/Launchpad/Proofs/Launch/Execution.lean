import Launchpad.Launch.Plan

/-!
# Paths and executions of plans

A path of a plan is what may happen while the plan is carried out: the errands that were performed
and what each of them answered. An execution is the path that is taken in a given world, together
with the world before and after every errand. Properties of all paths hold of every execution,
whatever the participants do.
-/

namespace Launchpad

/-- An errand and what came back from it. -/
structure Reply where
  errand : Errand
  answer : Except Abort errand.Answer

namespace Plan

/-- What may happen while a plan is carried out. The result is `none` if an errand did not come to
an end; nothing happens after that. -/
inductive Path {α : Type} : Plan α → List Reply → Option α → Prop where
  | done {answer : α} : Path (.done answer) [] (some answer)
  | answered {errand : Errand} {next : errand.Answer → Plan α} {answer : errand.Answer}
      {replies : List Reply} {result : Option α} (rest : Path (next answer) replies result) :
      Path (.perform errand next) (⟨errand, .ok answer⟩ :: replies) result
  | stopped {errand : Errand} {next : errand.Answer → Plan α} {abort : Abort} :
      Path (.perform errand next) [⟨errand, .error abort⟩] none

variable {α β : Type}

/-- A plan that asks for nothing has one path. -/
@[simp] theorem path_pure_iff {answer : α} {replies : List Reply} {result : Option α} :
    (pure answer : Plan α).Path replies result ↔ replies = [] ∧ result = some answer := by
  constructor
  · intro path
    cases path
    exact ⟨rfl, rfl⟩
  · rintro ⟨rfl, rfl⟩
    exact .done

/-- The single errand of a plan either answers or does not come to an end. -/
theorem path_ask_iff {errand : Errand} {replies : List Reply} {result : Option errand.Answer} :
    (ask errand).Path replies result ↔
      (∃ answer, replies = [⟨errand, .ok answer⟩] ∧ result = some answer) ∨
      ∃ abort, replies = [⟨errand, .error abort⟩] ∧ result = none := by
  constructor
  · intro path
    cases path with
    | answered rest =>
      cases rest
      exact .inl ⟨_, rfl, rfl⟩
    | stopped => exact .inr ⟨_, rfl, rfl⟩
  · rintro (⟨answer, rfl, rfl⟩ | ⟨abort, rfl, rfl⟩)
    · exact .answered .done
    · exact .stopped

/-- An errand is answered on the path of one reply. -/
theorem path_ask_some_iff {errand : Errand} {replies : List Reply} {answer : errand.Answer} :
    (ask errand).Path replies (some answer) ↔ replies = [⟨errand, .ok answer⟩] := by
  rw [path_ask_iff]
  constructor
  · rintro (⟨_, rfl, same⟩ | ⟨_, _, same⟩) <;> cases same
    rfl
  · exact fun same => .inl ⟨answer, same, rfl⟩

/-- An errand is broken off on the path of one reply. -/
theorem path_ask_none_iff {errand : Errand} {replies : List Reply} :
    (ask errand).Path replies none ↔ ∃ abort, replies = [⟨errand, .error abort⟩] := by
  simp [path_ask_iff]

/-- The paths of a plan go on with those of the plan after it. -/
theorem Path.bind {plan : Plan α} {next : α → Plan β} {answer : α} {first second : List Reply}
    {result : Option β} (path : plan.Path first (some answer))
    (rest : (next answer).Path second result) :
    (plan >>= next).Path (first ++ second) result := by
  change (Plan.bind plan next).Path (first ++ second) result
  generalize reached : some answer = reached at path
  induction path with
  | done =>
    cases reached
    exact rest
  | answered _ ih => exact .answered (ih reached)
  | stopped => cases reached

/-- What is broken off in a plan is not followed by the plan after it. -/
theorem Path.bind_none {plan : Plan α} {next : α → Plan β} {replies : List Reply}
    (path : plan.Path replies none) : (plan >>= next).Path replies none := by
  change (Plan.bind plan next).Path replies none
  generalize reached : (none : Option α) = reached at path
  induction path with
  | done => cases reached
  | answered _ ih => exact .answered (ih reached)
  | stopped => exact .stopped

/-- A path of two plans in a row stops in the first or goes through both. -/
theorem path_bind_iff {plan : Plan α} {next : α → Plan β} {replies : List Reply}
    {result : Option β} :
    (plan >>= next).Path replies result ↔
      (∃ answer first second, plan.Path first (some answer) ∧
        (next answer).Path second result ∧ replies = first ++ second) ∨
      (plan.Path replies none ∧ result = none) := by
  constructor
  · intro path
    change (Plan.bind plan next).Path replies result at path
    induction plan generalizing replies with
    | done answer => exact .inl ⟨answer, [], replies, .done, path, rfl⟩
    | perform errand rest ih =>
      cases path with
      | answered path =>
        obtain ⟨answer, first, second, before, after, rfl⟩ | ⟨before, rfl⟩ := ih _ path
        · exact .inl ⟨answer, _, second, .answered before, after, rfl⟩
        · exact .inr ⟨.answered before, rfl⟩
      | stopped => exact .inr ⟨.stopped, rfl⟩
  · rintro (⟨answer, first, second, before, after, rfl⟩ | ⟨before, rfl⟩)
    · exact before.bind after
    · exact before.bind_none

/-- A path that comes to the end of two plans in a row goes through both. -/
theorem path_bind_some_iff {plan : Plan α} {next : α → Plan β} {replies : List Reply}
    {result : β} :
    (plan >>= next).Path replies (some result) ↔
      ∃ answer first second, plan.Path first (some answer) ∧
        (next answer).Path second (some result) ∧ replies = first ++ second := by
  simp [path_bind_iff]

end Plan

/-- An errand as it was performed, in the world that it found. -/
structure Performed where
  before : World
  reply : Reply
  after : World

/-- What happened while a plan was carried out. -/
structure Execution (α : Type) where
  record : List Performed
  result : Except Abort α
  world : World

namespace Execution

variable {α : Type}

/-- The replies, in the order of the errands. -/
def replies (execution : Execution α) : List Reply := execution.record.map (·.reply)

end Execution

namespace Plan

variable {α β : Type}

/-- The execution of a plan in a world. -/
def execution (invoke : Invoker) : Plan α → World → Execution α
  | done answer, world => { record := [], result := .ok answer, world }
  | perform errand next, world =>
    match (errand.carryOut invoke).run.run world with
    | (.ok answer, after) =>
      let rest := (next answer).execution invoke after
      { rest with record := ⟨world, ⟨errand, .ok answer⟩, after⟩ :: rest.record }
    | (.error abort, after) =>
      { record := [⟨world, ⟨errand, .error abort⟩, after⟩], result := .error abort, world := after }

/-- Carrying out a plan does what its execution says. -/
theorem run_carryOut (invoke : Invoker) (plan : Plan α) (world : World) :
    (plan.carryOut invoke).run.run world =
      ((plan.execution invoke world).result, (plan.execution invoke world).world) := by
  induction plan generalizing world with
  | done answer => rfl
  | perform errand next ih =>
    have unfolded : ((perform errand next).carryOut invoke).run.run world =
        match (errand.carryOut invoke).run.run world with
        | (.ok answer, after) => ((next answer).carryOut invoke).run.run after
        | (.error abort, after) => (.error abort, after) := by
      simp only [carryOut, ExceptT.run_bind, StateT.run_bind]
      rcases (errand.carryOut invoke).run.run world with ⟨answer | abort, after⟩ <;> rfl
    rw [unfolded, execution]
    split
    · exact ih _ _
    · rfl

/-- Every execution goes along a path of the plan. -/
theorem path_execution (invoke : Invoker) (plan : Plan α) (world : World) :
    plan.Path (plan.execution invoke world).replies
      (plan.execution invoke world).result.toOption := by
  induction plan generalizing world with
  | done answer => exact .done
  | perform errand next ih =>
    rw [execution]
    split
    · exact .answered (ih _ _)
    · exact .stopped

end Plan

/-- The errands were performed one after the other between two worlds, each in the world that the
one before it left. -/
def Performed.Chain (invoke : Invoker) : World → List Performed → World → Prop
  | world, [], last => world = last
  | world, performed :: rest, last =>
    performed.before = world ∧
      (performed.reply.errand.carryOut invoke).run.run world =
        (performed.reply.answer, performed.after) ∧
      Chain invoke performed.after rest last

/-- The errand was carried out in the world that it found. -/
def Performed.Ran (invoke : Invoker) (performed : Performed) : Prop :=
  (performed.reply.errand.carryOut invoke).run.run performed.before =
    (performed.reply.answer, performed.after)

/-- Every errand of a record was carried out. -/
theorem Performed.Chain.ran {invoke : Invoker} {record : List Performed} {world last : World}
    (chain : Chain invoke world record last) : ∀ performed ∈ record, performed.Ran invoke := by
  induction record generalizing world with
  | nil => exact fun _ among => absurd among List.not_mem_nil
  | cons performed rest ih =>
    obtain ⟨rfl, carried, chain⟩ := chain
    intro other among
    obtain rfl | later := List.mem_cons.1 among
    · exact carried
    · exact ih chain other later

/-- A record that falls into two parts leads over the world between them. -/
theorem Performed.Chain.split {invoke : Invoker} {first second : List Performed}
    {world last : World} (chain : Chain invoke world (first ++ second) last) :
    ∃ between, Chain invoke world first between ∧ Chain invoke between second last := by
  induction first generalizing world with
  | nil => exact ⟨world, rfl, chain⟩
  | cons performed rest ih =>
    obtain ⟨found, carried, chain⟩ := chain
    obtain ⟨between, first, second⟩ := ih chain
    exact ⟨between, ⟨found, carried, first⟩, second⟩

/-- The record of an execution leads from the world in which it began to the one that it left. -/
theorem Plan.chain_execution {α : Type} (invoke : Invoker) (plan : Plan α) (world : World) :
    Performed.Chain invoke world (plan.execution invoke world).record
      (plan.execution invoke world).world := by
  induction plan generalizing world with
  | done answer => rfl
  | perform errand next ih =>
    rw [execution]
    split
    · rename_i carried
      exact ⟨rfl, carried, ih _ _⟩
    · rename_i carried
      exact ⟨rfl, carried, rfl⟩

/-! ## Plans that come to their end -/

namespace Plan

variable {α β : Type} {invoke : Invoker} {world last : World} {record : List Performed}

/-- A plan comes to its end: what was performed on the way, its answer, and the world that it
leaves. -/
def Performs (invoke : Invoker) (plan : Plan α) (world : World) (record : List Performed)
    (answer : α) (last : World) : Prop :=
  plan.execution invoke world = { record, result := .ok answer, world := last }

/-- A plan that asks for nothing performs nothing. -/
theorem performs_pure_iff {value answer : α} :
    (pure value : Plan α).Performs invoke world record answer last ↔
      record = [] ∧ answer = value ∧ last = world := by
  change ({ record := [], result := .ok value, world } : Execution α) = _ ↔ _
  simp [Execution.mk.injEq, eq_comm]

/-- A plan performs its first errand, and then the rest of it in the world that this left. -/
theorem performs_perform_iff {errand : Errand} {next : errand.Answer → Plan α} {answer : α} :
    (perform errand next).Performs invoke world record answer last ↔
      ∃ value between rest, (errand.carryOut invoke).run.run world = (.ok value, between) ∧
        (next value).Performs invoke between rest answer last ∧
        record = ⟨world, ⟨errand, .ok value⟩, between⟩ :: rest := by
  unfold Performs
  rw [execution]
  constructor
  · intro performs
    split at performs
    · rename_i value between carried
      obtain ⟨rfl, ended, left⟩ := Execution.mk.inj performs
      exact ⟨value, between, _, carried, by rw [← ended, ← left], rfl⟩
    · cases (Execution.mk.inj performs).2.1
  · rintro ⟨value, between, rest, carried, goesOn, rfl⟩
    rw [carried]
    dsimp only
    rw [goesOn]

/-- One errand is performed. -/
theorem performs_ask_iff {errand : Errand} {answer : errand.Answer} :
    (ask errand).Performs invoke world record answer last ↔
      record = [⟨world, ⟨errand, .ok answer⟩, last⟩] ∧
        (errand.carryOut invoke).run.run world = (.ok answer, last) := by
  rw [ask, performs_perform_iff]
  constructor
  · rintro ⟨value, between, rest, carried, ends, rfl⟩
    obtain ⟨rfl, rfl, rfl⟩ := performs_pure_iff.1 ends
    exact ⟨rfl, carried⟩
  · rintro ⟨rfl, carried⟩
    exact ⟨answer, last, [], carried, performs_pure_iff.2 ⟨rfl, rfl, rfl⟩, rfl⟩

/-- A plan after another performs what is left once that one has answered. -/
theorem performs_bind_iff {plan : Plan α} {next : α → Plan β} {answer : β} :
    (plan >>= next).Performs invoke world record answer last ↔
      ∃ value between first second, plan.Performs invoke world first value between ∧
        (next value).Performs invoke between second answer last ∧ record = first ++ second := by
  change (plan.bind next).Performs invoke world record answer last ↔ _
  induction plan generalizing world record with
  | done value =>
    constructor
    · intro performs
      exact ⟨value, world, [], record, performs_pure_iff.2 ⟨rfl, rfl, rfl⟩, performs, rfl⟩
    · rintro ⟨_, _, _, second, ends, goesOn, rfl⟩
      obtain ⟨rfl, rfl, rfl⟩ := performs_pure_iff.1 ends
      exact goesOn
  | perform errand rest ih =>
    rw [Plan.bind, performs_perform_iff]
    constructor
    · rintro ⟨value, between, later, carried, performs, rfl⟩
      obtain ⟨reached, middle, first, second, begins, goesOn, rfl⟩ := (ih value).1 performs
      exact ⟨reached, middle, _, second, performs_perform_iff.2
        ⟨value, between, first, carried, begins, rfl⟩, goesOn, rfl⟩
    · rintro ⟨reached, middle, _, second, begins, goesOn, rfl⟩
      obtain ⟨value, between, first, carried, onward, rfl⟩ := performs_perform_iff.1 begins
      exact ⟨value, between, first ++ second, carried,
        (ih value).2 ⟨reached, middle, first, second, onward, goesOn, rfl⟩, rfl⟩

/-- A plan that is carried out to its end has performed what its execution says. -/
theorem performs_of_carryOut {plan : Plan α} {answer : α}
    (ended : (plan.carryOut invoke).run.run world = (.ok answer, last)) :
    plan.Performs invoke world (plan.execution invoke world).record answer last := by
  rw [run_carryOut, Prod.mk.injEq] at ended
  obtain ⟨ended, left⟩ := ended
  rw [Performs, ← ended, ← left]

/-- A plan comes to its end unless one of its errands does not. -/
theorem performs_or_breaks (invoke : Invoker) (plan : Plan α) (world : World) :
    (∃ record answer last, plan.Performs invoke world record answer last) ∨
      ∃ performed ∈ (plan.execution invoke world).record, ∃ errand abort,
        performed.reply = ⟨errand, .error abort⟩ := by
  induction plan generalizing world with
  | done answer => exact .inl ⟨[], answer, world, rfl⟩
  | perform errand next ih =>
    cases carried : (errand.carryOut invoke).run.run world with
    | mk answer between =>
      cases answer with
      | ok value =>
        obtain ⟨rest, answer, last, goesOn⟩ | ⟨performed, among, broken⟩ := ih value between
        · exact .inl ⟨_, answer, last, performs_perform_iff.2
            ⟨value, between, rest, carried, goesOn, rfl⟩⟩
        · refine .inr ⟨performed, ?_, broken⟩
          rw [execution, carried]
          exact List.mem_cons_of_mem _ among
      | error abort =>
        refine .inr ⟨⟨world, ⟨errand, .error abort⟩, between⟩, ?_, errand, abort, rfl⟩
        rw [execution, carried]
        exact List.mem_cons_self

end Plan

end Launchpad
