import Launchpad.Command
import Launchpad.Proofs.Operation.Keeping
import Mathlib.Data.List.Induction

/-!
# Commands one after the other

`Exchanges` is every sequence of commands that are carried out one after the other, each chosen
freely once the one before has come to its end, with what each of them found, answered and left. Its
states are those between operations: nothing is under way in them. What participants do in the
course of a command is not a part of the sequence. `Program.Within` limits the commands that they
use, and `Behaviour.holds_invoker` says that what holds of each of those commands holds of calls to
them.
-/

namespace Launchpad

/-- A command that was carried out. -/
structure Exchange where
  command : Command
  found : World
  answer : command.Answer
  left : World

/-- Commands carried out one after the other. -/
inductive Exchanges (invoke : Invoker) : World → List Exchange → World → Prop where
  | nil {world} : Exchanges invoke world [] world
  | snoc {first earlier found command answer left} (prior : Exchanges invoke first earlier found)
      (ran : (command.carryOut invoke).result found = (.ok answer, left)) :
      Exchanges invoke first (earlier ++ [⟨command, found, answer, left⟩]) left

namespace Exchanges

variable {invoke : Invoker} {first last : World} {exchanges : List Exchange}

/-- What each command keeps, a sequence keeps. -/
theorem keeps {relation : World → World → Prop} (framing : Framing relation)
    (sequence : Exchanges invoke first exchanges last)
    (each : ∀ exchange ∈ exchanges, Act.Keeps relation (exchange.command.carryOut invoke)) :
    relation first last := by
  induction sequence with
  | nil => exact framing.refl _
  | @snoc earlier found command answer left prior ran ih =>
    have before := ih fun exchange among => each exchange (List.mem_append_left _ among)
    have after := each ⟨command, found, answer, left⟩ (List.mem_append_right _ List.mem_cons_self)
    exact framing.trans before (after found answer left ran)

/-- Every command of a sequence was carried out after those before it. -/
theorem at_exchange (sequence : Exchanges invoke first exchanges last) {exchange : Exchange}
    (among : exchange ∈ exchanges) :
    (∃ earlier later, exchanges = earlier ++ exchange :: later ∧
      Exchanges invoke first earlier exchange.found) ∧
    (exchange.command.carryOut invoke).result exchange.found =
      (.ok exchange.answer, exchange.left) := by
  induction sequence with
  | nil => cases among
  | @snoc earlier found command answer left prior ran ih =>
    rcases List.mem_append.1 among with before | here
    · obtain ⟨⟨start, rest, rfl, reached⟩, carried⟩ := ih before
      exact ⟨⟨start, rest ++ [⟨command, found, answer, left⟩], by simp, reached⟩, carried⟩
    · cases List.mem_singleton.1 here
      exact ⟨⟨earlier, [], rfl, prior⟩, ran⟩

/-- A command that is carried out before all others. -/
theorem cons {command : Command} {answer : command.Answer} {world left : World}
    (ran : (command.carryOut invoke).result world = (.ok answer, left))
    (sequence : Exchanges invoke left exchanges last) :
    Exchanges invoke world (⟨command, world, answer, left⟩ :: exchanges) last := by
  induction sequence with
  | nil => exact .snoc .nil ran
  | snoc prior goesOn ih => exact .snoc ih goesOn

/-- Carries out commands one after the other. There is no sequence if one of them is broken off. -/
def perform? (invoke : Invoker) : List Command → World → Option (List Exchange × World)
  | [], world => some ([], world)
  | command :: rest, world =>
    match (command.carryOut invoke).result world with
    | (.error _, _) => none
    | (.ok answer, left) => do
      let (later, last) ← perform? invoke rest left
      return (⟨command, world, answer, left⟩ :: later, last)

/-- What comes of it is a sequence of these commands. -/
theorem of_perform? {commands : List Command} {world : World}
    (performed : perform? invoke commands world = some (exchanges, last)) :
    Exchanges invoke world exchanges last ∧ exchanges.map Exchange.command = commands := by
  induction commands generalizing world exchanges with
  | nil =>
    cases performed
    exact ⟨.nil, rfl⟩
  | cons command rest ih =>
    unfold perform? at performed
    split at performed
    · cases performed
    · rename_i answer left ran
      obtain ⟨⟨later, final⟩, goesOn, same⟩ := Option.bind_eq_some_iff.1 performed
      cases same
      obtain ⟨sequence, rfl⟩ := ih goesOn
      exact ⟨cons ran sequence, rfl⟩

end Exchanges

/-- Some item of a list starts something, and no later one stops it. -/
def Since {α : Type} (starts stops : α → Prop) (items : List α) : Prop :=
  ∃ earlier item later, items = earlier ++ item :: later ∧ starts item ∧
    ∀ other ∈ later, ¬ stops other

section

variable {α : Type} {starts begins stops : α → Prop} {items : List α} {last : α}

/-- What starts more often starts as late. -/
theorem Since.imp (since : Since starts stops items)
    (implies : ∀ item ∈ items, starts item → begins item) : Since begins stops items := by
  obtain ⟨earlier, item, later, rfl, started, goesOn⟩ := since
  exact ⟨earlier, item, later, rfl, implies item (by simp) started, goesOn⟩

/-- Where nothing is, nothing started. -/
theorem not_since_nil : ¬ Since starts stops [] := by
  rintro ⟨earlier, item, later, empty, -⟩
  simp at empty

/-- The last item starts it, or it was started before and the last item does not stop it. -/
theorem since_append_singleton_iff :
    Since starts stops (items ++ [last]) ↔
      starts last ∨ (¬ stops last ∧ Since starts stops items) := by
  constructor
  · rintro ⟨earlier, item, later, split, started, goesOn⟩
    cases later using List.reverseRecOn with
    | nil =>
      obtain ⟨-, same⟩ := List.append_inj' split rfl
      cases same
      exact .inl started
    | append_singleton between final =>
      rw [← List.cons_append, ← List.append_assoc] at split
      obtain ⟨rfl, same⟩ := List.append_inj' split rfl
      cases same
      refine .inr ⟨goesOn _ (List.mem_append_right _ List.mem_cons_self), ?_⟩
      exact ⟨earlier, item, between, rfl, started, fun other among =>
        goesOn other (List.mem_append_left _ among)⟩
  · rintro (started | ⟨still, earlier, item, later, rfl, started, goesOn⟩)
    · exact ⟨items, last, [], rfl, started, fun _ among => nomatch among⟩
    · refine ⟨earlier, item, later ++ [last], by simp, started, ?_⟩
      intro other among
      rcases List.mem_append.1 among with among | among
      · exact goesOn other among
      · rw [List.mem_singleton.1 among]
        exact still

end

/-- Whether a command only looks at something, keeps a record or furnishes a container. -/
def Command.isSlight : Command → Bool
  | container _ | registerBean .. | registerSource .. | setAllowOverriding ..
  | setLazyInitialization .. | setEnvironment .. | setStartup .. | store _ | coordinator _ | log ..
  | print _ | remark _ | memory _ | remember .. => true
  | _ => false

/-- A slight command leaves alone what operations may depend on. -/
theorem Command.respects_of_slight {relation : World → World → Prop} {invoke : Invoker}
    (framing : Framing relation) {command : Command} (slight : command.isSlight = true) :
    Act.Respects relation (command.carryOut invoke) := by
  cases command with
  | container | store | coordinator | memory => exact .of_look framing fun _ => rfl
  | registerBean held name bean =>
    exact .bind framing (Container.respects_register framing held name bean) fun _ =>
      .of_pure framing _
  | registerSource | setAllowOverriding | setLazyInitialization | setEnvironment | setStartup =>
    exact .furnish framing _ fun _ => ⟨rfl, rfl, rfl, rfl, fun _ => rfl⟩
  | log level message fields => exact .log framing level message fields
  | print text => exact .print framing text
  | remark | remember =>
    exact .of_aside framing (fun _ => rfl) (fun _ => rfl) (fun _ => rfl) fun _ => rfl
  | _ => cases slight

/-- A program whose commands are all of a kind. -/
def Program.Within {α : Type} (kind : Command → Prop) : Program α → Prop
  | done _ => True
  | panic _ => True
  | perform command next => kind command ∧ ∀ answer, (next answer).Within kind

section

variable {α : Type} {Holds : ∀ {α : Type}, Act α → Prop} {kind : Command → Prop}

/-- What holds of the commands of a program holds of the program. -/
theorem Program.holds (composes : Act.Composes Holds) {invoke : Invoker}
    (each : ∀ command, kind command → Holds (command.carryOut invoke)) {program : Program α}
    (within : program.Within kind) : Holds (program.carryOut invoke) := by
  induction program with
  | done answer => exact composes.pure answer
  | panic message => exact composes.throw (.panicked message)
  | perform command next ih =>
    obtain ⟨allowed, rest⟩ := within
    exact composes.bind (each command allowed) fun answer => ih answer (rest answer)

/-- What holds of the commands that participants use holds of the calls to them, however deep the
calls are nested. -/
theorem Behaviour.holds_invoker (composes : Act.Composes Holds)
    (notes : ∀ entry, Holds (Behaviour.note entry))
    (each : ∀ invoke : Invoker, (∀ call, Holds (invoke call)) →
      ∀ command, kind command → Holds (command.carryOut invoke))
    {behaviour : Behaviour} (within : ∀ call, (behaviour call).Within kind) (limit depth : Nat)
    (call : Call) : Holds (behaviour.invoker limit depth call) := by
  induction limit generalizing depth call with
  | zero => exact composes.throw .exhausted
  | succ limit ih =>
    apply composes.bind (notes _)
    intro _
    apply composes.bind (Program.holds composes (each _ (ih (depth + 1))) (within call))
    intro answer
    exact composes.bind (notes _) fun _ => composes.pure answer

end

end Launchpad
