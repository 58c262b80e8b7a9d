import Launchpad.Proofs.Bootstrap.Account
import Launchpad.Proofs.Operation.Commanding

/-!
# What stands in the record of calls

The lines that an operation writes at its own depth are the calls that it makes itself: what the
participants that it calls do in their turn is written at greater depths. So the transcript at a
depth tells exactly whom an operation called, in which order, and what was answered. An operation
that does not notice when the participants answer calls of one kind only makes no others. `Asked`
and `Told` are the two ways in which a list of participants is called one after the other: up to the
first that fails, or all of them.
-/

namespace Launchpad

/-- The lines of the record of calls that were written at a depth. -/
def World.transcript (depth : Nat) (world : World) : List JournalEntry :=
  world.journal.toList.filter (·.depth = depth)

/-- What was written at a depth between two worlds. -/
def Writes (depth : Nat) (lines : List JournalEntry) (before after : World) : Prop :=
  after.transcript depth = before.transcript depth ++ lines

namespace Writes

variable {depth : Nat} {first second third : World} {lines others : List JournalEntry}

/-- Nothing is written while the record of calls stays. -/
theorem of_journal (same : second.journal = first.journal) : Writes depth [] first second := by
  rw [Writes, World.transcript, World.transcript, same, List.append_nil]

/-- Nothing is written if nothing happens. -/
theorem refl (world : World) : Writes depth [] world world := of_journal rfl

/-- What is written later stands behind what was written before. -/
theorem trans (start : Writes depth lines first second) (rest : Writes depth others second third) :
    Writes depth (lines ++ others) first third := by
  unfold Writes at *
  rw [rest, start, List.append_assoc]

/-- Whoever leaves the record of calls writes nothing. -/
theorem framing (depth : Nat) : RegistryFraming (Writes depth []) where
  refl := refl
  trans := trans
  aside _ journal := of_journal journal
  make _ := of_journal rfl
  advance _ _ _ _ := of_journal rfl

/-- Commands write nothing at a depth if the participants do not. -/
theorem commanding {invoke : Invoker}
    (calls : ∀ call : Call, Act.Respects (Writes depth []) (invoke call)) :
    CommandFraming (Writes depth []) invoke where
  toRunFraming := (framing depth).running calls
  coordinate _ _ := fun _ => of_journal rfl
  restock _ _ _ := of_journal rfl
  makeCoordinator _ _ := of_journal rfl

/-- A line is written at its own depth. -/
theorem note (world : World) (entry : JournalEntry) :
    Writes entry.depth [entry] world (world.note entry) := by
  rw [Writes, World.transcript, World.transcript, World.note, Array.toList_push, List.filter_append]
  simp

/-- A line is written at no other depth. -/
theorem note_of_ne (world : World) {entry : JournalEntry} (elsewhere : entry.depth ≠ depth) :
    Writes depth [] world (world.note entry) := by
  rw [Writes, World.transcript, World.transcript, World.note, Array.toList_push, List.filter_append]
  simp [elsewhere]

end Writes

/-- The lines that a call writes at its own depth: that it was made, and what was answered if it
came to its end. -/
def Call.lines (depth : Nat) (call : Call) : Except Abort (Option Failure) → List JournalEntry
  | .ok failure => [.called depth call, .answered depth failure]
  | .error _ => [.called depth call]

namespace Behaviour

variable (behaviour : Behaviour)

/-- A call writes nothing at depths less than its own. -/
theorem writes_nothing {depth below : Nat} (deeper : below < depth) (limit : Nat) (call : Call) :
    Act.Respects (Writes below []) (behaviour.invoker limit depth call) :=
  behaviour.respects (Writes.framing below).framing Writes.commanding
    (fun _ beyond _ => .note_of_ne _ (Nat.ne_of_gt beyond)) limit deeper call

/-- At its own depth a call writes its lines, whatever it leads to. -/
theorem writes_call (limit depth : Nat) (call : Call) (world : World) :
    Writes depth
      (call.lines depth (((behaviour.invoker (limit + 1) depth call).result world).1.map
        call.failure?)) world ((behaviour.invoker (limit + 1) depth call).result world).2 := by
  have called := Writes.note world (.called depth call)
  have carries := (Writes.commanding fun other =>
    behaviour.writes_nothing (Nat.lt_succ_self depth) limit other).respects_program
      (behaviour call) (world.note (.called depth call))
  have noted : (note (.called depth call)).result world =
      (.ok (), world.note (.called depth call)) := rfl
  rw [invoker, Act.result_bind, noted]
  dsimp only
  rw [Act.result_bind]
  generalize ((behaviour call).carryOut (behaviour.invoker limit (depth + 1))).result
    (world.note (.called depth call)) = reached at carries ⊢
  obtain ⟨abort | answer, between⟩ := reached
  · exact called.trans carries
  · exact (called.trans carries).trans (.note between (.answered depth (call.failure? answer)))

end Behaviour

/-- The calls at a depth between two worlds are all of one kind. -/
def CallsOnly (depth : Nat) (allowed : Call → Bool) (before after : World) : Prop :=
  ∃ lines, Writes depth lines before after ∧
    ∀ call ∈ lines.filterMap JournalEntry.call?, allowed call = true

namespace CallsOnly

variable {depth : Nat} {allowed : Call → Bool} {before after : World}

/-- No call is made while the record of calls stays. -/
theorem of_journal (same : after.journal = before.journal) : CallsOnly depth allowed before after :=
  ⟨[], .of_journal same, fun _ among => absurd among List.not_mem_nil⟩

/-- Calls of one kind after calls of that kind. -/
theorem trans {first second third : World} (start : CallsOnly depth allowed first second)
    (rest : CallsOnly depth allowed second third) : CallsOnly depth allowed first third := by
  obtain ⟨lines, written, here⟩ := start
  obtain ⟨others, goesOn, there⟩ := rest
  refine ⟨lines ++ others, written.trans goesOn, fun call among => ?_⟩
  rw [List.filterMap_append, List.mem_append] at among
  obtain early | late := among
  · exact here call early
  · exact there call late

/-- Whoever leaves the record of calls makes no call. -/
theorem framing (depth : Nat) (allowed : Call → Bool) :
    RegistryFraming (CallsOnly depth allowed) where
  refl _ := of_journal rfl
  trans := trans
  aside _ journal := of_journal journal
  make _ := of_journal rfl
  advance _ _ _ _ := of_journal rfl

end CallsOnly

/-- The participants, as far as calls of one kind go. -/
def Invoker.only (allowed : Call → Bool) (invoke : Invoker) : Invoker := fun call =>
  if allowed call then invoke call else throw .exhausted

/-- At its depth, a call of some kind is the only call that it makes. -/
theorem Behaviour.calls_only (behaviour : Behaviour) (limit depth : Nat) (allowed : Call → Bool)
    (call : Call) :
    Act.Respects (CallsOnly depth allowed)
      (Invoker.only allowed (behaviour.invoker (limit + 1) depth) call) := by
  unfold Invoker.only
  split
  · rename_i kind
    intro world
    refine ⟨_, behaviour.writes_call limit depth call world, fun other among => ?_⟩
    have same : other = call := by
      cases ended : ((behaviour.invoker (limit + 1) depth call).result world).1 <;>
        simpa [ended, Except.map, Call.lines, JournalEntry.call?] using among
    rw [same, kind]
  · exact fun world => .of_journal rfl

section

variable {α ε : Type}

/-- Items are called in order, each once, up to the first that fails or does not come to its end:
what comes of it, and the lines that are written. `blame` says what becomes of the failure of an
item. -/
inductive Asked (depth : Nat) (call : α → Call) (blame : α → Failure → ε) :
    List α → Except Abort (Except ε Unit) → List JournalEntry → Prop where
  | done : Asked depth call blame [] (.ok (.ok ())) []
  | next {item rest result lines} (goesOn : Asked depth call blame rest result lines) :
      Asked depth call blame (item :: rest) result
        (.called depth (call item) :: .answered depth none :: lines)
  | failed {item rest} (failure : Failure) :
      Asked depth call blame (item :: rest) (.ok (.error (blame item failure)))
        [.called depth (call item), .answered depth (some failure)]
  | broken {item rest} (abort : Abort) :
      Asked depth call blame (item :: rest) (.error abort) [.called depth (call item)]

/-- Items are called in order, each once, whatever they answer, as long as each comes to its end. -/
inductive Told (depth : Nat) (call : α → Call) :
    List α → Except Abort Unit → List JournalEntry → Prop where
  | done : Told depth call [] (.ok ()) []
  | next {item rest result lines} (failure : Option Failure)
      (goesOn : Told depth call rest result lines) :
      Told depth call (item :: rest) result
        (.called depth (call item) :: .answered depth failure :: lines)
  | broken {item rest} (abort : Abort) :
      Told depth call (item :: rest) (.error abort) [.called depth (call item)]

variable {depth : Nat} {call : α → Call} {blame : α → Failure → ε} {item : α} {items : List α}

namespace Asked

/-- Calling for a single item asks about that item, and ends as its call does. -/
theorem of_call (item : α) (result : Except Abort (Except Failure Unit)) :
    Asked depth call blame [item] (result.map (Except.mapError (blame item)))
      ((call item).lines depth (result.map Call.failure?.errorOf)) := by
  rcases result with abort | failure | ⟨⟩
  · exact .broken abort
  · exact .failed failure
  · exact .next .done

/-- An item that succeeds is followed by the rest. -/
theorem cons {result : Except Abort (Except ε Unit)} {lines others : List JournalEntry}
    (first : Asked depth call blame [item] (.ok (.ok ())) lines)
    (rest : Asked depth call blame items result others) :
    Asked depth call blame (item :: items) result (lines ++ others) := by
  cases first with
  | next goesOn =>
    cases goesOn
    exact .next rest

/-- Nothing follows an item that does not succeed. -/
theorem alone {result : Except Abort (Except ε Unit)} {lines : List JournalEntry}
    (first : Asked depth call blame [item] result lines) (ends : result ≠ .ok (.ok ()))
    (items : List α) : Asked depth call blame (item :: items) result lines := by
  cases first with
  | next goesOn =>
    cases goesOn
    exact absurd rfl ends
  | failed failure => exact .failed failure
  | broken abort => exact .broken abort

variable {result : Except Abort (Except ε Unit)} {lines : List JournalEntry}

/-- Whoever is called is called in order. -/
theorem calls_prefix (asked : Asked depth call blame items result lines) :
    lines.filterMap JournalEntry.call? <+: items.map call := by
  induction asked with
  | done => exact List.prefix_rfl
  | next goesOn ih => exact List.cons_prefix_cons.2 ⟨rfl, ih⟩
  | failed | broken => exact List.cons_prefix_cons.2 ⟨rfl, List.nil_prefix⟩

/-- If none fails, all are called. -/
theorem calls_of_ok (asked : Asked depth call blame items (.ok (.ok ())) lines) :
    lines.filterMap JournalEntry.call? = items.map call := by
  generalize reached : (Except.ok (Except.ok ()) : Except Abort (Except ε Unit)) = result at asked
  induction asked with
  | done => rfl
  | next goesOn ih => exact congrArg (_ :: ·) (ih reached)
  | failed | broken => cases reached

/-- Those who are called, those who are not, and why they are not. -/
theorem split {answer : Except ε Unit} (asked : Asked depth call blame items (.ok answer) lines) :
    ∃ called others, items = called ++ others ∧
      lines.filterMap JournalEntry.call? = called.map call ∧
      (others ≠ [] → ∃ item ∈ called, ∃ failure, answer = .error (blame item failure)) := by
  generalize reached : (Except.ok answer : Except Abort (Except ε Unit)) = result at asked
  induction asked with
  | done => exact ⟨[], [], rfl, rfl, fun more => absurd rfl more⟩
  | @next item rest result lines goesOn ih =>
    obtain ⟨called, others, rfl, calls, ends⟩ := ih reached
    refine ⟨item :: called, others, rfl, congrArg (_ :: ·) calls, fun more => ?_⟩
    obtain ⟨other, among, failure, fails⟩ := ends more
    exact ⟨other, List.mem_cons_of_mem _ among, failure, fails⟩
  | @failed item rest failure =>
    cases reached
    exact ⟨[item], rest, rfl, rfl, fun _ => ⟨item, by simp, failure, rfl⟩⟩
  | broken => cases reached

end Asked

namespace Told

/-- An item that comes to its end is followed by the rest. -/
theorem cons {result : Except Abort Unit} {lines others : List JournalEntry}
    (first : Told depth call [item] (.ok ()) lines) (rest : Told depth call items result others) :
    Told depth call (item :: items) result (lines ++ others) := by
  cases first with
  | next failure goesOn =>
    cases goesOn
    exact .next failure rest

/-- Nothing follows an item that does not come to its end. -/
theorem alone {abort : Abort} {lines : List JournalEntry}
    (first : Told depth call [item] (.error abort) lines) (items : List α) :
    Told depth call (item :: items) (.error abort) lines := by
  cases first with
  | next failure goesOn => cases goesOn
  | broken abort => exact .broken abort

/-- If nothing breaks, all are called. -/
theorem calls_of_ok {lines : List JournalEntry} (told : Told depth call items (.ok ()) lines) :
    lines.filterMap JournalEntry.call? = items.map call := by
  generalize reached : (Except.ok () : Except Abort Unit) = result at told
  induction told with
  | done => rfl
  | next failure goesOn ih => exact congrArg (_ :: ·) (ih reached)
  | broken => cases reached

end Told

/-- An operation calls items in order, up to the first that fails, and makes no other calls. -/
def Act.Asks (depth : Nat) (call : α → Call) (blame : α → Failure → ε) (items : List α)
    (act : Act (Except ε Unit)) : Prop :=
  ∀ world, ∃ lines, Asked depth call blame items (act.result world).1 lines ∧
    Writes depth lines world (act.result world).2

/-- An operation calls items in order, whatever they answer, and makes no other calls. -/
def Act.TellsAll (depth : Nat) (call : α → Call) (items : List α) (act : Act Unit) : Prop :=
  ∀ world, ∃ lines, Told depth call items (act.result world).1 lines ∧
    Writes depth lines world (act.result world).2

/-- An operation that makes a single call, and hands on its failure. -/
theorem Act.Asks.of_call {act : Act (Except Failure Unit)}
    (writes : ∀ world, Writes depth
      ((call item).lines depth ((act.result world).1.map Call.failure?.errorOf)) world
      (act.result world).2) :
    Act.Asks depth call blame [item] (do return (← act).mapError (blame item)) := by
  intro world
  have single : ((do return (← act).mapError (blame item) : Act (Except ε Unit)).result world) =
      ((act.result world).1.map (Except.mapError (blame item)), (act.result world).2) := by
    rw [Act.result_bind]
    rcases act.result world with ⟨abort | answer, later⟩ <;> rfl
  rw [single]
  exact ⟨_, .of_call item _, writes world⟩

/-- An operation that is a single call. -/
theorem Act.Asks.single {act : Act (Except Failure Unit)}
    (writes : ∀ world, Writes depth
      ((call item).lines depth ((act.result world).1.map Call.failure?.errorOf)) world
      (act.result world).2) :
    Act.Asks depth call (fun _ own => own) [item] act := by
  have handed (answer : Except Failure Unit) : answer.mapError (fun own => own) = answer := by
    cases answer <;> rfl
  have asks : Act.Asks depth call (fun _ own => own) [item]
      (do return (← act).mapError fun own => own) := .of_call writes
  simpa only [handed, bind_pure] using asks

/-- What calls items in order up to the first failure asks them all. -/
theorem Act.Asks.untilFailure {act : α → Act (Except ε Unit)}
    (each : ∀ item, Act.Asks depth call blame [item] (act item)) (items : List α) :
    Act.Asks depth call blame items (Launchpad.untilFailure act items) := by
  induction items with
  | nil => exact fun world => ⟨[], .done, .refl world⟩
  | cons item rest ih =>
    intro world
    obtain ⟨lines, asked, written⟩ := each item world
    rw [Launchpad.untilFailure, Act.result_bind]
    generalize (act item).result world = reached at asked written ⊢
    obtain ⟨abort | failure | ⟨⟩, between⟩ := reached
    · exact ⟨lines, asked.alone nofun rest, written⟩
    · exact ⟨lines, asked.alone nofun rest, written⟩
    · obtain ⟨others, goesOn, later⟩ := ih between
      exact ⟨lines ++ others, asked.cons goesOn, written.trans later⟩

/-- An operation that makes a single call, and goes on without one whatever was answered. -/
theorem Act.TellsAll.of_call {act : Act (Except Failure Unit)}
    {next : Except Failure Unit → Act Unit}
    (writes : ∀ world, Writes depth
      ((call item).lines depth ((act.result world).1.map Call.failure?.errorOf)) world
      (act.result world).2)
    (quiet : ∀ answer world, ∃ later, (next answer).result world = (.ok (), later) ∧
      later.journal = world.journal) :
    Act.TellsAll depth call [item] (act >>= next) := by
  intro world
  have written := writes world
  rw [Act.result_bind]
  generalize act.result world = reached at written ⊢
  obtain ⟨abort | answer, between⟩ := reached
  · exact ⟨_, .broken abort, written⟩
  · obtain ⟨later, ends, same⟩ := quiet answer between
    dsimp only
    rw [ends]
    have whole := written.trans (.of_journal same)
    rw [List.append_nil] at whole
    exact ⟨_, .next _ .done, whole⟩

/-- What calls every item in order tells them all. -/
theorem Act.TellsAll.forEach {act : α → Act Unit}
    (each : ∀ item, Act.TellsAll depth call [item] (act item)) (items : List α) :
    Act.TellsAll depth call items (Act.forEach act items) := by
  induction items with
  | nil => exact fun world => ⟨[], .done, .refl world⟩
  | cons item rest ih =>
    intro world
    obtain ⟨lines, told, written⟩ := each item world
    rw [Act.forEach, Act.result_bind]
    generalize (act item).result world = reached at told written ⊢
    obtain ⟨abort | ⟨⟩, between⟩ := reached
    · exact ⟨lines, told.alone rest, written⟩
    · obtain ⟨others, goesOn, later⟩ := ih between
      exact ⟨lines ++ others, told.cons goesOn, written.trans later⟩

end

end Launchpad
