import Launchpad.Proofs.Bootstrap.Bookkeeping

/-!
# A store is closed once

Whatever participants do with a store, from wherever they are called: a type is registered at most
once, what is rejected changes nothing, and once a close begins, nothing is accepted any more while
gets go on. The close actions that were registered before have their turn in the order of
registration, up to the first that fails, and never again.
-/

namespace Launchpad

open BootstrapStore (Deed Orderly Unbroken)

variable {α : Type} {ref : StoreRef} {world : World} {deeds : List Deed} {invoke : Invoker}
  {chronicler : Recorder Deed}

/-! ## Participants that use nothing but stores -/

namespace BootstrapStore.Unbroken

/-- Accounts without a gap, one after the other. -/
theorem append {earlier later : List Deed} (start : Unbroken earlier) (rest : Unbroken later) :
    Unbroken (earlier ++ later) :=
  fun deed among => (List.mem_append.1 among).elim (start deed) (rest deed)

theorem nil : Unbroken [] := fun _ among => absurd among List.not_mem_nil

theorem cons {deed : Deed} (here : deed.isElsewhere = false) (rest : Unbroken deeds) :
    Unbroken (deed :: deeds) := List.forall_mem_cons.2 ⟨here, rest⟩

/-- An operation that goes on to an account without a gap. -/
theorem onward {act : Act α} {rest : α → World → List Deed}
    (followed : ∀ answer later, Unbroken (rest answer later)) :
    Unbroken (act.onward world rest) := by
  rw [Act.onward]
  split
  · exact followed _ _
  · exact nil

/-- A deed that is not something elsewhere leaves no gap. -/
theorem deed {act : Act α} {doing : α → BootstrapStore.Doing}
    (followed : ∀ answer, doing answer ≠ .elsewhere) : Unbroken (act.deed ref world doing) := by
  refine .onward fun answer later => .cons ?_ .nil
  unfold Deed.isElsewhere
  split
  · exact absurd ‹_› (followed answer)
  · rfl

end BootstrapStore.Unbroken

section

variable (followed : ∀ call world, Unbroken (chronicler call world))

include followed

/-- What a participant does on a call is accounted for without a gap. -/
theorem Call.unbroken (call : Call) (world : World) :
    Unbroken (call.deeds chronicler ref world) := .cons rfl (followed call world)

namespace BootstrapStore

/-- A read is accounted for without a gap. -/
theorem unbroken_read (other : StoreRef) (type : String) (world : World) :
    Unbroken (readDeeds invoke chronicler ref other type world) := by
  have ends : ∀ origin reached, Unbroken (if other = ref then
      (read invoke other type).onward world fun answer later =>
        [⟨World.store reached ref, .got type origin answer, World.store later ref⟩] else []) := by
    intro origin reached
    split
    · exact .onward fun _ _ => .cons rfl .nil
    · exact .nil
  have supplies : ∀ supply : Supply, Unbroken (supply.deeds chronicler ref other world) := by
    intro supply
    cases supply with
    | existing => exact .nil
    | custom participant => exact Call.unbroken followed _ world
  rw [readDeeds]
  dsimp only
  split
  · exact ends .nowhere world
  · split
    · exact ends .store world
    · exact (supplies _).append (.onward fun _ reached => ends .supplier reached)

/-- An action of a close is accounted for without a gap. -/
theorem unbroken_action (other : StoreRef) (container : ContainerRef) (action : CloseAction)
    (world : World) :
    Unbroken (actionDeeds invoke chronicler ref other container action world) := by
  rw [actionDeeds]
  refine .append ?_ fun deed among => ?_
  · split
    · exact .cons rfl .nil
    · intro deed among
      obtain ⟨call, -, rfl⟩ := List.mem_map.1 among
      rfl
  · obtain ⟨call, -, among⟩ := List.mem_flatMap.1 among
    exact followed call world deed among

/-- The turns of a close are accounted for without a gap. -/
theorem unbroken_turns (other : StoreRef) (container : ContainerRef) (actions : List CloseAction)
    (world : World) : Unbroken (turnDeeds invoke chronicler ref other container actions world) := by
  induction actions generalizing world with
  | nil => exact .nil
  | cons action rest ih =>
    refine (unbroken_action followed other container action world).append
      (.onward fun ended later => ?_)
    cases ended with
    | error => exact .nil
    | ok => exact ih later

/-- A close is accounted for without a gap. -/
theorem unbroken_close (other : StoreRef) (container : ContainerRef) (world : World) :
    Unbroken (closeDeeds invoke chronicler ref other container world) := by
  rw [closeDeeds]
  refine .append ?_ (.onward fun begun later => ?_)
  · split
    · exact .deed fun _ same => by cases same
    · exact .nil
  · cases begun with
    | error => exact .nil
    | ok actions => exact unbroken_turns followed other container actions later

end BootstrapStore

/-- A command that is followed is accounted for without a gap. -/
theorem Command.unbroken {command : Command} (commanded : command.isFollowed = true)
    (world : World) : Unbroken (command.deeds invoke chronicler ref world) := by
  cases command with
  | register | listen =>
    rw [Command.deeds]
    split
    · exact .deed fun _ same => by cases same
    · exact .nil
  | read other type | readOr other type =>
    exact BootstrapStore.unbroken_read followed other type world
  | closeStore other held => exact BootstrapStore.unbroken_close followed other held world
  | mapFailure mapper failure => exact Call.unbroken followed _ world
  | publish | refresh | close | onClose | load | callRunner | resolveExitCode | exit
  | registerContainer | trigger | attemptTrigger | render | run => cases commanded
  | _ => exact .nil

/-- A program that is followed is accounted for without a gap. -/
theorem Program.unbroken {program : Program α} (programmed : program.Followed) (world : World) :
    Unbroken (program.deeds invoke chronicler ref world) := by
  induction program generalizing world with
  | done | panic => exact .nil
  | perform command next ih =>
    exact (Command.unbroken followed programmed.1 world).append
      (.onward fun answer later => ih answer (programmed.2 answer) later)

end

/-- If all participants use nothing but stores, every chronicle is unbroken. -/
theorem Behaviour.unbroken {behaviour : Behaviour} (followed : ∀ call, (behaviour call).Followed)
    (ref : StoreRef) (limit depth : Nat) (call : Call) (world : World) :
    Unbroken (behaviour.chronicler ref limit depth call world) := by
  induction limit generalizing depth call world with
  | zero => exact .nil
  | succ limit ih => exact Program.unbroken (ih (depth + 1)) (followed call) _

/-! ## The laws of a chronicle -/

/-- Whatever a participant does with a store, and whatever the suppliers and close actions do that
it leads to, the deeds are orderly. If all participants use nothing but stores, no deed is missing,
and if the participant comes to its end, the calls are those in the record of calls. -/
theorem Program.deeds_orderly (behaviour : Behaviour) (limit depth : Nat)
    (program : Program α) (ref : StoreRef) (world : World) (made : world.HasStore ref) :
    let invoke := behaviour.invoker limit depth
    let deeds := program.deeds invoke (behaviour.chronicler ref limit depth) ref world
    let result := (program.carryOut invoke).run.run world
    Orderly ref (world.store ref) deeds (result.2.store ref) ∧
    (∀ answer, result.1 = .ok answer → Unbroken deeds →
      result.2.calls = world.calls ++ deeds.filterMap Deed.call?) ∧
    (program.Followed → (∀ call, (behaviour call).Followed) → Unbroken deeds) := by
  have accounts := Program.accounts (behaviour.accounts ref limit depth) program made
  refine ⟨accounts.proceeds.keeps_laws accounts.regular accounts.idle, accounts.calls,
    fun programmed followed => ?_⟩
  exact Program.unbroken (Behaviour.unbroken followed ref limit depth) programmed world

/-- A close listener that registers a type, gets another, and closes the store again. -/
def closesAgain : Behaviour
  | .bootstrapClosing _ store container =>
    .perform (.register store "Late" { supply := .existing ⟨9, .text "late"⟩ } false) fun _ =>
      .perform (.read store "Config") fun _ =>
        .perform (.closeStore store container) fun _ => .done (.ok ())
  | _ => .panic "unexpected call"

/-- Registers a type with a participant to hand its instance to and a close listener, and closes the
store. -/
def closesOnce : Program Unit :=
  .perform (.register ⟨0⟩ "Config"
      { supply := .existing ⟨0, .text "first"⟩, onClose := some { name := "heir" } } false) fun _ =>
    .perform (.listen ⟨0⟩ { name := "listener" }) fun _ =>
      .perform (.closeStore ⟨0⟩ ⟨0⟩) fun _ => .done ()

/-- A close listener that closes the store again and registers with it: the inner close and the
registration are rejected, and the deeds are orderly. -/
theorem deeds_orderly_reentrant :
    ∃ deeds last, (closesOnce.carryOut (closesAgain.invoker 2 0)).run.run { stores := [{}] } =
        (.ok (), last) ∧
      Orderly ⟨0⟩ {} deeds (last.store ⟨0⟩) ∧
      last.calls = deeds.filterMap Deed.call? ∧
      deeds.map (·.doing) = [
        .registered "Config"
          { supply := .existing ⟨0, .text "first"⟩, onClose := some { name := "heir" } } false
          (.ok true),
        .listened { name := "listener" } (.ok ()),
        .closed ⟨0⟩ (.ok [.handOver "Config" { name := "heir" }, .listener { name := "listener" }])
          (some (.ok ())),
        .turned ⟨.handOver "Config" { name := "heir" }, ⟨0⟩, none, some (.ok ())⟩,
        .turned ⟨.listener { name := "listener" }, ⟨0⟩,
          some (.bootstrapClosing { name := "listener" } ⟨0⟩ ⟨0⟩), some (.ok ())⟩,
        .registered "Late" { supply := .existing ⟨9, .text "late"⟩ } false
          (.error { fault := .closed }),
        .got "Config" .supplier (.ok ⟨0, .text "first"⟩),
        .closed ⟨0⟩ (.error .closed) (some (.error { fault := .closed }))] := by
  obtain ⟨orderly, calls, followed⟩ := closesOnce.deeds_orderly closesAgain 2 0 ⟨0⟩
    { stores := [{}] } Nat.one_pos
  have answers : ((closesOnce.carryOut (closesAgain.invoker 2 0)).run.run { stores := [{}] }).1 =
      .ok () := rfl
  have all : ∀ call, (closesAgain call).Followed := by
    intro call
    cases call with
    | bootstrapClosing => exact ⟨rfl, fun _ => ⟨rfl, fun _ => ⟨rfl, fun _ => trivial⟩⟩⟩
    | _ => trivial
  have unbroken := followed ⟨rfl, fun _ => ⟨rfl, fun _ => ⟨rfl, fun _ => trivial⟩⟩⟩ all
  exact ⟨_, _, Prod.ext answers rfl, orderly, calls () answers unbroken, rfl⟩

/-- Registers a type of which no instance is ever made, and closes the store. -/
def closesUnmade : Program (Except Failure Bool × Except Failure Unit) :=
  .perform (.register ⟨0⟩ "Config"
      { supply := .existing ⟨0, .text "first"⟩, onClose := some { name := "heir" } } false)
    fun registered => .perform (.closeStore ⟨0⟩ ⟨0⟩) fun closed => .done (registered, closed)

/-- No close action fails, and yet the participant that is to be handed the instance of a registered
type is not called. -/
theorem close_passes_over_unmade :
    ∃ last, (closesUnmade.carryOut (closesAgain.invoker 2 0)).run.run { stores := [{}] } =
        (.ok (.ok true, .ok ()), last) ∧
      ∀ held, .handOver { name := "heir" } held ⟨0⟩ ∉ last.calls := by
  refine ⟨_, rfl, fun held among => ?_⟩
  have nobody : ((closesUnmade.carryOut (closesAgain.invoker 2 0)).run.run
      { stores := [{}] }).2.calls = [] := rfl
  exact absurd (nobody ▸ among) List.not_mem_nil

end Launchpad
