import Launchpad.Proofs.Bootstrap.Conduct
import Launchpad.Proofs.Operation.Sequence

/-!
# Every command of a participant

`CommandFraming` collects what a relation between worlds needs so that every command respects it,
and with the commands every participant, however deep the calls are nested. A relation that follows
a coordinator from one state to the next has to be told when one is torn down or dropped:
`SteadyFraming` is what it needs so that every other command respects it.
-/

namespace Launchpad

variable {relation : World → World → Prop} {invoke : Invoker}

/-- Whether a command takes a coordinator out of use. -/
def Command.isEnding : Command → Bool
  | teardown _ | dropCoordinator _ => true
  | _ => false

/-- What a relation needs so that every command respects it but those that take a coordinator out of
use, beyond what a run does. -/
structure SteadyFraming (relation : World → World → Prop) (invoke : Invoker) : Prop extends
    RunFraming relation invoke where
  restock : ∀ store change, Act.Respects relation (Act.modifyStore store change)
  makeCoordinator : ∀ signalHook, Act.Respects relation (ShutdownCoordinator.make signalHook)
  deregisters : ∀ coordinator container,
    Act.Respects relation (ShutdownCoordinator.deregisterContainer coordinator container)
  adds : ∀ coordinator stage name participant,
    Act.Respects relation (ShutdownCoordinator.add coordinator stage name participant)
  removes : ∀ coordinator id, Act.Respects relation (ShutdownCoordinator.remove coordinator id)

namespace SteadyFraming

variable (framing : SteadyFraming relation invoke)

include framing

/-- A registration changes the store once, or is refused. -/
theorem respects_register (store : StoreRef) (type : String) (supplier : InstanceSupplier)
    (ifAbsent : Bool) :
    Act.Respects relation (BootstrapStore.register store type supplier ifAbsent) := by
  have frame := framing.toFraming
  refine .look frame (fun _ => rfl) fun held => ?_
  split
  · exact .of_pure frame _
  · exact .bind frame (framing.restock store _) fun _ => .of_pure frame _

/-- A close listener changes the store once, or is refused. -/
theorem respects_listen (store : StoreRef) (participant : Participant) :
    Act.Respects relation (BootstrapStore.listen store participant) := by
  have frame := framing.toFraming
  refine .look frame (fun _ => rfl) fun held => ?_
  split
  · exact .of_pure frame _
  · exact .bind frame (framing.restock store _) fun _ => .of_pure frame _

/-- A new instance uses up a number. -/
theorem respects_makeInstance (value : Value) :
    Act.Respects relation (BootstrapStore.makeInstance value) :=
  fun _ => framing.aside rfl rfl rfl rfl

/-- A get asks the supplier if no instance is kept, and keeps what the scope says. -/
theorem respects_read (store : StoreRef) (type : String) :
    Act.Respects relation (BootstrapStore.read invoke store type) := by
  have frame := framing.toFraming
  have takes (supply : Supply) :
      Act.Respects relation (BootstrapStore.take invoke store supply) := by
    cases supply with
    | existing => exact .of_pure frame _
    | custom participant =>
      refine .bind frame (framing.calls _) fun supplied => ?_
      split
      · exact .of_pure frame _
      · exact .bind frame (framing.respects_makeInstance _) fun _ => .of_pure frame _
  refine .look frame (fun _ => rfl) fun held => ?_
  split
  · exact .of_pure frame _
  · split
    · exact .of_pure frame _
    · refine .bind frame (takes _) fun taken => ?_
      split
      · exact .of_pure frame _
      · split
        · exact .of_pure frame _
        · exact .bind frame (framing.restock store _) fun _ =>
            .look frame (fun _ => rfl) fun _ => .of_pure frame _

/-- A get with another value for what is not registered. -/
theorem respects_readOr (store : StoreRef) (type : String) (other : Value) :
    Act.Respects relation (BootstrapStore.readOr invoke store type other) := by
  have frame := framing.toFraming
  refine .bind frame (framing.respects_read store type) fun answer => ?_
  split
  · exact .bind frame (framing.respects_makeInstance other) fun _ => .of_pure frame _
  · exact .of_pure frame _

/-- The coordinator of the process is made when it is first asked for. -/
theorem respects_shared : Act.Respects relation ShutdownCoordinator.shared := by
  have frame := framing.toFraming
  refine .look frame (fun _ => rfl) fun world => ?_
  split
  · exact .of_pure frame _
  · exact .bind frame (framing.makeCoordinator true) fun _ =>
      .bind frame (.of_modify fun _ => frame.aside rfl rfl rfl rfl) fun _ => .of_pure frame _

/-- A command that leaves every coordinator in use. -/
theorem respects_command {command : Command} (steady : command.isEnding = false) :
    Act.Respects relation (command.carryOut invoke) := by
  have frame := framing.toFraming
  cases slight : command.isSlight with
  | true => exact Command.respects_of_slight frame slight
  | false =>
    cases command with
    | makeContainer kind options => exact framing.make kind options
    | addListener held listener => exact framing.attach held [listener]
    | makeStore => exact framing.makeStore
    | makeInstance value => exact framing.respects_makeInstance value
    | register store type supplier ifAbsent =>
      exact .bind frame (framing.respects_register store type supplier ifAbsent) fun _ =>
        .of_pure frame _
    | listen store participant =>
      exact .bind frame (framing.respects_listen store participant) fun _ => .of_pure frame _
    | read store type =>
      exact .bind frame (framing.respects_read store type) fun _ => .of_pure frame _
    | readOr store type other =>
      exact .bind frame (framing.respects_readOr store type other) fun _ => .of_pure frame _
    | makeCoordinator signalHook => exact framing.makeCoordinator signalHook
    | sharedCoordinator => exact framing.respects_shared
    | deregisterContainer coordinator held => exact framing.deregisters coordinator held
    | addAction coordinator stage name participant =>
      refine .bind frame (framing.adds coordinator stage name participant) fun added => ?_
      split <;> exact .of_pure frame _
    | removeAction coordinator id => exact framing.removes coordinator id
    | readBanner path => exact Banner.respects_ofFile frame path
    | mapFailure mapper failure => exact framing.calls _
    | publish | refresh | close | onClose | load | callRunner | resolveExitCode | exit | closeStore
    | registerContainer | trigger | attemptTrigger | render | run =>
      exact Command.respects_of_busy framing.toRunFraming rfl rfl
    | teardown | dropCoordinator => cases steady
    | container | registerBean | registerSource | setAllowOverriding | setLazyInitialization
    | setEnvironment | setStartup | store | coordinator | log | print | remark | memory
    | remember => cases slight

end SteadyFraming

/-- What a relation needs so that every command respects it, beyond what a run does. -/
structure CommandFraming (relation : World → World → Prop) (invoke : Invoker) : Prop extends
    RunFraming relation invoke where
  restock : ∀ store change, Act.Respects relation (Act.modifyStore store change)
  makeCoordinator : ∀ signalHook, Act.Respects relation (ShutdownCoordinator.make signalHook)
  coordinate : ∀ coordinator move, Act.Respects relation (Act.modifyCoordinator coordinator move)

namespace CommandFraming

variable (framing : CommandFraming relation invoke)

include framing

/-- What does not care how a coordinator is changed does not care for what leaves it in use. -/
theorem steady : SteadyFraming relation invoke where
  toRunFraming := framing.toRunFraming
  restock := framing.restock
  makeCoordinator := framing.makeCoordinator
  deregisters coordinator _ :=
    .look framing.toFraming (fun _ => rfl) fun _ =>
      .bind framing.toFraming (framing.coordinate coordinator _) fun _ =>
        .of_pure framing.toFraming _
  adds := ShutdownCoordinator.respects_add framing.toFraming fun world coordinator move _ =>
    framing.coordinate coordinator move world
  removes := ShutdownCoordinator.respects_remove framing.toFraming fun world coordinator move _ =>
    framing.coordinate coordinator move world

/-- Every command respects what does not care how a coordinator is changed. -/
theorem respects_command (command : Command) :
    Act.Respects relation (command.carryOut invoke) := by
  cases ending : command.isEnding with
  | false => exact framing.steady.respects_command ending
  | true =>
    cases command with
    | dropCoordinator coordinator => exact framing.coordinate coordinator _
    | teardown coordinator =>
      exact ShutdownCoordinator.respects_teardown framing.toFraming
        (framing.coordinate coordinator)
    | _ => cases ending

/-- What every command respects every program does, since it is made of commands. -/
theorem respects_program {α : Type} (program : Program α) :
    Act.Respects relation (program.carryOut invoke) := by
  induction program with
  | done answer => exact .of_pure framing.toFraming answer
  | panic message => exact .of_throw framing.toFraming _
  | perform command next ih =>
    exact .bind framing.toFraming (framing.respects_command command) ih

end CommandFraming

/-- How many calls were under way where a line was written. -/
def JournalEntry.depth : JournalEntry → Nat
  | called depth _ | answered depth _ => depth

/-- What every command respects if the participants do, and the lines that are written from a depth
on, every call at such a depth respects, however deep the calls are nested that it leads to. -/
theorem Behaviour.respects (behaviour : Behaviour) {least : Nat} (framing : Framing relation)
    (commanding : ∀ {invoke : Invoker}, (∀ call : Call, Act.Respects relation (invoke call)) →
      CommandFraming relation invoke)
    (notes : ∀ entry : JournalEntry, least ≤ entry.depth → Act.Respects relation (note entry))
    (limit : Nat) {depth : Nat} (deep : least ≤ depth) (call : Call) :
    Act.Respects relation (behaviour.invoker limit depth call) := by
  induction limit generalizing depth call with
  | zero => exact .of_throw framing _
  | succ limit ih =>
    have carries := (commanding (ih (Nat.le_succ_of_le deep))).respects_program (behaviour call)
    exact .bind framing (notes _ deep) fun _ => .bind framing carries fun _ =>
      .bind framing (notes _ deep) fun _ => .of_pure framing _

end Launchpad
