import Launchpad.Proofs.Bootstrap.Discipline
import Launchpad.Proofs.Bootstrap.History

/-!
# The deeds of participants

The chronicle of a program at a store: what the program does to the store, and what the suppliers
and close actions do that it leads to, at any depth. Every deed shows the store as it was found and
left, and the answer that was given when the deed was done. What happens to the store otherwise,
such as in the course of a publication or of the run of an application, is a single deed.
-/

namespace Launchpad

open BootstrapStore (Deed Doing Origin Turn)

variable {α : Type}

/-- The answer of an operation, if it comes to its end. -/
def Act.answer? (act : Act α) (world : World) : Option α := (act.result world).1.toOption

/-- A deed that leaves a store as it is. -/
def World.aside (world : World) (ref : StoreRef) (doing : Doing) : Deed :=
  ⟨world.store ref, doing, world.store ref⟩

/-- The deed that an operation is. -/
def Act.deed (act : Act α) (ref : StoreRef) (world : World) (doing : α → Doing) : List Deed :=
  act.onward world fun answer later => [⟨world.store ref, doing answer, later.store ref⟩]

section

variable (invoke : Invoker) (chronicler : Recorder Deed) (ref : StoreRef)

/-- The deeds of a call. -/
def Call.deeds (call : Call) (world : World) : List Deed :=
  world.aside ref (.called call) :: chronicler call world

/-- The deeds of a supplier. -/
def Supply.deeds (other : StoreRef) (world : World) : Supply → List Deed
  | .existing _ => []
  | .custom participant => Call.deeds chronicler ref (.supply participant other) world

namespace BootstrapStore

/-- The deeds of a get from a store. -/
def readDeeds (other : StoreRef) (type : String) (world : World) : List Deed :=
  let ends (origin : Origin) (reached : World) : List Deed :=
    if other = ref then
      (read invoke other type).onward world fun answer later =>
        [⟨reached.store ref, .got type origin answer, later.store ref⟩]
    else []
  match (world.store other).find? type with
  | none => ends .nowhere world
  | some entry =>
    match entry.kept with
    | some _ => ends .store world
    | none =>
      Supply.deeds chronicler ref other world entry.supply ++
        (take invoke other entry.supply).onward world fun _ reached => ends .supplier reached

/-- The turn of a close action of a store. -/
def turn (other : StoreRef) (container : ContainerRef) (action : CloseAction) (world : World) :
    Turn where
  action := action
  container := container
  call := action.callOn (world.store other) other container
  ending := (runAction invoke other container action).answer? world

/-- The deeds of a close action of a store. -/
def actionDeeds (other : StoreRef) (container : ContainerRef) (action : CloseAction)
    (world : World) : List Deed :=
  let turn := turn invoke other container action world
  (if other = ref then [world.aside ref (.turned turn)]
    else turn.call.toList.map fun call => world.aside ref (.called call)) ++
    turn.call.toList.flatMap fun call => chronicler call world

/-- The deeds of close actions of a store, up to the first that fails. -/
def turnDeeds (other : StoreRef) (container : ContainerRef) : List CloseAction → World → List Deed
  | [], _ => []
  | action :: rest, world =>
    actionDeeds invoke chronicler ref other container action world ++
      (runAction invoke other container action).onward world fun ended later =>
        match ended with
        | .error _ => []
        | .ok () => turnDeeds other container rest later

/-- The deeds of the close of a store. -/
def closeDeeds (other : StoreRef) (container : ContainerRef) (world : World) : List Deed :=
  (if other = ref then
    (begin other).deed ref world fun begun =>
      .closed container begun (((close other container).carryOut invoke).answer? world)
    else []) ++
    (begin other).onward world fun begun later =>
      match begun with
      | .error _ => []
      | .ok actions => turnDeeds invoke chronicler ref other container actions later

end BootstrapStore

/-- The deeds of a command. -/
def Command.deeds (command : Command) (world : World) : List Deed :=
  match command with
  | register other type supplier ifAbsent =>
    if other = ref then
      (BootstrapStore.register other type supplier ifAbsent).deed ref world
        (.registered type supplier ifAbsent)
    else []
  | listen other participant =>
    if other = ref then
      (BootstrapStore.listen other participant).deed ref world (.listened participant)
    else []
  | read other type => BootstrapStore.readDeeds invoke chronicler ref other type world
  | readOr other type _ => BootstrapStore.readDeeds invoke chronicler ref other type world
  | closeStore other held => BootstrapStore.closeDeeds invoke chronicler ref other held world
  | command =>
    match command.conduct with
    | .quiet => []
    | .calls call => Call.deeds chronicler ref call world
    | .busy => [⟨world.store ref, .elsewhere, ((command.carryOut invoke).result world).2.store ref⟩]

/-- The chronicle of a program at a store. -/
def Program.deeds : (program : Program α) → (world : World) → List Deed
  | done _, _ => []
  | panic _, _ => []
  | perform command next, world =>
    command.deeds invoke chronicler ref world ++
      (command.carryOut invoke).onward world fun answer later => (next answer).deeds later

end

/-- What is recorded of the calls to participants under a behaviour. -/
def Behaviour.chronicler (behaviour : Behaviour) (ref : StoreRef) :
    (limit depth : Nat) → Recorder Deed :=
  behaviour.recorder fun invoke chronicler program => program.deeds invoke chronicler ref

end Launchpad
