import Launchpad.World

/-!
# Operating bootstrap stores

Reading an entry may call its supplier, which may read other entries or its own. A shared instance
is kept by whoever finishes first: an instance that a nested read kept is the one that counts.
-/

namespace Launchpad.BootstrapStore

/-- Makes an open store without entries. -/
def make : Act StoreRef := do
  let world ← get
  set { world with stores := world.stores ++ [({} : BootstrapStore)] }
  return ⟨world.stores.length⟩

/-- Gives a value the identity of a new instance. -/
def makeInstance (value : Value) : Act BootstrapInstance := do
  let world ← get
  set { world with nextInstance := world.nextInstance + 1 }
  return { identity := world.nextInstance, value }

/-- Registers a supplier for a type. The answer says whether it was registered. -/
def register (ref : StoreRef) (type : String) (supplier : InstanceSupplier) (ifAbsent : Bool) :
    Act (Except BootstrapError Bool) := do
  match (← Act.store ref).insert type supplier ifAbsent with
  | .error fault => return .error { fault }
  | .ok (registered, store) =>
    Act.modifyStore ref fun _ => store
    return .ok registered

/-- Takes an instance from a supplier. -/
def take (invoke : Invoker) (ref : StoreRef) :
    Supply → Act (Except Failure BootstrapInstance)
  | .existing held => return .ok held
  | .custom participant => do
    match ← invoke (.supply participant ref) with
    | .error failure => return .error failure
    | .ok value => return .ok (← makeInstance value)

/-- The instance of a type, which is made if necessary. -/
def read (invoke : Invoker) (ref : StoreRef) (type : String) :
    Act (Except BootstrapError BootstrapInstance) := do
  match (← Act.store ref).find? type with
  | none => return .error { fault := .notRegistered type }
  | some entry =>
    match entry.kept with
    | some held => return .ok held
    | none =>
      match ← take invoke ref entry.supply with
      | .error failure => return .error ((BootstrapFault.supplier type).dueTo failure)
      | .ok made =>
        match entry.scope with
        | .prototype => return .ok made
        | .singleton =>
          Act.modifyStore ref (·.keep type made)
          return .ok (((← Act.store ref).kept? type).getD made)

/-- The instance of a type, or a new instance of another value if the type is not registered. -/
def readOr (invoke : Invoker) (ref : StoreRef) (type : String) (other : Value) :
    Act (Except BootstrapError BootstrapInstance) := do
  match ← read invoke ref type with
  | .error ⟨.notRegistered _, _⟩ => return .ok (← makeInstance other)
  | result => return result

/-- Adds a listener that is called when the store closes. -/
def listen (ref : StoreRef) (participant : Participant) : Act (Except BootstrapError Unit) := do
  match (← Act.store ref).addCloseListener participant with
  | .error fault => return .error { fault }
  | .ok store =>
    Act.modifyStore ref fun _ => store
    return .ok ()

/-- Runs a close action. An instance that was never made is not handed over. -/
def runAction (invoke : Invoker) (ref : StoreRef) (container : ContainerRef) :
    CloseAction → Act (Except Failure Unit)
  | .handOver type participant => do
    match (← Act.store ref).kept? type with
    | some held => invoke (.handOver participant held container)
    | none => return .ok ()
  | .listener participant => invoke (.bootstrapClosing participant ref container)

/-- Begins the close of an open store. The answer is its close actions, in the order of
registration. -/
def begin (ref : StoreRef) : Act (Except BootstrapFault (List CloseAction)) := do
  match (← Act.store ref).beginClose with
  | .error fault => return .error fault
  | .ok (actions, store) =>
    Act.modifyStore ref fun _ => store
    return .ok actions

end Launchpad.BootstrapStore
