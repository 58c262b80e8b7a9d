import Launchpad.Proofs.Operation.Storing

/-!
# The gets that participants make

The history of a program at a store: its own gets, those of the suppliers that they call, those of
the close listeners of stores that it closes, at any depth and in the order in which they begin and
end. Every answer in a history is what the get answered when it was carried out. Where participants
are called in the course of something else, such as a publication or the run of an application, the
history only says so.
-/

namespace Launchpad

open BootstrapStore (Event Origin Passes Step)

variable {α β Line : Type}

/-! ## Recording -/

/-- What is recorded of the calls to participants, and where a call begins. -/
abbrev Recorder (Line : Type) := Call → World → List Line

/-- What is recorded after an operation, if it comes to its end. -/
def Act.onward (act : Act α) (world : World) (rest : α → World → List Line) : List Line :=
  match act.result world with
  | (.ok answer, later) => rest answer later
  | (.error _, _) => []

/-- An operation that comes to its end is followed by the rest. -/
theorem Act.onward_of_ok {act : Act α} {world later : World} {answer : α}
    (ran : act.result world = (.ok answer, later)) (rest : α → World → List Line) :
    act.onward world rest = rest answer later := by
  rw [onward, ran]

/-- Nothing is recorded where nothing follows. -/
@[simp] theorem Act.onward_nil (act : Act α) (world : World) :
    (act.onward world fun _ _ => ([] : List Line)) = [] := by
  rw [onward]
  split <;> rfl

/-- Adds a line to the record of calls. -/
def World.note (world : World) (entry : JournalEntry) : World :=
  { world with journal := world.journal.push entry }

/-- What is recorded of the calls to participants under a behaviour, where `record` tells what is
recorded of a program. -/
def Behaviour.recorder (behaviour : Behaviour)
    (record : {α : Type} → Invoker → Recorder Line → Program α → World → List Line) :
    (limit depth : Nat) → Recorder Line
  | 0, _, _, _ => []
  | limit + 1, depth, call, world =>
    record (behaviour.invoker limit (depth + 1)) (behaviour.recorder record limit (depth + 1))
      (behaviour call) (world.note (.called depth call))

/-! ## The history of a program -/

/-- How an operation deals with participants. -/
inductive Conduct where
  /-- It calls nobody. -/
  | quiet
  /-- It makes one call and does nothing else. -/
  | calls (call : Call)
  /-- It may make several calls. -/
  | busy

/-- What is recorded of an operation, by its conduct. -/
def Conduct.history (scribe : Recorder Event) (world : World) : Conduct → List Event
  | quiet => []
  | calls call => scribe call world
  | busy => [.elsewhere]

/-- What a close action does in a world. -/
def CloseAction.conduct (world : World) (ref : StoreRef) (container : ContainerRef) :
    CloseAction → Conduct
  | .handOver type participant =>
    match (world.store ref).kept? type with
    | some held => .calls (.handOver participant held container)
    | none => .quiet
  | .listener participant => .calls (.bootstrapClosing participant ref container)

/-- How an errand deals with participants, as far as the close of a store needs it. -/
def Errand.conduct (world : World) : Errand → Conduct
  | beginCloseStore _ | log .. => .quiet
  | runCloseAction store container action =>
    CloseAction.conduct world store container action
  | _ => .busy

/-- How a command deals with participants. -/
def Command.conduct : Command → Conduct
  | publish .. | refresh _ | close _ | onClose .. | load .. | callRunner .. | resolveExitCode ..
  | exit .. | read .. | readOr .. | closeStore .. | registerContainer .. | trigger _
  | attemptTrigger _ | render .. | run .. => .busy
  | mapFailure mapper failure => .calls (.mapFailure mapper failure)
  | _ => .quiet

section

variable (invoke : Invoker) (scribe : Recorder Event) (ref : StoreRef)

/-- What is recorded of a supplier's call. -/
def Supply.history (other : StoreRef) (world : World) : Supply → List Event
  | .existing _ => []
  | .custom participant => scribe (.supply participant other) world

/-- What is recorded of a get from a store. The gets from the store of the history are events,
others may lead to such. -/
def BootstrapStore.readHistory (other : StoreRef) (type : String) (world : World) : List Event :=
  let ends (origin : Origin) : List Event :=
    if other = ref then
      (read invoke other type).onward world fun answer _ => [.got type origin answer]
    else []
  match (world.store other).find? type with
  | none => ends .nowhere
  | some entry =>
    match entry.kept with
    | some _ => ends .store
    | none =>
      (if other = ref then [.called type entry.supply] else []) ++
        Supply.history scribe other world entry.supply ++ ends .supplier

/-- What is recorded of a plan. -/
def Plan.history : Plan α → World → List Event
  | done _, _ => []
  | perform errand next, world =>
    (errand.conduct world).history scribe world ++
      (errand.carryOut invoke).onward world fun answer later => (next answer).history later

/-- What is recorded of a command. -/
def Command.history (command : Command) (world : World) : List Event :=
  match command with
  | read other type => BootstrapStore.readHistory invoke scribe ref other type world
  | readOr other type _ => BootstrapStore.readHistory invoke scribe ref other type world
  | closeStore other held => (BootstrapStore.close other held).history invoke scribe world
  | command => command.conduct.history scribe world

/-- The history of a program at a store. -/
def Program.history : (program : Program α) → (world : World) → List Event
  | done _, _ => []
  | panic _, _ => []
  | perform command next, world =>
    command.history invoke scribe ref world ++
      (command.carryOut invoke).onward world fun answer later => (next answer).history later

end

/-- What is recorded of the calls to participants under a behaviour. -/
def Behaviour.scribe (behaviour : Behaviour) (ref : StoreRef) :
    (limit depth : Nat) → Recorder Event :=
  behaviour.recorder fun invoke scribe program => program.history invoke scribe ref

end Launchpad
