import Launchpad.Environment.Basic
import Launchpad.Failure.Basic
import Launchpad.Bean
import Launchpad.Handle
import Launchpad.Startup
import Launchpad.Text.Quoted

/-!
# Containers

A container holds named beans in the order of their first registration and goes through a lifecycle
of three phases. The definitions here are the sections of an operation that happen at once: each
takes a container to its next state without calling anyone. What an operation does between its
sections is in `Launchpad.Container.Operations`.
-/

namespace Launchpad

/-- The phase of a container's life. -/
inductive ContainerPhase where
  | created
  | active
  | closed
  deriving DecidableEq, Repr

/-- What is called once a container is closed. -/
inductive CloseCallback where
  | custom (participant : Participant)
  /-- Removes the container from a shutdown coordinator. -/
  | deregister (coordinator : CoordinatorRef)
  deriving DecidableEq, Repr

/-- What a tracking container keeps beside a plain one. -/
structure Tracking where
  /-- How often it was closed. -/
  closes : Nat := 0
  /-- What every close reports as its failure after closing normally. -/
  closeFailure : Option String := none
  /-- Whether a tracking factory handed it out. -/
  handedOut : Bool := false
  deriving DecidableEq, Repr

/-- A container: its identity, its beans and its lifecycle. -/
structure Container where
  id : String
  kind : ApplicationKind
  phase : ContainerPhase := .created
  environment : Option Environment := none
  startup : Startup := .discarded
  beans : List (String × Bean) := []
  allowOverriding : Bool := true
  lazyInitialization : Bool := false
  listeners : List ApplicationListener := []
  /-- Names of the sources loaded so far. -/
  sources : List String := []
  closeCallbacks : List CloseCallback := []
  tracking : Option Tracking := none
  /-- Whether the container keeps its definition registry to itself. -/
  hidesRegistry : Bool := false
  /-- A failure with which every refresh ends before it begins. -/
  refreshFailure : Option Failure := none
  deriving Repr, Inhabited

namespace Container

/-- Whether the container was refreshed and not closed. -/
def isActive (container : Container) : Bool := container.phase = .active

/-- Whether the container was closed. -/
def isClosed (container : Container) : Bool := container.phase = .closed

/-- The inspection text of a container. -/
def inspected (container : Container) : String :=
  Text.inspectedFields "ApplicationContext"
    [("id", Text.quoted container.id), ("kind", container.kind.inspected)]

/-- Names of the beans, in the order of their first registration. -/
def beanNames (container : Container) : List String := container.beans.map Prod.fst

/-- Whether there is a bean of a name. -/
def hasBean (container : Container) (name : String) : Bool := container.beanNames.contains name

/-- The value held under a name, if the bean of that name is a value. -/
def singleton? (container : Container) (name : String) : Option Value :=
  container.beans.findSome? fun entry =>
    match entry with
    | (held, .value value) => if held = name then some value else none
    | _ => none

/-- The runner beans, in the order of registration. -/
def runners (container : Container) : List Runner :=
  container.beans.filterMap fun entry => entry.2.runner?

/-- The exit-code mappers, in the order of registration. -/
def mappers (container : Container) : List Participant :=
  container.beans.filterMap fun entry => entry.2.mapper?

/-- The exit codes of the generator beans, in the order of registration. -/
def generators (container : Container) : List Int :=
  container.beans.filterMap fun entry => entry.2.code?

/-- Puts a bean under a name: at the place of the bean of that name, else behind all others. -/
def putBean (name : String) (bean : Bean) : List (String × Bean) → List (String × Bean)
  | [] => [(name, bean)]
  | entry :: rest =>
    if entry.1 = name then (name, bean) :: rest else entry :: putBean name bean rest

/-- Registers a bean. A closed container refuses every bean, and one that does not allow overriding
refuses a name that is taken. -/
def registerBean (container : Container) (name : String) (bean : Bean) :
    Except ContainerFault Container :=
  if container.isClosed then .error .closed
  else if container.hasBean name && !container.allowOverriding then .error (.duplicateBean name)
  else .ok { container with beans := putBean name bean container.beans }

/-- Records that a source was loaded. -/
def registerSource (container : Container) (name : String) : Container :=
  { container with sources := container.sources ++ [name] }

/-- First section of a refresh: only a container that is neither refreshed nor closed goes on, and
reports the refresh to the startup it has then. -/
def beginRefresh (container : Container) : Except ContainerFault Startup :=
  match container.phase with
  | .created => .ok container.startup
  | .active => .error .alreadyRefreshed
  | .closed => .error .closed

/-- Second section of a refresh. It does not look at the phase again. -/
def markActive (container : Container) : Container := { container with phase := .active }

/-- What the first section of a close hands to the rest of it. -/
structure Closing where
  /-- Whether the container was active. -/
  wasActive : Bool
  /-- The callbacks to run. -/
  callbacks : List CloseCallback
  /-- The closed container. -/
  closed : Container
  deriving Repr

/-- First section of a close: a container that is not closed becomes closed and gives up its
callbacks. -/
def beginClose (container : Container) : Option Closing :=
  if container.isClosed then none
  else some {
    wasActive := container.isActive
    callbacks := container.closeCallbacks
    closed := { container with phase := .closed, closeCallbacks := [] } }

/-- Keeps a callback for the close. -/
def addCallback (container : Container) (callback : CloseCallback) : Container :=
  { container with closeCallbacks := container.closeCallbacks ++ [callback] }

/-- Counts a close, if the container is a tracking one. -/
def countClose (container : Container) : Container :=
  { container with
    tracking :=
      container.tracking.map fun tracking => { tracking with closes := tracking.closes + 1 } }

/-- Registering puts a name behind the names there are, unless it is among them. -/
theorem map_fst_putBean (name : String) (bean : Bean) (beans : List (String × Bean)) :
    (putBean name bean beans).map Prod.fst =
      if name ∈ beans.map Prod.fst then beans.map Prod.fst else beans.map Prod.fst ++ [name] := by
  induction beans with
  | nil => rfl
  | cons entry rest ih =>
    by_cases same : entry.1 = name
    · simp [putBean, same]
    · have other : ¬ name = entry.1 := fun equal => same equal.symm
      simp only [putBean, same, if_false, List.map_cons, ih, List.mem_cons, other, false_or]
      split <;> simp

/-- Only a bean of the registered name changes. -/
theorem lookup_putBean (name : String) (bean : Bean) (beans : List (String × Bean))
    (other : String) :
    (putBean name bean beans).lookup other =
      if other = name then some bean else beans.lookup other := by
  induction beans with
  | nil =>
    by_cases same : other = name
    · simp [putBean, same]
    · have differs : (other == name) = false := by simpa using same
      simp [putBean, List.lookup_cons, same, differs]
  | cons entry rest ih => grind [putBean]

@[simp] theorem isActive_markActive (container : Container) :
    container.markActive.isActive = true :=
  rfl

/-- A closed container has nothing left to close. -/
theorem beginClose_eq_none_iff {container : Container} :
    container.beginClose = none ↔ container.isClosed = true := by
  simp [beginClose]

theorem isClosed_of_beginClose {container : Container} {closing : Closing}
    (begun : container.beginClose = some closing) : closing.closed.isClosed = true := by
  unfold beginClose at begun
  split at begun
  · simp at begun
  · simp only [Option.some.injEq] at begun
    subst begun
    rfl

/-- A closed container accepts no bean. -/
theorem registerBean_of_isClosed {container : Container} (closed : container.isClosed = true)
    (name : String) (bean : Bean) : container.registerBean name bean = .error .closed := by
  simp [registerBean, closed]

end Container

end Launchpad
