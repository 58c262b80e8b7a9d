import Launchpad.Failure.Basic
import Launchpad.Bean
import Launchpad.Handle

/-!
# Bootstrap stores

A bootstrap store exists during the early part of a run. It keeps at most one entry for each type:
a supplier, and the instance that the supplier made if the entry is shared. Registration is only
possible while the store is open; reading stays possible afterwards, so that close listeners can
still fetch instances. As for containers, the definitions here are the sections of the operations
that happen at once.
-/

namespace Launchpad

/-- The failure of a bootstrap operation. -/
structure BootstrapError where
  fault : BootstrapFault
  causes : List Fault := []
  deriving DecidableEq, Repr

namespace BootstrapError

/-- A bootstrap failure by itself. -/
def toFailure (error : BootstrapError) : Failure := ⟨.bootstrap error.fault, error.causes⟩

/-- A bootstrap failure as the error of the run step that met it. -/
def toLaunchError (error : BootstrapError) : LaunchError := ⟨.bootstrap error.fault, error.causes⟩

end BootstrapError

/-- The bootstrap failure caused by a participant's failure. -/
def BootstrapFault.dueTo (fault : BootstrapFault) (cause : Failure) : BootstrapError :=
  ⟨fault, cause.chain⟩

/-- How long an instance is used. -/
inductive Scope where
  /-- Made on first access and kept. -/
  | singleton
  /-- Made on every access. -/
  | prototype
  deriving DecidableEq, Repr

/-- Where the instances of an entry come from. -/
inductive Supply where
  /-- The same existing instance every time. -/
  | existing (held : BootstrapInstance)
  | custom (participant : Participant)
  deriving DecidableEq, Repr

/-- A supplier as it is registered. -/
structure InstanceSupplier where
  supply : Supply
  scope : Scope := .singleton
  /-- The participant that is handed the instance when the store closes, if one was made. -/
  onClose : Option Participant := none
  deriving DecidableEq, Repr

/-- What a store keeps for a type. -/
structure BootstrapEntry where
  type : String
  supply : Supply
  scope : Scope
  /-- The instance that is kept, once a shared one was made. -/
  kept : Option BootstrapInstance := none
  deriving DecidableEq, Repr

/-- What is called when a store closes. -/
inductive CloseAction where
  /-- Hands the kept instance of the type to the participant, if there is one. -/
  | handOver (type : String) (participant : Participant)
  | listener (participant : Participant)
  deriving DecidableEq, Repr

/-- A store of instances by type. -/
structure BootstrapStore where
  entries : List BootstrapEntry := []
  closeActions : List CloseAction := []
  closed : Bool := false
  deriving DecidableEq, Repr, Inhabited

namespace BootstrapStore

/-- The entry of a type. -/
def find? (store : BootstrapStore) (type : String) : Option BootstrapEntry :=
  store.entries.find? (·.type = type)

/-- Whether a type is registered. -/
def isRegistered (store : BootstrapStore) (type : String) : Bool := (store.find? type).isSome

/-- The kept instance of a type. -/
def kept? (store : BootstrapStore) (type : String) : Option BootstrapInstance :=
  (store.find? type).bind (·.kept)

/-- Registers a supplier for a type. A closed store refuses every type; an open one refuses a type
that is registered, or passes over it without a fault if `ifAbsent` is set. The answer says whether
the supplier was registered. -/
def insert (store : BootstrapStore) (type : String) (supplier : InstanceSupplier)
    (ifAbsent : Bool) : Except BootstrapFault (Bool × BootstrapStore) :=
  if store.closed then .error .closed
  else if store.isRegistered type then
    if ifAbsent then .ok (false, store) else .error (.alreadyRegistered type)
  else
    let entry := { type, supply := supplier.supply, scope := supplier.scope }
    let actions := (supplier.onClose.map (CloseAction.handOver type)).toList
    .ok (true, { store with
      entries := store.entries ++ [entry]
      closeActions := store.closeActions ++ actions })

/-- Keeps an instance for a type that has none yet. -/
def keepIn (type : String) (made : BootstrapInstance) (entry : BootstrapEntry) : BootstrapEntry :=
  if entry.type = type then { entry with kept := some (entry.kept.getD made) } else entry

/-- Keeps an instance for a type, unless one is kept already. -/
def keep (store : BootstrapStore) (type : String) (made : BootstrapInstance) : BootstrapStore :=
  { store with entries := store.entries.map (keepIn type made) }

/-- Adds a listener that is called when the store closes. -/
def addCloseListener (store : BootstrapStore) (participant : Participant) :
    Except BootstrapFault BootstrapStore :=
  if store.closed then .error .closed
  else .ok { store with closeActions := store.closeActions ++ [.listener participant] }

/-- First section of a close: an open store becomes closed and gives up its close actions. -/
def beginClose (store : BootstrapStore) :
    Except BootstrapFault (List CloseAction × BootstrapStore) :=
  if store.closed then .error .closed
  else .ok (store.closeActions, { store with closed := true, closeActions := [] })

@[simp] theorem type_keepIn (type : String) (made : BootstrapInstance) (entry : BootstrapEntry) :
    (keepIn type made entry).type = entry.type := by
  unfold keepIn
  split <;> rfl

/-- A registered type keeps the instance that was kept first. -/
theorem kept?_keep {store : BootstrapStore} {type : String} (made : BootstrapInstance)
    (registered : store.isRegistered type = true) :
    (store.keep type made).kept? type = some ((store.kept? type).getD made) := by
  obtain ⟨entry, found⟩ := Option.isSome_iff_exists.1 registered
  have named : entry.type = type := by
    have holds := List.find?_some found
    simpa using holds
  have kept : (store.keep type made).find? type = some (keepIn type made entry) := by
    have same : (fun held => decide (held.type = type)) ∘ keepIn type made =
        fun held => decide (held.type = type) := funext fun held => by simp
    simp only [find?] at found ⊢
    simp only [keep, List.find?_map, same, found, Option.map_some]
  simp [kept?, kept, found, keepIn, named]

/-- A closed store accepts no supplier. -/
theorem insert_of_closed {store : BootstrapStore} (closed : store.closed = true) (type : String)
    (supplier : InstanceSupplier) (ifAbsent : Bool) :
    store.insert type supplier ifAbsent = .error .closed := by
  simp [insert, closed]

theorem closed_of_beginClose {store after : BootstrapStore} {actions : List CloseAction}
    (begun : store.beginClose = .ok (actions, after)) :
    store.closed = false ∧ after.closed = true ∧ actions = store.closeActions := by
  unfold beginClose at begun
  split at begun
  · simp at begun
  · rename_i isOpen
    simp only [Except.ok.injEq, Prod.mk.injEq] at begun
    obtain ⟨rfl, rfl⟩ := begun
    exact ⟨by simpa using isOpen, rfl, rfl⟩

end BootstrapStore

end Launchpad
