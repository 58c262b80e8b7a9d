import Launchpad.Command
import Launchpad.Proofs.Bootstrap.Passage
import Launchpad.Proofs.Operation.Coordinating

/-!
# What happens to stores

`StoreFraming` collects what a relation between worlds needs so that everything respects it which
uses no store, and `RegistryFraming` what it needs so that registrations and closes respect it too.
An operation that calls participants respects it if they do. Only a get does more to a store.
-/

namespace Launchpad

/-- The store of a handle after a change. -/
theorem World.store_modifyStore (world : World) (ref other : StoreRef)
    (change : BootstrapStore → BootstrapStore) :
    (world.modifyStore ref change).store other =
      if other = ref ∧ ref.index < world.stores.length then change (world.store ref)
      else world.store other := by
  by_cases same : other = ref
  · subst same
    by_cases made : other.index < world.stores.length
    · rw [if_pos ⟨rfl, made⟩, store_modifyStore_self _ _ _ made]
    · rw [if_neg fun both => made both.2]
      simp [modifyStore, store, List.getElem?_eq_none (Nat.le_of_not_lt made)]
  · have index : ref.index ≠ other.index := fun here => same (by cases ref; cases other; simp_all)
    rw [if_neg fun both => same both.1]
    simp [modifyStore, store, index]

/-- A new store is empty, like one that was not made. -/
theorem World.store_of_added (world : World) (ref : StoreRef) :
    { world with stores := world.stores ++ [({} : BootstrapStore)] }.store ref =
      world.store ref := by
  unfold World.store
  dsimp only
  by_cases made : ref.index < world.stores.length
  · rw [List.getElem?_append_left made]
  · rw [List.getElem?_append_right (Nat.le_of_not_lt made),
      List.getElem?_eq_none (Nat.le_of_not_lt made)]
    cases ref.index - world.stores.length <;> rfl

/-- A relation between worlds that goes from one operation to the next, and only cares for the
record of calls and for stores. -/
structure StoreFraming (relation : World → World → Prop) : Prop where
  refl : ∀ world, relation world world
  trans : ∀ {first second third}, relation first second → relation second third →
    relation first third
  aside : ∀ {before after : World}, after.stores = before.stores →
    after.journal = before.journal → relation before after
  make : ∀ world : World,
    relation world { world with stores := world.stores ++ [({} : BootstrapStore)] }

/-- Such a relation that does not care for registrations and for closes that begin either. -/
structure RegistryFraming (relation : World → World → Prop) : Prop extends
    StoreFraming relation where
  advance : ∀ (world : World) (ref : StoreRef) (after : BootstrapStore),
    (world.store ref).Advances after → relation world (world.modifyStore ref fun _ => after)

variable {relation : World → World → Prop} {invoke : Invoker} {α β : Type}

/-- Only to care for stores and calls is not to care for containers and coordinators. -/
theorem StoreFraming.coordinating (framing : StoreFraming relation) :
    CoordinatorFraming relation where
  refl := framing.refl
  trans := framing.trans
  aside stores _ journal := framing.aside stores journal
  deregister _ _ _ := framing.aside rfl rfl

/-- It is not to care for records and furnishings either. -/
theorem StoreFraming.framing (framing : StoreFraming relation) : Framing relation :=
  framing.coordinating.framing

/-- An operation that leaves stores and calls as they are. -/
theorem Act.Respects.of_stores (framing : StoreFraming relation) {act : Act α}
    (stores : ∀ world, (act.result world).2.stores = world.stores)
    (journal : ∀ world, (act.result world).2.journal = world.journal) :
    Act.Respects relation act :=
  fun world => framing.aside (stores world) (journal world)

section

variable (framing : StoreFraming relation)

include framing

/-- Changing a coordinator leaves the stores. -/
theorem Act.Respects.modifyCoordinator (ref : CoordinatorRef)
    (change : ShutdownCoordinator → ShutdownCoordinator) :
    Act.Respects relation (Act.modifyCoordinator ref change) :=
  .of_stores framing (fun _ => rfl) fun _ => rfl

/-- Making a container leaves the stores. -/
theorem Container.respects_make (kind : ApplicationKind) (options : Container.Options) :
    Act.Respects relation (Container.make kind options) := by
  obtain ⟨id, tracking, _, _⟩ := options
  cases id <;> cases tracking <;> exact .of_stores framing (fun _ => rfl) fun _ => rfl

namespace BootstrapStore

/-- A new store is one that the relation does not care for. -/
theorem respects_make : Act.Respects relation BootstrapStore.make := framing.make

end BootstrapStore

namespace ShutdownCoordinator

/-- Finding or making the coordinator of the process leaves the stores. -/
theorem respects_shared : Act.Respects relation shared := by
  refine .look framing.framing (fun _ => rfl) fun world => ?_
  split
  · exact .of_pure framing.framing _
  · exact .of_stores framing (fun _ => rfl) fun _ => rfl

end ShutdownCoordinator

end

section

variable (framing : RegistryFraming relation)

include framing

namespace BootstrapStore

/-- A registration advances the store, or is refused and leaves it. -/
theorem respects_register (ref : StoreRef) (type : String) (supplier : InstanceSupplier)
    (ifAbsent : Bool) : Act.Respects relation (register ref type supplier ifAbsent) := by
  intro world
  refine Act.Respects.bind_from (framing.refl world) ?_
  rintro _ _ ⟨⟩ -
  cases inserted : (world.store ref).insert type supplier ifAbsent with
  | error => exact framing.refl world
  | ok answer => exact framing.advance world ref _ (.insert inserted)

/-- A close listener advances the store, or is refused and leaves it. -/
theorem respects_listen (ref : StoreRef) (participant : Participant) :
    Act.Respects relation (listen ref participant) := by
  intro world
  refine Act.Respects.bind_from (framing.refl world) ?_
  rintro _ _ ⟨⟩ -
  cases added : (world.store ref).addCloseListener participant with
  | error => exact framing.refl world
  | ok answer => exact framing.advance world ref _ (.addCloseListener added)

/-- A close that begins advances the store, or is refused and leaves it. -/
theorem respects_begin (ref : StoreRef) : Act.Respects relation (begin ref) := by
  intro world
  refine Act.Respects.bind_from (framing.refl world) ?_
  rintro _ _ ⟨⟩ -
  cases begun : (world.store ref).beginClose with
  | error => exact framing.refl world
  | ok answer => exact framing.advance world ref _ (.beginClose begun)

end BootstrapStore

end

/-- What a relation needs so that every run respects it, beyond what furnishing a container does. -/
structure RunFraming (relation : World → World → Prop) (invoke : Invoker) : Prop extends
    Framing relation where
  calls : ∀ call : Call, Act.Respects relation (invoke call)
  makeStore : Act.Respects relation BootstrapStore.make
  beginClose : ∀ store, Act.Respects relation (BootstrapStore.begin store)
  make : ∀ kind options, Act.Respects relation (Container.make kind options)
  registers : ∀ coordinator container,
    Act.Respects relation (ShutdownCoordinator.registerContainer invoke coordinator container)
  triggers : ∀ coordinator, Act.Respects relation (ShutdownCoordinator.trigger invoke coordinator)
  onClose : ∀ container callback,
    Act.Respects relation (Container.onClose invoke container callback)
  refresh : ∀ container, Act.Respects relation (Container.refresh invoke container)
  close : ∀ container, Act.Respects relation (Container.close invoke container)
  attach : ∀ container listeners, Act.Respects relation (Act.modifyContainer container fun held =>
    { held with listeners := held.listeners ++ listeners })

section

variable (framing : RunFraming relation invoke)

include framing

/-- Every errand of a run respects it. -/
theorem RunFraming.respects_errand (errand : Errand) :
    Act.Respects relation (errand.carryOut invoke) := by
  have others : ∀ call : Call, call.isEvent = false → Act.Respects relation (invoke call) :=
    fun call _ => framing.calls call
  have frame := framing.toFraming
  by_cases quiet : errand.isQuiet = true
  · exact Errand.respects_carryOut frame others quiet
  · cases errand with
    | makeStore => exact framing.makeStore
    | beginCloseStore store => exact framing.beginClose store
    | createContainer factory kind =>
      cases factory with
      | standard | tracking =>
        exact .bind frame (framing.make _ _) fun _ => .of_pure frame _
      | custom participant => exact framing.calls _
    | registerForShutdown coordinator container =>
      exact framing.registers coordinator container
    | refresh container => exact framing.refresh container
    | publish container event =>
      exact Container.respects_publish frame framing.calls container event
    | close container => exact framing.close container
    | tell listener notice =>
      cases listener with
      | eventPublishing listeners =>
        exact RunListener.respects_tell_of_publisher frame framing.calls listeners
          (fun container => framing.attach container listeners) notice
      | recorder | custom => exact absurd rfl quiet
    | showEnvironment listener store environment =>
      cases listener with
      | eventPublishing listeners =>
        exact RunListener.respects_environmentPrepared_of_publisher frame framing.calls listeners
          store environment
      | recorder | custom => exact absurd rfl quiet
    | tellFailed listener container failure =>
      cases listener with
      | eventPublishing listeners =>
        exact RunListener.respects_publishFailure frame framing.calls container failure listeners
      | recorder | custom => exact absurd rfl quiet
    | _ => exact absurd rfl quiet

/-- Every plan respects it, since a plan does nothing but carry out errands. -/
theorem RunFraming.respects_plan (plan : Plan α) :
    Act.Respects relation (plan.carryOut invoke) := by
  induction plan with
  | done answer => exact .of_pure framing.toFraming answer
  | perform errand next ih =>
    exact .bind framing.toFraming (framing.respects_errand errand) ih

end

section

variable (framing : RegistryFraming relation)
  (calls : ∀ call : Call, Act.Respects relation (invoke call))

include framing calls

/-- Runs respect what the participants respect. -/
theorem RegistryFraming.running : RunFraming relation invoke :=
  have storing := framing.toStoreFraming
  have coordinating := storing.coordinating
  have changes := Act.Respects.modifyCoordinator storing
  have keeps := fun container =>
    Container.respects_onClose (coordinating.containing container) calls
  have closes := fun container => Container.respects_close (coordinating.containing container) calls
  { toFraming := framing.framing
    calls := calls
    makeStore := BootstrapStore.respects_make storing
    beginClose := BootstrapStore.respects_begin framing
    make := Container.respects_make storing
    registers := fun coordinator container =>
      ShutdownCoordinator.respects_registerContainer framing.framing (changes coordinator)
        (keeps container _)
    triggers := fun coordinator =>
      ShutdownCoordinator.respects_trigger framing.framing (changes coordinator) calls closes
    onClose := keeps
    refresh := fun container => Container.respects_refresh (coordinating.containing container) calls
    close := closes
    attach := fun container _ => .modifyContainer coordinating container _ }

end

end Launchpad
