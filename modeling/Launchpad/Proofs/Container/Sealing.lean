import Launchpad.Proofs.Operation.Commanding

/-!
# A closed container keeps its beans

Whatever anybody does, a container that is closed stays closed and holds the beans that it had: a
registration and a refresh are refused, and nothing else touches its beans or its phase. A refresh
that is under way opens the container again if it is closed in between, so `StaysClosed` is about
whole operations.
-/

namespace Launchpad

/-- A container that is closed stays closed, with the beans that it has. -/
def StaysClosed (ref : ContainerRef) (before after : World) : Prop :=
  (before.container ref).isClosed = true →
    (after.container ref).isClosed = true ∧
      (after.container ref).beans = (before.container ref).beans

/-- A container that is closed was made. -/
theorem World.made_of_isClosed {world : World} {ref : ContainerRef}
    (closed : (world.container ref).isClosed = true) : ref.index < world.containers.length := by
  by_contra unmade
  rw [World.container_of_unmade unmade] at closed
  cases closed

namespace StaysClosed

variable {ref : ContainerRef} {before after : World}

theorem refl (world : World) : StaysClosed ref world world := fun closed => ⟨closed, rfl⟩

theorem trans {first second third : World} (start : StaysClosed ref first second)
    (rest : StaysClosed ref second third) : StaysClosed ref first third := by
  intro closed
  obtain ⟨still, kept⟩ := start closed
  obtain ⟨last, same⟩ := rest still
  exact ⟨last, same.trans kept⟩

theorem of_containers (same : after.containers = before.containers) :
    StaysClosed ref before after := by
  intro closed
  rw [World.container_congr same]
  exact ⟨closed, rfl⟩

/-- A container is changed, which keeps it closed and with its beans if it is the one. -/
theorem modifyContainer (world : World) {held : ContainerRef} {change : Container → Container}
    (kept : held = ref → (world.container ref).isClosed = true →
      (change (world.container ref)).isClosed = true ∧
        (change (world.container ref)).beans = (world.container ref).beans) :
    StaysClosed ref world (world.modifyContainer held change) := by
  intro closed
  by_cases same : held = ref
  · subst same
    rw [World.container_modifyContainer_self _ _ _ (World.made_of_isClosed closed)]
    exact kept rfl closed
  · rw [World.container_modifyContainer_of_ne (Ne.symm same)]
    exact ⟨closed, rfl⟩

/-- Containers are added behind those that there are. -/
theorem of_append {made : List Container} (added : after.containers = before.containers ++ made) :
    StaysClosed ref before after := by
  intro closed
  rw [World.container_of_append added (World.made_of_isClosed closed)]
  exact ⟨closed, rfl⟩

/-- Records and furnishings leave closed containers closed. -/
theorem framing (ref : ContainerRef) : Framing (StaysClosed ref) where
  refl := refl
  trans := trans
  aside containers _ _ _ := of_containers containers
  furnish world _ _ furnishes := by
    apply modifyContainer
    rintro rfl closed
    refine ⟨?_, furnishes.beans closed⟩
    rwa [Container.isClosed, furnishes.phase]

/-- What becomes of another container does not matter. -/
theorem containing {held : ContainerRef} (other : held ≠ ref) :
    ContainerFraming (StaysClosed ref) held where
  toFraming := framing ref
  change world _ _ := modifyContainer world fun same => absurd same other
  deregister _ _ := of_containers rfl

end StaysClosed

variable {ref : ContainerRef} {invoke : Invoker}

/-- An operation that leaves the containers as they are. -/
theorem Act.Respects.of_containers {α : Type} {act : Act α}
    (same : ∀ world, (act.result world).2.containers = world.containers) :
    Act.Respects (StaysClosed ref) act := fun world => .of_containers (same world)

namespace Container

/-- A container that is closed refuses a refresh, and nothing happens. -/
theorem refresh_of_isClosed (invoke : Invoker) {world : World}
    (closed : (world.container ref).isClosed = true) :
    ∃ failure, (refresh invoke ref).result world = (.ok (.error failure), world) := by
  have looks : (Act.container ref).result world = (.ok (world.container ref), world) := rfl
  rw [refresh, Act.result_bind, looks]
  dsimp only
  have refuses : (world.container ref).beginRefresh = .error .closed := by
    have phase : (world.container ref).phase = .closed := by simpa [isClosed] using closed
    rw [beginRefresh, phase]
  rw [refuses]
  cases (world.container ref).refreshFailure with
  | some failure => exact ⟨failure, rfl⟩
  | none => exact ⟨_, rfl⟩

/-- Making a container opens none. -/
theorem staysClosed_make (kind : ApplicationKind) (options : Options) :
    Act.Respects (StaysClosed ref) (make kind options) := by
  obtain ⟨id, tracking, hidesRegistry, refreshFailure⟩ := options
  cases id <;> cases tracking <;> exact fun world => .of_append rfl

variable (calls : ∀ call : Call, Act.Respects (StaysClosed ref) (invoke call))

include calls

/-- A refresh opens no closed container. -/
theorem staysClosed_refresh (held : ContainerRef) :
    Act.Respects (StaysClosed ref) (refresh invoke held) := by
  by_cases same : held = ref
  · subst same
    intro world closed
    obtain ⟨failure, refused⟩ := refresh_of_isClosed invoke closed
    rw [refused]
    exact ⟨closed, rfl⟩
  · exact respects_refresh (StaysClosed.containing same) calls

/-- Registering a close callback opens no closed container. -/
theorem staysClosed_onClose (held : ContainerRef) (callback : CloseCallback) :
    Act.Respects (StaysClosed ref) (onClose invoke held callback) := by
  have framing := StaysClosed.framing ref
  have adds : Act.Respects (StaysClosed ref)
      (Act.modifyContainer held (·.addCallback callback)) :=
    .of_modify fun world => .modifyContainer world fun _ closed => ⟨closed, rfl⟩
  refine .look framing (fun _ => rfl) fun container => ?_
  split
  · cases callback with
    | custom participant => exact calls _
    | deregister coordinator =>
      refine .look framing (fun _ => rfl) fun known => ?_
      split
      · exact .of_pure framing _
      · exact .of_containers fun _ => rfl
  · exact adds

/-- A close opens no closed container. -/
theorem staysClosed_close (held : ContainerRef) :
    Act.Respects (StaysClosed ref) (close invoke held) := by
  by_cases same : held = ref
  · subst same
    have framing := StaysClosed.framing held
    have counts : Act.Respects (StaysClosed held) (Act.modifyContainer held countClose) :=
      .of_modify fun world => .modifyContainer world fun _ closed => ⟨closed, rfl⟩
    have once : Act.Respects (StaysClosed held) (closeOnce invoke held) := by
      intro world closed
      rw [closeOnce_of_closed closed]
      exact ⟨closed, rfl⟩
    refine .bind framing counts fun _ => .bind framing once fun _ =>
      .look framing (fun _ => rfl) fun closed => ?_
    split <;> exact .of_pure framing _
  · exact respects_close (StaysClosed.containing same) calls

end Container

/-- Changing a coordinator leaves a closed container as it is. -/
theorem StaysClosed.changes (coordinator : CoordinatorRef)
    (move : ShutdownCoordinator → ShutdownCoordinator) :
    Act.Respects (StaysClosed ref) (Act.modifyCoordinator coordinator move) :=
  .of_containers fun _ => rfl

/-- Every command leaves a closed container as it finds it, if the participants do. -/
theorem StaysClosed.commanding
    (calls : ∀ call : Call, Act.Respects (StaysClosed ref) (invoke call)) :
    CommandFraming (StaysClosed ref) invoke where
  toFraming := framing ref
  calls := calls
  makeStore := .of_containers fun _ => rfl
  beginClose store := by
    refine .look (framing ref) (fun _ => rfl) fun held => ?_
    split
    · exact .of_pure (framing ref) _
    · exact .of_containers fun _ => rfl
  make := Container.staysClosed_make
  coordinate := changes
  registers coordinator held :=
    ShutdownCoordinator.respects_registerContainer (framing ref) (changes coordinator)
      (Container.staysClosed_onClose calls held _)
  triggers coordinator :=
    ShutdownCoordinator.respects_trigger (framing ref) (changes coordinator) calls
      (Container.staysClosed_close calls)
  onClose := Container.staysClosed_onClose calls
  refresh := Container.staysClosed_refresh calls
  close := Container.staysClosed_close calls
  attach _ _ := .of_modify fun world => .modifyContainer world fun _ closed => ⟨closed, rfl⟩
  restock _ _ := .of_containers fun _ => rfl
  makeCoordinator _ := .of_containers fun _ => rfl

/-- Whatever a participant does when it is called, a container that is closed stays closed, with the
beans that it has. -/
theorem Behaviour.staysClosed (behaviour : Behaviour) (ref : ContainerRef) (limit depth : Nat)
    (call : Call) : Act.Respects (StaysClosed ref) (behaviour.invoker limit depth call) :=
  behaviour.respects (StaysClosed.framing ref) StaysClosed.commanding
    (fun _ _ => .of_containers fun _ => rfl) limit depth.zero_le call

end Launchpad
