import Launchpad.Proofs.Operation.Coordinating

/-!
# While a shutdown is under way

From the moment a shutdown has taken everything until it is finished, nothing is registered with its
coordinator. Operations respect this however they end, so it holds in a shutdown that is broken off,
too.
-/

namespace Launchpad

/-- A shutdown of a coordinator has taken everything and is under way. -/
structure Emptied (ref : CoordinatorRef) (world : World) : Prop where
  made : ref.index < world.coordinators.length
  held : (world.coordinator ref).dropped = false
  busy : (world.coordinator ref).status = .inProgress
  empty : (world.coordinator ref).containers = []

/-- As long as a shutdown is under way, nothing is registered. -/
def StaysEmptied (ref : CoordinatorRef) (before after : World) : Prop :=
  Emptied ref before → Emptied ref after

section

variable {ref other : CoordinatorRef} {world : World}
  {move : ShutdownCoordinator → ShutdownCoordinator}

/-- A coordinator is changed. The one that was emptied stays empty and busy. -/
theorem Emptied.modifyCoordinator (emptied : Emptied ref world)
    (here : ref = other → (move (world.coordinator ref)).dropped = (world.coordinator ref).dropped ∧
      (move (world.coordinator ref)).status = (world.coordinator ref).status ∧
      (move (world.coordinator ref)).containers.Sublist (world.coordinator ref).containers) :
    Emptied ref (world.modifyCoordinator other move) := by
  have made : ref.index < (world.modifyCoordinator other move).coordinators.length :=
    World.made_modifyCoordinator emptied.made
  by_cases same : ref = other
  · subst same
    obtain ⟨dropped, status, fewer⟩ := here rfl
    have moved := World.coordinator_modifyCoordinator_self world ref move emptied.made
    rw [emptied.empty, List.sublist_nil] at fewer
    refine ⟨made, ?_, ?_, ?_⟩
    · rw [moved, dropped, emptied.held]
    · rw [moved, status, emptied.busy]
    · rw [moved, fewer]
  · have still : (world.modifyCoordinator other move).coordinator ref = world.coordinator ref :=
      World.coordinator_modifyCoordinator_of_ne same move
    exact ⟨made, still ▸ emptied.held, still ▸ emptied.busy, still ▸ emptied.empty⟩

/-- A shutdown begins with taking everything. -/
theorem Emptied.of_begin (made : ref.index < world.coordinators.length)
    (held : (world.coordinator ref).dropped = false) :
    Emptied ref (world.modifyCoordinator ref fun _ => (world.coordinator ref).begin.2) := by
  have moved := World.coordinator_modifyCoordinator_self world ref
    (fun _ => (world.coordinator ref).begin.2) made
  refine ⟨World.made_modifyCoordinator made, ?_, ?_, ?_⟩
  · rw [moved]
    exact held
  · rw [moved]
    rfl
  · rw [moved]
    rfl

/-- An emptied coordinator does not care for containers, or for one of them being taken off. -/
theorem StaysEmptied.framing (ref : CoordinatorRef) : CoordinatorFraming (StaysEmptied ref) where
  refl _ emptied := emptied
  trans first rest emptied := rest (first emptied)
  aside {before after} _ coordinators _ emptied := by
    have same : after.coordinator ref = before.coordinator ref := by
      rw [World.coordinator, World.coordinator, coordinators]
    exact ⟨coordinators ▸ emptied.made, same ▸ emptied.held, same ▸ emptied.busy,
      same ▸ emptied.empty⟩
  deregister _ _ _ emptied :=
    emptied.modifyCoordinator fun _ => ⟨rfl, rfl, List.filter_sublist⟩

/-- A change that keeps what a coordinator holds keeps it empty. -/
theorem StaysEmptied.of_stays (world : World) (other : CoordinatorRef)
    (move : ShutdownCoordinator → ShutdownCoordinator)
    (stays : (world.coordinator other).Stays (move (world.coordinator other))) :
    StaysEmptied ref world (world.modifyCoordinator other move) := by
  intro emptied
  apply emptied.modifyCoordinator
  rintro rfl
  exact ⟨stays.dropped, stays.status, stays.containers ▸ List.Sublist.refl _⟩

namespace ShutdownCoordinator

/-- Whatever is done to another coordinator. -/
theorem staysEmptied_moves (different : ref ≠ other)
    (move : ShutdownCoordinator → ShutdownCoordinator) :
    Act.Respects (StaysEmptied ref) (Act.modifyCoordinator other move) :=
  fun _ emptied => emptied.modifyCoordinator fun same => absurd same different

/-- A teardown waits for a shutdown that is under way. -/
theorem staysEmptied_teardown (other : CoordinatorRef) :
    Act.Respects (StaysEmptied ref) (teardown other) := by
  by_cases same : ref = other
  · subst same
    intro world emptied
    change Emptied ref ((if (world.coordinator ref).status = .inProgress then throw .deadlocked
      else Act.modifyCoordinator ref rearm : Act Unit).result world).2
    rw [if_pos emptied.busy]
    exact emptied
  · exact respects_teardown (StaysEmptied.framing ref).framing (staysEmptied_moves same)

variable {invoke : Invoker} (participants : ∀ call, Act.Respects (StaysEmptied ref) (invoke call))

include participants

/-- A coordinator whose shutdown is under way refuses every container. -/
theorem staysEmptied_registerContainer (other : CoordinatorRef) (held : ContainerRef) :
    Act.Respects (StaysEmptied ref) (registerContainer invoke other held) := by
  by_cases same : ref = other
  · subst same
    intro world emptied
    have refused : (world.coordinator ref).register held = .refused :=
      register_eq_refused_iff.2 (by simp [accepting, emptied.busy])
    have nothing : (registerContainer invoke ref held).result world = (.ok false, world) := by
      apply Act.result_bind_ok_iff.2 ⟨_, world, rfl, _⟩
      rw [refused]
      rfl
    rw [nothing]
    exact emptied
  · have framing := StaysEmptied.framing ref
    exact respects_registerContainer framing.framing (staysEmptied_moves same)
      (Container.respects_onClose (framing.containing held) participants _)

/-- A trigger waits for a shutdown that is under way. -/
theorem staysEmptied_trigger (other : CoordinatorRef) :
    Act.Respects (StaysEmptied ref) (trigger invoke other) := by
  by_cases same : ref = other
  · subst same
    intro world emptied
    rw [trigger_result, enter_eq_occupied_iff.2 emptied.busy]
    exact emptied
  · have framing := StaysEmptied.framing ref
    exact respects_trigger framing.framing (staysEmptied_moves same) participants fun held =>
      Container.respects_close (framing.containing held) participants

end ShutdownCoordinator

end

end Launchpad
