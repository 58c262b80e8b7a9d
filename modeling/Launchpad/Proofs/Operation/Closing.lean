import Launchpad.Proofs.Operation.Framing

/-!
# Refreshing and closing, section by section

What a refresh or a close that comes to its end has done, in the order of its sections: the worlds
between them, and the calls to participants that lead from one to the next.
-/

namespace Launchpad.Container

variable {invoke : Invoker} {ref : ContainerRef} {world last : World}

/-- Only a new container begins a refresh. -/
theorem phase_of_beginRefresh {container : Container} {startup : Startup}
    (begun : container.beginRefresh = .ok startup) : container.phase = .created := by
  unfold beginRefresh at begun
  split at begun
  · assumption
  · cases begun
  · cases begun

/-- The failure with which a refresh ends before it begins, unless it begins. -/
def refusal? (container : Container) : Option Failure :=
  match container.refreshFailure, container.beginRefresh with
  | some failure, _ => some failure
  | none, .error fault => some (.container fault)
  | none, .ok _ => none

/-- Reports to a startup that a refresh begins. -/
def announceRefresh (invoke : Invoker) (startup : Startup) (id : String) : Act StartupStep := do
  let step ← startup.begin invoke refreshStep
  startup.tag invoke step "context" id

/-- Logs a refresh and ends its step. -/
def recordRefresh (invoke : Invoker) (ref : ContainerRef) (startup : Startup) (step : StartupStep) :
    Act Unit := do
  let active ← Act.container ref
  Act.log .info "Context refreshed" [
    ("context", active.id), ("kind", active.kind.name), ("beans", toString active.beans.length),
    ("lazy", toString active.lazyInitialization)]
  startup.finish invoke step

/-- A refresh that is refused does nothing. -/
theorem refresh_of_refused {failure : Failure}
    (refused : (world.container ref).refusal? = some failure) :
    (refresh invoke ref).result world = (.ok (.error failure), world) := by
  refine Act.result_bind_ok_iff.2 ⟨_, world, rfl, ?_⟩
  unfold refusal? at refused
  cases healthy : (world.container ref).refreshFailure with
  | some own =>
    rw [healthy] at refused
    cases refused
    rfl
  | none =>
    rw [healthy] at refused
    cases begun : (world.container ref).beginRefresh with
    | error fault =>
      rw [begun] at refused
      cases refused
      rfl
    | ok startup =>
      rw [begun] at refused
      cases refused

/-- A refresh that is not refused is announced, makes the container active, is recorded, and is
published. -/
theorem refresh_of_accepted (accepted : (world.container ref).refusal? = none) :
    (refresh invoke ref).result world = (do
      let step ← announceRefresh invoke (world.container ref).startup (world.container ref).id
      Act.modifyContainer ref markActive
      recordRefresh invoke ref (world.container ref).startup step
      publish invoke ref (.contextRefreshed (world.container ref).id)).result world := by
  have looks : (Act.container ref).result world = (.ok (world.container ref), world) := rfl
  unfold refusal? at accepted
  rw [refresh, Act.result_bind, looks]
  dsimp only
  cases healthy : (world.container ref).refreshFailure with
  | some own =>
    rw [healthy] at accepted
    cases accepted
  | none =>
    rw [healthy] at accepted
    cases begun : (world.container ref).beginRefresh with
    | error fault =>
      rw [begun] at accepted
      cases accepted
    | ok startup =>
      have same : startup = (world.container ref).startup := by
        unfold beginRefresh at begun
        split at begun <;> cases begun
        rfl
      subst same
      simp only [announceRefresh, recordRefresh, bind_assoc]

/-- The sections of a refresh: it is refused and does nothing, or it is announced, the container
becomes active, the refresh is recorded, and the answer is what its listeners say to it. -/
theorem sections_of_refresh {answer : Except Failure Unit}
    (ran : (refresh invoke ref).result world = (.ok answer, last)) :
    (∃ failure, (world.container ref).refusal? = some failure ∧ answer = .error failure ∧
      last = world) ∨
    ((world.container ref).refusal? = none ∧ ∃ step announced recorded,
      (announceRefresh invoke (world.container ref).startup (world.container ref).id).result world =
        (.ok step, announced) ∧
      (recordRefresh invoke ref (world.container ref).startup step).result
        (announced.modifyContainer ref markActive) = (.ok (), recorded) ∧
      (publish invoke ref (.contextRefreshed (world.container ref).id)).result recorded =
        (.ok answer, last)) := by
  cases verdict : (world.container ref).refusal? with
  | some failure =>
    rw [refresh_of_refused verdict] at ran
    cases ran
    exact .inl ⟨failure, rfl, rfl, rfl⟩
  | none =>
    rw [refresh_of_accepted verdict] at ran
    obtain ⟨step, announced, announces, ran⟩ := Act.result_bind_ok_iff.1 ran
    obtain ⟨_, _, marks, ran⟩ := Act.result_bind_ok_iff.1 ran
    rw [Act.result_modifyContainer] at marks
    cases marks
    obtain ⟨_, recorded, records, published⟩ := Act.result_bind_ok_iff.1 ran
    exact .inr ⟨rfl, step, announced, recorded, announces, records, published⟩

/-- An open container keeps a callback. -/
theorem onClose_result (isOpen : (world.container ref).isClosed = false)
    (callback : CloseCallback) :
    (onClose invoke ref callback).result world =
      (.ok (), world.modifyContainer ref (·.addCallback callback)) := by
  change (if (world.container ref).isClosed = true then runCallback invoke ref callback
    else Act.modifyContainer ref (·.addCallback callback)).result world = _
  rw [isOpen]
  rfl

/-- The container as a close leaves it before anybody is told. -/
def shut (container : Container) : Container :=
  { container with phase := .closed, closeCallbacks := [] }

/-- Tells the listeners of a container that was active that it is closed. -/
def announceClose (invoke : Invoker) (ref : ContainerRef) (container : Container) : Act Unit := do
  if container.isActive then
    if let .error failure ← publish invoke ref (.contextClosed container.id) then
      Act.log .warn "Exception thrown from listener while closing" [
        ("context", container.id), ("error", failure.message)]

/-- The close of an open container shuts it, tells its listeners, runs its callbacks, and is
logged. -/
theorem closeOnce_of_open (isOpen : (world.container ref).isClosed = false) :
    (closeOnce invoke ref).result world = (do
      Act.modifyContainer ref fun _ => (world.container ref).shut
      announceClose invoke ref (world.container ref)
      Act.forEach (runCallback invoke ref) (world.container ref).closeCallbacks
      Act.log .info "Context closed" [("context", (world.container ref).id)]).result world := by
  have looks : (Act.container ref).result world = (.ok (world.container ref), world) := rfl
  have begun : (world.container ref).beginClose = some {
      wasActive := (world.container ref).isActive
      callbacks := (world.container ref).closeCallbacks
      closed := (world.container ref).shut } := by
    simp [beginClose, isOpen, shut]
  rw [closeOnce, Act.result_bind, looks]
  dsimp only
  rw [begun]
  dsimp only
  unfold announceClose
  split
  · simp only [bind_assoc]
    congr 3
    funext _
    congr 1
    funext told
    cases told <;> rfl
  · rfl

/-- The sections of the close of an open container that comes to its end. -/
theorem sections_of_closeOnce (isOpen : (world.container ref).isClosed = false)
    (ran : (closeOnce invoke ref).result world = (.ok (), last)) :
    ∃ announced unwound,
      (announceClose invoke ref (world.container ref)).result
        (world.modifyContainer ref fun _ => (world.container ref).shut) = (.ok (), announced) ∧
      (Act.forEach (runCallback invoke ref) (world.container ref).closeCallbacks).result announced =
        (.ok (), unwound) ∧
      (Act.log .info "Context closed" [("context", (world.container ref).id)]).result unwound =
        (.ok (), last) := by
  rw [closeOnce_of_open isOpen] at ran
  obtain ⟨_, _, shuts, ran⟩ := Act.result_bind_ok_iff.1 ran
  rw [Act.result_modifyContainer] at shuts
  cases shuts
  obtain ⟨_, announced, announces, ran⟩ := Act.result_bind_ok_iff.1 ran
  obtain ⟨_, unwound, unwinds, logs⟩ := Act.result_bind_ok_iff.1 ran
  exact ⟨announced, unwound, announces, unwinds, logs⟩

/-- A container that is closed already is left as it is. -/
theorem closeOnce_of_closed (closed : (world.container ref).isClosed = true) :
    (closeOnce invoke ref).result world = (.ok (), world) := by
  apply Act.result_bind_ok_iff.2 ⟨_, world, rfl, _⟩
  rw [beginClose_eq_none_iff.2 closed]
  rfl

/-- A close first counts itself, and only answers after the container was closed. -/
theorem closeOnce_of_close {answer : Except Failure Unit}
    (ran : (close invoke ref).result world = (.ok answer, last)) :
    (closeOnce invoke ref).result (world.modifyContainer ref countClose) = (.ok (), last) := by
  obtain ⟨_, _, count, ran⟩ := Act.result_bind_ok_iff.1 ran
  rw [Act.result_modifyContainer] at count
  cases count
  obtain ⟨_, _, closed, ran⟩ := Act.result_bind_ok_iff.1 ran
  obtain ⟨_, _, looked, ran⟩ := Act.result_bind_ok_iff.1 ran
  cases looked
  rw [closed]
  split at ran <;> cases ran <;> rfl

end Launchpad.Container
