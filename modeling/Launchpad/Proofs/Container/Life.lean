import Launchpad.Container.Basic

/-!
# When a closed container stays closed

A refresh looks at the phase in one section and sets it in another, with calls to the startup in
between. A container that is closed meanwhile becomes active again; one that is closed while no
refresh is between its sections never does.
-/

namespace Launchpad.Container

/-- A section of a refresh or of a close, or anything else that is done to a container. -/
inductive LifeEvent where
  | refreshBegan
  | refreshRefused (fault : ContainerFault)
  /-- The second section of a refresh. -/
  | activated
  | closed
  /-- A close of a container that is closed. -/
  | closedBefore
  | changed

/-- A container and the number of refreshes that are between their sections. -/
structure Life where
  container : Container
  refreshing : Nat := 0

/-- One section. Whatever is not a refresh or a close leaves the phase alone. -/
inductive LifeStep : Life → LifeEvent → Life → Prop where
  | refreshBegan {life startup} (allowed : life.container.beginRefresh = .ok startup) :
      LifeStep life .refreshBegan { life with refreshing := life.refreshing + 1 }
  | refreshRefused {life fault} (refused : life.container.beginRefresh = .error fault) :
      LifeStep life (.refreshRefused fault) life
  | activated {container rest} :
      LifeStep ⟨container, rest + 1⟩ .activated ⟨container.markActive, rest⟩
  | closed {life closing} (begun : life.container.beginClose = some closing) :
      LifeStep life .closed { life with container := closing.closed }
  | closedBefore {life} (closed : life.container.beginClose = none) :
      LifeStep life .closedBefore life
  | changed {life container} (kept : container.phase = life.container.phase) :
      LifeStep life .changed { life with container }

/-- Sections one after the other. -/
inductive LifeSteps : Life → List LifeEvent → Life → Prop where
  | nil {life} : LifeSteps life [] life
  | cons {life event next events last} (taken : LifeStep life event next)
      (rest : LifeSteps next events last) : LifeSteps life (event :: events) last

/-- A closed container cannot be refreshed. -/
theorem beginRefresh_of_isClosed {container : Container} (closed : container.isClosed = true) :
    container.beginRefresh = .error .closed := by
  have phase : container.phase = .closed := by simpa [isClosed] using closed
  simp [beginRefresh, phase]

/-- A closed container is not active. -/
theorem isActive_of_isClosed {container : Container} (closed : container.isClosed = true) :
    container.isActive = false := by
  have phase : container.phase = .closed := by simpa [isClosed] using closed
  simp [isActive, phase]

/-- Closed, and no refresh is between its sections. -/
structure Life.Settled (life : Life) : Prop where
  closed : life.container.isClosed = true
  alone : life.refreshing = 0

/-- Nothing unsettles a container. -/
theorem Life.Settled.step {life next : Life} {event : LifeEvent} (settled : life.Settled)
    (taken : LifeStep life event next) : next.Settled := by
  obtain ⟨closed, alone⟩ := settled
  cases taken with
  | refreshBegan allowed => cases (beginRefresh_of_isClosed closed).symm.trans allowed
  | refreshRefused | closedBefore => exact ⟨closed, alone⟩
  | activated => cases alone
  | closed begun => exact ⟨isClosed_of_beginClose begun, alone⟩
  | changed kept => exact ⟨by simpa [isClosed, kept] using closed, alone⟩

/-- What is settled stays settled, whatever happens. -/
theorem Life.Settled.steps {life last : Life} {events : List LifeEvent} (settled : life.Settled)
    (steps : LifeSteps life events last) : last.Settled := by
  induction steps with
  | nil => exact settled
  | cons taken _ ih => exact ih (settled.step taken)

/-- A closed container stays inactive, whatever happens, exactly if no refresh was between its
sections when it was closed. -/
theorem stays_inactive_iff {life : Life} (closed : life.container.isClosed = true) :
    (∀ events last, LifeSteps life events last → last.container.isActive = false) ↔
      life.refreshing = 0 := by
  constructor
  · intro inactive
    obtain ⟨container, _ | rest⟩ := life
    · rfl
    · have revived := inactive [.activated] _ (.cons .activated .nil)
      cases revived
  · intro alone events last steps
    have settled : life.Settled := ⟨closed, alone⟩
    exact isActive_of_isClosed (settled.steps steps).closed

/-- A refresh that was overtaken by a close makes the closed container active. -/
theorem revived_of_overtaken {container : Container} (new : container.phase = .created) :
    ∃ last, LifeSteps { container } [.refreshBegan, .closed, .activated] last ∧
      last.container.isActive = true := by
  have allowed : container.beginRefresh = .ok container.startup := by simp [beginRefresh, new]
  obtain ⟨closing, begun⟩ : ∃ closing, container.beginClose = some closing := by
    simp [beginClose, isClosed, new]
  exact ⟨_, .cons (.refreshBegan allowed) (.cons (.closed begun) (.cons .activated .nil)), rfl⟩

end Launchpad.Container
