import Launchpad.Proofs.Bootstrap.History

/-!
# What commands do to stores

A command that calls nobody only changes a store if it registers something with it. A command that
calls participants in the course of something else respects what they respect, unless it is a get,
which ends by keeping an instance.
-/

namespace Launchpad

variable {relation : World → World → Prop} {invoke : Invoker}

/-- Whether a command registers a type or a close listener with a store. -/
def Command.isRegistration : Command → Bool
  | register .. | listen .. => true
  | _ => false

/-- Whether a command is a get. -/
def Command.isRead : Command → Bool
  | read .. | readOr .. => true
  | _ => false

/-- A command that calls nobody and registers nothing respects a relation that records and new
stores respect. -/
theorem Command.respects_of_quiet (framing : StoreFraming relation) {command : Command}
    (quiet : command.conduct = .quiet) (plain : command.isRegistration = false) :
    Act.Respects relation (command.carryOut invoke) := by
  cases command with
  | makeContainer kind options => exact Container.respects_make framing kind options
  | registerBean held name bean =>
    exact .bind framing.framing (Container.respects_register framing.framing held name bean)
      fun _ => .of_pure framing.framing _
  | makeStore => exact BootstrapStore.respects_make framing
  | sharedCoordinator => exact ShutdownCoordinator.respects_shared framing
  | addAction coordinator stage name participant =>
    refine .bind framing.framing (ShutdownCoordinator.respects_add framing.framing
      (fun _ _ _ _ => framing.aside rfl rfl) coordinator stage name participant) fun added => ?_
    split <;> exact .of_pure framing.framing _
  | teardown coordinator =>
    exact ShutdownCoordinator.respects_teardown framing.framing
      (.modifyCoordinator framing coordinator)
  | readBanner path => exact Banner.respects_ofFile framing.framing path
  | register | listen => cases plain
  | publish | refresh | close | onClose | load | callRunner | resolveExitCode | exit | read | readOr
  | closeStore | registerContainer | trigger | attemptTrigger | render | run | mapFailure =>
    cases quiet
  | _ => exact .of_stores framing (fun _ => rfl) fun _ => rfl

/-- A command that may make several calls and is no get respects a relation that its participants
and the runs of applications respect. -/
theorem Command.respects_of_busy (framing : RunFraming relation invoke) {command : Command}
    (busy : command.conduct = .busy) (plain : command.isRead = false) :
    Act.Respects relation (command.carryOut invoke) := by
  have others : ∀ call : Call, call.isEvent = false → Act.Respects relation (invoke call) :=
    fun call _ => framing.calls call
  have frame := framing.toFraming
  cases command with
  | publish held event => exact Container.respects_publish frame framing.calls held event
  | refresh held => exact framing.refresh held
  | close held => exact framing.close held
  | onClose held participant => exact framing.onClose held _
  | load loader held sources => exact Container.respects_load frame others loader held sources
  | callRunner runner arguments => exact Container.respects_callRunner others runner arguments
  | resolveExitCode held failure =>
    exact Container.respects_resolveExitCode frame others held failure
  | exit held codes => exact Container.respects_exit frame framing.calls framing.close held codes
  | closeStore other held =>
    exact .bind frame (framing.respects_plan _) fun _ => .of_pure frame _
  | registerContainer coordinator held =>
    refine .bind frame (framing.registers coordinator held) fun _ => ?_
    split <;> exact .of_pure frame _
  | trigger coordinator => exact framing.triggers coordinator
  | attemptTrigger coordinator =>
    exact ShutdownCoordinator.respects_attemptTrigger frame (framing.triggers coordinator)
  | render banner environment mainSource =>
    exact Banner.respects_render frame others environment mainSource banner
  | run application given => exact framing.respects_plan (application.plan given)
  | read | readOr => cases plain
  | _ => cases busy

end Launchpad
