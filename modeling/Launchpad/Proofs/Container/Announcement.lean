import Launchpad.Proofs.Container.Moments

/-!
# Who hears of a close

A close that publishes its event calls the first listener at once, before anything else happens.
This is read off the moments alone, whatever becomes of the worlds between them.
-/

namespace Launchpad

/-- Every event that the close of a container publishes is heard at once by the first of those that
listen to the container then. -/
def Heard (ref : ContainerRef) : List Moment → Prop
  | [] => True
  | moment :: later =>
    (∀ event listener others, moment.happening = .announced event →
      (moment.world.container ref).listeners = listener :: others →
      later.head? = some ⟨moment.world, .called (.onEvent listener.participant event)⟩) ∧
    Heard ref later

variable {α β : Type} {ref : ContainerRef} {moment : Moment} {moments more : List Moment}

namespace Heard

/-- Two parts, in each of which every announcement is heard. -/
theorem append (start : Heard ref moments) (rest : Heard ref more) :
    Heard ref (moments ++ more) := by
  induction moments with
  | nil => exact rest
  | cons moment later ih =>
    refine ⟨fun event listener others announces listening => ?_, ih start.2⟩
    have next := start.1 event listener others announces listening
    cases later with
    | nil => cases next
    | cons => exact next

/-- A moment at which nothing is announced. -/
theorem cons (quiet : moment.isAnnounced = false) (rest : Heard ref moments) :
    Heard ref (moment :: moments) := by
  refine ⟨fun event _ _ announces => ?_, rest⟩
  simp [Moment.isAnnounced, announces] at quiet

/-- A moment at which nothing is announced. -/
theorem single (quiet : moment.isAnnounced = false) : Heard ref [moment] := cons quiet trivial

/-- An operation that goes on to moments in which all is heard. -/
theorem onward {act : Act α} {rest : α → World → List Moment}
    (heard : ∀ answer later, Heard ref (rest answer later)) (world : World) :
    Heard ref (act.onward world rest) := by
  unfold Act.onward
  split
  · exact heard _ _
  · trivial

/-- Where the announcement of an event is followed by its delivery, the event is heard. -/
theorem announced {world : World} {event : ApplicationEvent} (rest : Heard ref moments)
    (delivers : ∀ listener others, (world.container ref).listeners = listener :: others →
      moments.head? = some ⟨world, .called (.onEvent listener.participant event)⟩) :
    Heard ref (⟨world, .announced event⟩ :: moments) := by
  refine ⟨fun told listener others announces listening => ?_, rest⟩
  cases announces
  exact delivers listener others listening

end Heard

section

variable {invoke : Invoker} {observer : Recorder Moment}
  (calls : ∀ call world, Heard ref (observer call world))

include calls

/-- What a participant leads to on a call is heard. -/
theorem Call.heard (call : Call) (world : World) : Heard ref (call.moments observer world) :=
  .cons rfl (calls call world)

/-- What a startup measure leads to is heard. -/
theorem Startup.heard (startup : Startup) (notice : StartupNotice) (world : World) :
    Heard ref (startup.moments observer notice world) := by
  cases startup with
  | watched => exact Call.heard calls _ world
  | _ => trivial

namespace Container

/-- Whatever a delivery leads to, every announcement is heard. -/
theorem heard_deliver (event : ApplicationEvent) (listeners : List ApplicationListener)
    (world : World) : Heard ref (deliverMoments invoke observer event listeners world) := by
  induction listeners generalizing world with
  | nil => trivial
  | cons listener rest ih =>
    refine (Call.heard calls _ world).append (.onward (fun told later => ?_) world)
    cases told with
    | error => trivial
    | ok => exact ih later

/-- Whatever publishing an event leads to, every announcement is heard. -/
theorem heard_publish (held : ContainerRef) (event : ApplicationEvent) (world : World) :
    Heard ref (publishMoments invoke observer held event world) :=
  heard_deliver calls event _ world

/-- Whatever a refresh leads to, every announcement is heard. -/
theorem heard_refresh (held : ContainerRef) (world : World) :
    Heard ref (refreshMoments invoke observer held world) :=
  (Startup.heard calls _ _ world).append <| .onward (fun _ first =>
    (Startup.heard calls _ _ first).append <| .onward (fun _ _ =>
      .onward (fun _ logged =>
        (Startup.heard calls _ _ logged).append <| .onward (fun _ recorded =>
          heard_publish calls held _ recorded) logged) _) first) world

/-- Whatever a close callback leads to, every announcement is heard. -/
theorem heard_callback (held : ContainerRef) (callback : CloseCallback) (world : World) :
    Heard ref (callbackMoments observer ref held callback world) := by
  cases callback with
  | custom participant =>
    apply Heard.cons _ (calls _ world)
    split <;> rfl
  | deregister coordinator =>
    rw [callbackMoments]
    split
    · exact .single rfl
    · trivial

/-- Whatever the close callbacks lead to, every announcement is heard. -/
theorem heard_callbacks (held : ContainerRef) (callbacks : List CloseCallback) (world : World) :
    Heard ref (callbacksMoments invoke observer ref held callbacks world) := by
  induction callbacks generalizing world with
  | nil => trivial
  | cons callback rest ih =>
    exact (heard_callback calls held callback world).append
      (.onward (fun _ later => ih later) world)

/-- The announcement of a close is heard, and so is every other that its listeners lead to. -/
theorem heard_announce (held : ContainerRef) (container : Container) (world : World) :
    Heard ref (announceMoments invoke observer ref held container world) := by
  have published : Heard ref (publishMoments invoke observer held _ world) :=
    heard_publish calls held (.contextClosed container.id) world
  unfold announceMoments
  split
  · split
    · rename_i here
      subst here
      refine .announced published fun listener others listening => ?_
      rw [publishMoments, listening]
      rfl
    · exact published
  · trivial

/-- A close announces itself to its first listener, whatever its listeners and callbacks lead to. -/
theorem heard_close (held : ContainerRef) (world : World) :
    Heard ref (closeMoments invoke observer ref held world) := by
  have shut : Heard ref (if held = ref then [(⟨world, .shut⟩ : Moment)] else []) := by
    split
    · exact .single rfl
    · trivial
  unfold closeMoments
  dsimp only
  split
  · trivial
  · exact shut.append ((heard_announce calls held _ _).append
      (.onward (fun _ announced => heard_callbacks calls held _ announced) _))

end Container

/-- Whatever a command leads to is heard. -/
theorem Command.heard (command : Command) (world : World) :
    Heard ref (command.moments invoke observer ref world) := by
  refine Heard.append (.onward (fun _ _ => .single rfl) world) ?_
  cases command with
  | publish held event => exact Container.heard_publish calls held event world
  | refresh held =>
    rw [Command.course]
    split
    · trivial
    · exact Container.heard_refresh calls held world
  | close held => exact Container.heard_close calls held _
  | onClose held participant =>
    rw [Command.course]
    split
    · exact Container.heard_callback calls held _ world
    · trivial
  | _ => trivial

/-- Whatever a program leads to is heard. -/
theorem Program.heard (program : Program α) (world : World) :
    Heard ref (program.moments invoke observer ref world) := by
  induction program generalizing world with
  | done | panic => trivial
  | perform command next ih =>
    exact (Command.heard calls command world).append
      (.onward (fun answer later => ih answer later) world)

end

/-- Whatever a participant of a behaviour does is heard. -/
theorem Behaviour.heard (behaviour : Behaviour) (ref : ContainerRef) (limit depth : Nat)
    (call : Call) (world : World) : Heard ref (behaviour.observer ref limit depth call world) := by
  induction limit generalizing depth call world with
  | zero => trivial
  | succ limit ih => exact Program.heard (ih (depth + 1)) _ _

end Launchpad
