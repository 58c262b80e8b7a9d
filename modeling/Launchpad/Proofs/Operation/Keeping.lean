import Launchpad.Proofs.Operation.Closing

/-!
# What operations keep when they come to their end

An operation keeps a relation between worlds if, whenever it comes to its end, the relation holds
between the world that it finds and the world that it leaves. Nothing is said of an operation that
is broken off: it may leave things half done. This is what laws need whose invariant is broken in
the middle of an operation and mended before its end.
-/

namespace Launchpad

variable {α β : Type} {relation : World → World → Prop}

/-- What holds of operations one after the other if it holds of each of them. -/
structure Act.Composes (Holds : ∀ {α : Type}, Act α → Prop) : Prop where
  pure : ∀ {α : Type} (value : α), Holds (pure value : Act α)
  throw : ∀ {α : Type} (abort : Abort), Holds (throw abort : Act α)
  bind : ∀ {α β : Type} {act : Act α} {next : α → Act β}, Holds act →
    (∀ value, Holds (next value)) → Holds (act >>= next)

/-- Of two things that hold of operations one after the other, both do. -/
theorem Act.Composes.and {One Other : ∀ {α : Type}, Act α → Prop} (one : Act.Composes One)
    (other : Act.Composes Other) : Act.Composes fun act => One act ∧ Other act where
  pure value := ⟨one.pure value, other.pure value⟩
  throw abort := ⟨one.throw abort, other.throw abort⟩
  bind first rest := ⟨one.bind first.1 fun value => (rest value).1,
    other.bind first.2 fun value => (rest value).2⟩

/-- Respecting a relation goes from one operation to the next. -/
theorem Act.Respects.composes (framing : Framing relation) :
    Act.Composes (Act.Respects relation) where
  pure := .of_pure framing
  throw := .of_throw framing
  bind := .bind framing

/-- If the operation comes to its end, the relation holds between the world that it finds and the
world that it leaves. -/
def Act.Keeps (relation : World → World → Prop) (act : Act α) : Prop :=
  ∀ world answer later, act.result world = (.ok answer, later) → relation world later

namespace Act.Keeps

/-- What holds however an operation ends holds if it comes to its end. -/
theorem of_respects {act : Act α} (respects : Act.Respects relation act) : Keeps relation act :=
  fun _ _ _ ran => respects.leads ran

/-- An operation that never comes to its end. -/
theorem of_throw (abort : Abort) : Keeps relation (throw abort : Act α) := by
  intro world answer later ran
  cases ran

/-- An operation that only changes the world. -/
theorem of_modify {change : World → World} (leads : ∀ world, relation world (change world)) :
    Keeps relation (modify change : Act PUnit) := by
  intro world answer later ran
  cases ran
  exact leads world

section

variable (framing : Framing relation)

include framing

/-- An answer that is there already leaves the world as it is. -/
theorem of_pure (value : α) : Keeps relation (pure value : Act α) :=
  of_respects (.of_pure framing value)

/-- If both operations come to their end, both have kept the relation. -/
theorem bind {act : Act α} {next : α → Act β} (first : Keeps relation act)
    (rest : ∀ value, Keeps relation (next value)) : Keeps relation (act >>= next) := by
  intro world answer later ran
  obtain ⟨value, between, begins, goesOn⟩ := Act.result_bind_ok_iff.1 ran
  exact framing.trans (first world value between begins) (rest value between answer later goesOn)

/-- Keeping a relation goes from one operation to the next. -/
theorem composes : Composes (Keeps relation) where
  pure := of_pure framing
  throw := of_throw
  bind := bind framing

/-- After a look at the world only what follows has to keep the relation. -/
theorem look {act : Act α} {next : α → Act β} (looks : ∀ world, (act.result world).2 = world)
    (rest : ∀ value, Keeps relation (next value)) : Keeps relation (act >>= next) :=
  bind framing (of_respects (.of_look framing looks)) rest

/-- What is kept for each item is kept for all of them. -/
theorem forEach {call : α → Act Unit} (each : ∀ item, Keeps relation (call item))
    (items : List α) : Keeps relation (Act.forEach call items) := by
  induction items with
  | nil => exact of_pure framing ()
  | cons item rest ih => exact bind framing (each item) fun _ => ih

/-- Calling items in turn up to the first failure keeps what each call keeps. -/
theorem untilFailure {ε : Type} {call : α → Act (Except ε Unit)}
    (each : ∀ item, Keeps relation (call item)) (items : List α) :
    Keeps relation (Launchpad.untilFailure call items) := by
  induction items with
  | nil => exact of_pure framing _
  | cons item rest ih =>
    apply bind framing (each item)
    intro answer
    cases answer with
    | error => exact of_pure framing _
    | ok => exact ih

/-- A log line is a record of the surroundings. -/
theorem log (level : LogLevel) (message : String) (fields : List (String × String)) :
    Keeps relation (Act.log level message fields) := of_respects (.log framing level message fields)

end

end Act.Keeps

section

variable {invoke : Invoker} (framing : Framing relation)
  (calls : ∀ call : Call, Act.Keeps relation (invoke call))

include framing calls

namespace Startup

/-- Beginning a step asks a participant at most. -/
theorem keeps_begin (startup : Startup) (name : String) :
    Act.Keeps relation (startup.begin invoke name) := by
  cases startup with
  | watched participant => exact .bind framing (calls _) fun _ => .of_pure framing _
  | discarded | buffered => exact .of_pure framing _

/-- A tag of a step is given by a participant at most. -/
theorem keeps_tag (startup : Startup) (step : StartupStep) (key text : String) :
    Act.Keeps relation (startup.tag invoke step key text) := by
  cases startup with
  | watched participant => exact .bind framing (calls _) fun _ => .of_pure framing _
  | discarded | buffered => exact .of_pure framing _

/-- A step that ends is kept in a buffer or handed to a participant. -/
theorem keeps_finish (startup : Startup) (step : StartupStep) :
    Act.Keeps relation (startup.finish invoke step) := by
  cases startup with
  | discarded => exact .of_pure framing ()
  | buffered buffer =>
    apply Act.Keeps.of_modify
    intro world
    exact framing.aside rfl rfl rfl rfl
  | watched participant => exact calls _

end Startup

namespace Container

/-- Publishing an event calls the listeners of the container. -/
theorem keeps_publish (ref : ContainerRef) (event : ApplicationEvent) :
    Act.Keeps relation (publish invoke ref event) := by
  have tells (listener : ApplicationListener) :
      Act.Keeps relation (invoke (.onEvent listener.participant event)) := calls _
  exact .look framing (fun _ => rfl) fun held => .untilFailure framing tells held.listeners

/-- Before it activates the container a refresh reports to the startup. -/
theorem keeps_announceRefresh (startup : Startup) (id : String) :
    Act.Keeps relation (announceRefresh invoke startup id) :=
  .bind framing (startup.keeps_begin framing calls _) fun _ => startup.keeps_tag framing calls _ _ _

/-- Afterwards it logs, and the step ends. -/
theorem keeps_recordRefresh (ref : ContainerRef) (startup : Startup) (step : StartupStep) :
    Act.Keeps relation (recordRefresh invoke ref startup step) :=
  .look framing (fun _ => rfl) fun _ =>
    .bind framing (.log framing _ _ _) fun _ => startup.keeps_finish framing calls step

/-- A close tells the listeners if the container was active; their failure is logged. -/
theorem keeps_announceClose (ref : ContainerRef) (container : Container) :
    Act.Keeps relation (announceClose invoke ref container) := by
  unfold announceClose
  split
  · apply Act.Keeps.bind framing (keeps_publish framing calls ref _)
    intro told
    split
    · exact .log framing _ _ _
    · exact .of_pure framing _
  · exact .of_pure framing _

section

variable {ref : ContainerRef}
  (takesOff : ∀ (world : World) (coordinator : CoordinatorRef),
    relation world (world.modifyCoordinator coordinator (·.deregister ref)))

include takesOff

/-- A close callback keeps what its participant keeps, or what taking the container off keeps. -/
theorem keeps_runCallback (callback : CloseCallback) :
    Act.Keeps relation (runCallback invoke ref callback) := by
  cases callback with
  | custom participant => exact calls _
  | deregister coordinator =>
    refine .look framing (fun _ => rfl) fun known => ?_
    split
    · exact .of_pure framing _
    · exact .of_modify fun world => takesOff world coordinator

/-- A callback is run at once, or kept for the close. -/
theorem keeps_onClose {callback : CloseCallback}
    (adds : ∀ world, relation world (world.modifyContainer ref (·.addCallback callback))) :
    Act.Keeps relation (onClose invoke ref callback) := by
  refine .look framing (fun _ => rfl) fun held => ?_
  split
  · exact keeps_runCallback framing calls takesOff callback
  · exact .of_modify adds

end

/-- A refresh keeps what its participants keep and what an activation keeps. -/
theorem keeps_refresh {ref : ContainerRef}
    (activates : ∀ world, relation world (world.modifyContainer ref markActive)) :
    Act.Keeps relation (refresh invoke ref) := by
  intro world answer later ran
  rcases sections_of_refresh ran with
    ⟨failure, -, -, rfl⟩ | ⟨-, step, announced, recorded, announces, records, publishes⟩
  · exact framing.refl later
  · have begun := keeps_announceRefresh framing calls _ _ world step announced announces
    have noted := keeps_recordRefresh framing calls ref _ step _ () recorded records
    have told := keeps_publish framing calls ref _ recorded answer later publishes
    exact framing.trans (framing.trans begun (activates announced)) (framing.trans noted told)

end Container

end

end Launchpad
