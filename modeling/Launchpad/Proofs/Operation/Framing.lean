import Launchpad.Launch.Errand

/-!
# What operations leave alone

An operation respects a relation between worlds if the relation holds between the world that it
finds and the world that it leaves, however it ends. `Framing` collects what a relation needs so
that the operations respect it which only call participants, keep records, or furnish a container:
the life of a container, what it listens to and what it does on its close are then left alone.
Everything here depends on participants only through what they respect.
-/

namespace Launchpad

variable {α β : Type}

/-- What an operation answers, and the world it leaves. -/
def Act.result (act : Act α) (world : World) : Except Abort α × World := act.run.run world

/-- An operation after another begins in the world that the first one left, unless that one was
broken off. -/
theorem Act.result_bind (act : Act α) (next : α → Act β) (world : World) :
    (act >>= next).result world =
      match act.result world with
      | (.ok value, later) => (next value).result later
      | (.error abort, later) => (.error abort, later) := by
  unfold Act.result ExceptT.run StateT.run
  simp only [bind, ExceptT.bind, ExceptT.bindCont, ExceptT.mk, StateT.bind]
  cases act world with
  | mk answer later => cases answer <;> rfl

/-- A handler begins in the world in which the operation was broken off. -/
theorem Act.result_tryCatch (act : Act α) (handler : Abort → Act α) (world : World) :
    (tryCatch act handler).result world =
      match act.result world with
      | (.ok value, later) => (.ok value, later)
      | (.error abort, later) => (handler abort).result later := by
  unfold Act.result ExceptT.run StateT.run
  simp only [tryCatch, tryCatchThe, MonadExceptOf.tryCatch, ExceptT.tryCatch, ExceptT.mk, bind,
    StateT.bind]
  cases act world with
  | mk answer later => cases answer <;> rfl

@[simp] theorem Act.result_pure (value : α) (world : World) :
    (pure value : Act α).result world = (.ok value, world) := rfl

@[simp] theorem Act.result_modifyContainer (ref : ContainerRef) (change : Container → Container)
    (world : World) :
    (Act.modifyContainer ref change).result world =
      (.ok (), world.modifyContainer ref change) := rfl

@[simp] theorem Act.result_modifyCoordinator (ref : CoordinatorRef)
    (change : ShutdownCoordinator → ShutdownCoordinator) (world : World) :
    (Act.modifyCoordinator ref change).result world =
      (.ok (), world.modifyCoordinator ref change) := rfl

@[simp] theorem Act.result_modifyStore (ref : StoreRef) (change : BootstrapStore → BootstrapStore)
    (world : World) :
    (Act.modifyStore ref change).result world = (.ok (), world.modifyStore ref change) := rfl

/-- An operation that comes to its end after another has gone on from what that one left. -/
theorem Act.result_bind_ok_iff {act : Act α} {next : α → Act β} {world last : World} {answer : β} :
    (act >>= next).result world = (.ok answer, last) ↔
      ∃ value between, act.result world = (.ok value, between) ∧
        (next value).result between = (.ok answer, last) := by
  rw [result_bind]
  rcases act.result world with ⟨abort | value, between⟩
  · simp
  · constructor
    · exact fun goesOn => ⟨value, between, rfl, goesOn⟩
    · rintro ⟨_, _, ⟨⟩, goesOn⟩
      exact goesOn

/-- Wherever an operation begins and however it ends, the relation holds between the world that it
finds and the world that it leaves. -/
def Act.Respects (relation : World → World → Prop) (act : Act α) : Prop :=
  ∀ world, relation world (act.result world).2

/-- The part of a container that its life depends on stays as it is, and a closed container keeps
its beans. -/
structure Container.Furnishes (before after : Container) : Prop where
  phase : after.phase = before.phase
  listeners : after.listeners = before.listeners
  closeCallbacks : after.closeCallbacks = before.closeCallbacks
  refreshFailure : after.refreshFailure = before.refreshFailure
  beans : before.isClosed = true → after.beans = before.beans

namespace Container

/-- A container that accepts a bean is furnished with it; only an open one does. -/
theorem furnishes_registerBean {held registered : Container} {name : String} {bean : Bean}
    (accepted : held.registerBean name bean = .ok registered) : held.Furnishes registered := by
  unfold registerBean at accepted
  split at accepted
  · cases accepted
  · rename_i isOpen
    split at accepted
    · cases accepted
    · cases accepted
      exact ⟨rfl, rfl, rfl, rfl, fun closed => absurd closed isOpen⟩

end Container

/-- A relation between worlds that goes from one operation to the next, and does not care for
records and furnishings. -/
structure Framing (relation : World → World → Prop) : Prop where
  refl : ∀ world, relation world world
  trans : ∀ {first second third}, relation first second → relation second third →
    relation first third
  /-- Only records of the surroundings change. -/
  aside : ∀ {before after : World}, after.containers = before.containers →
    after.stores = before.stores → after.coordinators = before.coordinators →
    after.journal = before.journal → relation before after
  /-- A container is furnished. -/
  furnish : ∀ (world : World) (ref : ContainerRef) (change : Container → Container),
    (world.container ref).Furnishes (change (world.container ref)) →
    relation world (world.modifyContainer ref change)

/-- Whether a call tells an application listener about an event. -/
def Call.isEvent : Call → Bool
  | onEvent .. => true
  | _ => false

/-- Whether a run listener turns phases into events. -/
def RunListener.isPublisher : RunListener → Bool
  | eventPublishing _ => true
  | _ => false

namespace Act.Respects

variable {relation : World → World → Prop}

/-- What an operation that ran has led to. -/
theorem leads {act : Act α} (respects : Respects relation act) {world later : World}
    {answer : Except Abort α} (ran : act.result world = (answer, later)) :
    relation world later := by
  have reached := respects world
  rwa [ran] at reached

/-- An operation that only changes the world. -/
theorem of_modify {change : World → World} (leads : ∀ world, relation world (change world)) :
    Respects relation (modify change : Act PUnit) := leads

section

variable (framing : Framing relation)

include framing

/-- An answer that is there already changes nothing. -/
theorem of_pure (value : α) : Respects relation (pure value : Act α) := framing.refl

/-- An operation that is broken off at once changes nothing. -/
theorem of_throw (abort : Abort) : Respects relation (throw abort : Act α) := framing.refl

/-- An operation that only looks at the world respects every framing. -/
theorem of_look {act : Act α} (looks : ∀ world, (act.result world).2 = world) :
    Respects relation act := fun world => by
  rw [looks]
  exact framing.refl world

omit framing in
/-- An operation that goes on from what another one left, seen from an earlier world. -/
theorem bind_from {act : Act α} {next : α → Act β} {origin world : World}
    (first : relation origin (act.result world).2)
    (rest : ∀ value between, act.result world = (.ok value, between) → relation origin between →
      relation origin ((next value).result between).2) :
    relation origin ((act >>= next).result world).2 := by
  rw [result_bind]
  cases reached : act.result world with
  | mk answer between =>
    rw [reached] at first
    cases answer with
    | error abort => exact first
    | ok value => exact rest value between reached first

/-- What two operations respect, they respect one after the other. -/
theorem bind {act : Act α} {next : α → Act β} (first : Respects relation act)
    (rest : ∀ value, Respects relation (next value)) : Respects relation (act >>= next) :=
  fun world => bind_from (first world) fun value between _ reached =>
    framing.trans reached (rest value between)

/-- After a look at the world only what follows has to respect the relation. -/
theorem look {act : Act α} {next : α → Act β} (looks : ∀ world, (act.result world).2 = world)
    (rest : ∀ value, Respects relation (next value)) : Respects relation (act >>= next) :=
  bind framing (of_look framing looks) rest

/-- What an operation and its handler respect, the contained operation respects. -/
theorem tryCatch {act : Act α} {handler : Abort → Act α} (first : Respects relation act)
    (rest : ∀ abort, Respects relation (handler abort)) :
    Respects relation (MonadExcept.tryCatch act handler) := by
  intro world
  have start := first world
  rw [result_tryCatch]
  generalize act.result world = reached at start ⊢
  obtain ⟨abort | value, between⟩ := reached
  · exact framing.trans start (rest abort between)
  · exact start

/-- What is respected for each item is respected for all of them. -/
theorem forEach {call : α → Act Unit} (each : ∀ item, Respects relation (call item))
    (items : List α) : Respects relation (Act.forEach call items) := by
  induction items with
  | nil => exact of_pure framing ()
  | cons item rest ih => exact bind framing (each item) fun _ => ih

/-- Calling items in turn up to the first failure respects what each call respects. -/
theorem untilFailure {ε : Type} {call : α → Act (Except ε Unit)}
    (each : ∀ item, Respects relation (call item)) (items : List α) :
    Respects relation (Launchpad.untilFailure call items) := by
  induction items with
  | nil => exact of_pure framing _
  | cons item rest ih =>
    refine bind framing (each item) fun answer => ?_
    cases answer with
    | error => exact of_pure framing _
    | ok => exact ih

/-- Collecting the answers of all items respects what each call respects. -/
theorem mapM {call : α → Act β} (each : ∀ item, Respects relation (call item)) (items : List α) :
    Respects relation (items.mapM call) := by
  induction items with
  | nil => exact of_pure framing _
  | cons item rest ih =>
    rw [List.mapM_cons]
    exact bind framing (each item) fun _ => bind framing ih fun _ => of_pure framing _

/-- An operation that leaves the containers, stores, coordinators and calls as they are. -/
theorem of_aside {change : World → World}
    (containers : ∀ world, (change world).containers = world.containers)
    (stores : ∀ world, (change world).stores = world.stores)
    (coordinators : ∀ world, (change world).coordinators = world.coordinators)
    (journal : ∀ world, (change world).journal = world.journal) :
    Respects relation (modify change : Act PUnit) :=
  of_modify fun world =>
    framing.aside (containers world) (stores world) (coordinators world) (journal world)

/-- A log line is a record of the surroundings. -/
theorem log (level : LogLevel) (message : String) (fields : List (String × String)) :
    Respects relation (Act.log level message fields) :=
  of_aside framing (fun _ => rfl) (fun _ => rfl) (fun _ => rfl) fun _ => rfl

/-- What is printed is a record of the surroundings. -/
theorem print (text : String) : Respects relation (Act.print text) :=
  of_aside framing (fun _ => rfl) (fun _ => rfl) (fun _ => rfl) fun _ => rfl

/-- Furnishing a container respects the relation. -/
theorem furnish (ref : ContainerRef) {change : Container → Container}
    (furnishes : ∀ container : Container, container.Furnishes (change container)) :
    Respects relation (Act.modifyContainer ref change) :=
  fun world => framing.furnish world ref change (furnishes _)

end

end Act.Respects

variable {relation : World → World → Prop} {invoke : Invoker}

section

variable (framing : Framing relation)
  (others : ∀ call : Call, call.isEvent = false → Act.Respects relation (invoke call))

include framing others

namespace Startup

/-- Beginning a step asks a participant at most. -/
theorem respects_begin (startup : Startup) (name : String) :
    Act.Respects relation (startup.begin invoke name) := by
  cases startup with
  | watched participant =>
    exact .bind framing (others _ rfl) fun _ => .of_pure framing _
  | discarded | buffered => exact .of_pure framing _

/-- A tag of a step is given by a participant at most. -/
theorem respects_tag (startup : Startup) (step : StartupStep) (key text : String) :
    Act.Respects relation (startup.tag invoke step key text) := by
  cases startup with
  | watched participant =>
    exact .bind framing (others _ rfl) fun _ => .of_pure framing _
  | discarded | buffered => exact .of_pure framing _

/-- A step that ends is kept in a buffer or handed to a participant. -/
theorem respects_finish (startup : Startup) (step : StartupStep) :
    Act.Respects relation (startup.finish invoke step) := by
  cases startup with
  | discarded => exact .of_pure framing ()
  | buffered buffer =>
    exact .of_aside framing (fun _ => rfl) (fun _ => rfl) (fun _ => rfl) fun _ => rfl
  | watched participant => exact others _ rfl

end Startup

namespace Banner

omit others in
/-- Reading a banner from a file changes nothing. -/
theorem respects_ofFile (path : String) : Act.Respects relation (ofFile path) := by
  refine .look framing (fun _ => rfl) fun world => ?_
  split <;> exact .of_pure framing _

/-- A banner is rendered by a participant at most. -/
theorem respects_render (environment : Environment) (mainSource : Option String)
    (banner : Banner) : Act.Respects relation (banner.render invoke environment mainSource) := by
  cases banner with
  | standard => exact .of_pure framing _
  | text template => exact .of_pure framing _
  | custom participant => exact others _ rfl

/-- Showing a banner prints or logs what it was rendered to. -/
theorem respects_printSelected (mode : BannerMode) (environment : Environment)
    (own : Option Banner) (mainSource : Option String) :
    Act.Respects relation (printSelected invoke mode environment own mainSource) := by
  have selects : Act.Respects relation (select environment own) := by
    unfold select
    split
    · exact respects_ofFile framing _
    · exact .of_pure framing _
  unfold printSelected
  split
  · exact .of_pure framing _
  · refine .bind framing selects fun selected => ?_
    split
    · exact .of_pure framing _
    · refine .bind framing (respects_render framing others _ _ _) fun rendered => ?_
      split
      · exact .of_pure framing _
      · split
        · exact .bind framing (.log framing _ _ _) fun _ => .of_pure framing _
        · exact .bind framing (.print framing _) fun _ => .of_pure framing _

end Banner

namespace Container

omit others in
/-- Registering a bean furnishes the container. -/
theorem respects_register (ref : ContainerRef) (name : String) (bean : Bean) :
    Act.Respects relation (register ref name bean) := by
  intro world
  refine Act.Respects.bind_from (framing.refl world) ?_
  rintro _ _ ⟨⟩ -
  cases registered : (world.container ref).registerBean name bean with
  | error => exact framing.refl world
  | ok container => exact framing.furnish world ref _ (furnishes_registerBean registered)

/-- Loading a source calls its configurations and notes its name. -/
theorem respects_loadSource (loader : SourceLoader) (ref : ContainerRef) (source : Source) :
    Act.Respects relation (loadSource invoke loader ref source) := by
  unfold loadSource
  split
  · exact .of_pure framing _
  · refine .bind framing (.untilFailure framing (fun _ => others _ rfl) _) fun configured => ?_
    split
    · exact .of_pure framing _
    · exact .bind framing (.furnish framing ref fun _ => ⟨rfl, rfl, rfl, rfl, fun _ => rfl⟩)
        fun _ => .of_pure framing _

/-- Loading definitions loads their sources, or calls a loader. -/
theorem respects_load (loader : DefinitionLoader) (ref : ContainerRef) (sources : List Source) :
    Act.Respects relation (load invoke loader ref sources) := by
  cases loader with
  | sources loader =>
    exact .untilFailure framing
      (fun source => respects_loadSource framing others loader ref source) _
  | custom participant => exact others _ rfl

omit framing in
/-- Calling a runner is a call. -/
theorem respects_callRunner (runner : Runner) (arguments : Arguments) :
    Act.Respects relation (callRunner invoke runner arguments) := by
  unfold callRunner
  split <;> exact others _ rfl

/-- Resolving an exit code asks the mappers of a container, which is not changed. -/
theorem respects_resolveExitCode (container : Option ContainerRef) (failure : Failure) :
    Act.Respects relation (resolveExitCode invoke container failure) := by
  have asks : ∀ mapper, Act.Respects relation (invoke (.mapFailure mapper failure)) :=
    fun _ => others _ rfl
  have resolves : ∀ mappers, Act.Respects relation (do
      let mapped ← mappedCode invoke mappers failure
      return if mapped ≠ 0 then mapped else failure.exitCode?.getD 0) := fun mappers =>
    .bind framing (.bind framing (.mapM framing asks mappers) fun _ => .of_pure framing _) fun _ =>
      .of_pure framing _
  unfold resolveExitCode
  cases container with
  | none => exact resolves []
  | some ref =>
    exact .look framing (fun _ => rfl) fun held =>
      resolves (if held.isActive then held.mappers else [])

end Container

/-- Binding settings reads the environment or asks a binder. -/
theorem SettingsBinder.respects_bind (environment : Environment) (settings : Settings)
    (binder : SettingsBinder) :
    Act.Respects relation (binder.bind invoke environment settings) := by
  cases binder with
  | standard =>
    rw [SettingsBinder.bind]
    split <;> exact .of_pure framing _
  | custom participant => exact others _ rfl

namespace BootstrapStore

/-- A close action hands an instance to the container or calls a participant. -/
theorem respects_runAction (ref : StoreRef) (container : ContainerRef) (action : CloseAction) :
    Act.Respects relation (runAction invoke ref container action) := by
  cases action with
  | handOver type participant =>
    refine .look framing (fun _ => rfl) fun store => ?_
    split
    · exact others _ rfl
    · exact .of_pure framing _
  | listener participant => exact others _ rfl

end BootstrapStore

namespace RunListener

omit others in
/-- The recorder only logs. -/
theorem respects_record (failsIn : Option LifecyclePhase) (phase : LifecyclePhase) :
    Act.Respects relation (record failsIn phase) := by
  refine .bind framing (.of_aside framing (fun _ => rfl) (fun _ => rfl) (fun _ => rfl) fun _ => rfl)
    fun _ => ?_
  split <;> exact .of_pure framing _

/-- A run listener that publishes nothing is called or records. -/
theorem respects_tell {listener : RunListener} (plain : listener.isPublisher = false)
    (notice : Notice) : Act.Respects relation (notice.tell invoke listener) := by
  cases listener with
  | eventPublishing => cases plain
  | recorder failsIn order => cases notice <;> exact respects_record framing _ _
  | custom participant order => cases notice <;> exact others _ rfl

/-- Such a listener only has a look at the environment that it is shown. -/
theorem respects_environmentPrepared {listener : RunListener}
    (plain : listener.isPublisher = false) (store : StoreRef) (environment : Environment) :
    Act.Respects relation (listener.environmentPrepared invoke store environment) := by
  cases listener with
  | eventPublishing => cases plain
  | recorder failsIn order =>
    exact .bind framing (respects_record framing _ _) fun _ => .of_pure framing _
  | custom participant order => exact others _ rfl

/-- Such a listener is told of a failure by a call or a record. -/
theorem respects_failed {listener : RunListener} (plain : listener.isPublisher = false)
    (container : Option ContainerRef) (failure : Option Failure) :
    Act.Respects relation (listener.failed invoke container failure) := by
  cases listener with
  | eventPublishing => cases plain
  | recorder failsIn order => exact respects_record framing _ _
  | custom participant order => exact others _ rfl

end RunListener

/-- Whether an errand only calls participants that are not told about events, keeps records, or
furnishes a container. -/
def Errand.isQuiet : Errand → Bool
  | makeStore | beginCloseStore _ | createContainer .. | registerForShutdown .. | refresh _
  | publish .. | close _ => false
  | tell listener _ => !listener.isPublisher
  | showEnvironment listener .. => !listener.isPublisher
  | tellFailed listener .. => !listener.isPublisher
  | _ => true

/-- Quiet errands respect whatever the participants respect. -/
theorem Errand.respects_carryOut {errand : Errand} (quiet : errand.isQuiet = true) :
    Act.Respects relation (errand.carryOut invoke) := by
  cases errand with
  | makeStore | beginCloseStore | createContainer | registerForShutdown | refresh | publish
  | close => cases quiet
  | setHeadless settings =>
    exact .of_aside framing (fun _ => rfl) (fun _ => rfl) (fun _ => rfl) fun _ => rfl
  | readVariables => exact .of_look framing fun _ => rfl
  | log => exact .log framing _ _ _
  | readArguments | check => exact .of_pure framing _
  | enterPhase startup => exact startup.respects_begin framing others _
  | tagPhase startup => exact startup.respects_tag framing others _ _ _
  | leavePhase startup => exact startup.respects_finish framing others _
  | build _ construction =>
    cases construction with
    | runListener factory arguments =>
      cases factory with
      | eventPublishing => exact .of_pure framing _
      | custom participant => exact others _ rfl
    | bootstrapInitializer | applicationListener | contextInitializer => exact others _ rfl
  | tell listener notice =>
    exact RunListener.respects_tell framing others (by simpa [isQuiet] using quiet) notice
  | showEnvironment listener store environment =>
    exact RunListener.respects_environmentPrepared framing others
      (by simpa [isQuiet] using quiet) store environment
  | tellFailed listener container failure =>
    exact RunListener.respects_failed framing others (by simpa [isQuiet] using quiet) _ _
  | bindSettings binder environment settings =>
    exact SettingsBinder.respects_bind framing others environment settings binder
  | printBanner => exact Banner.respects_printSelected framing others _ _ _ _
  | inspect | runners => exact .of_look framing fun _ => rfl
  | equip container equipment =>
    exact .furnish framing container fun held => by
      cases equipment <;> exact ⟨rfl, rfl, rfl, rfl, fun _ => rfl⟩
  | runCloseAction => exact BootstrapStore.respects_runAction framing others _ _ _
  | registerSingleton => exact Container.respects_register framing _ _ _
  | load => exact Container.respects_load framing others _ _ _
  | callRunner => exact Container.respects_callRunner others _ _
  | resolveExitCode => exact Container.respects_resolveExitCode framing others _ _
  | report reporting =>
    cases reporting with
    | fixed => exact .of_pure framing _
    | custom participant => exact others _ rfl
  | applyBootstrapInitializer | postProcess | applyContextInitializer | afterRefresh
  | buildReporter => exact others _ rfl

end

section

variable (framing : Framing relation) (calls : ∀ call : Call, Act.Respects relation (invoke call))

include framing calls

namespace Container

/-- Delivering an event calls its listeners. -/
theorem respects_deliver (event : ApplicationEvent) (listeners : List ApplicationListener) :
    Act.Respects relation (deliver invoke event listeners) := by
  have tells : ∀ listener : ApplicationListener,
      Act.Respects relation (invoke (.onEvent listener.participant event)) := fun _ => calls _
  exact .untilFailure framing tells listeners

/-- Publishing an event calls the listeners of the container. -/
theorem respects_publish (ref : ContainerRef) (event : ApplicationEvent) :
    Act.Respects relation (publish invoke ref event) :=
  .look framing (fun _ => rfl) fun _ => respects_deliver framing calls event _

end Container

namespace RunListener

/-- Delivering an event to all of a list calls them, whatever each of them answers. -/
theorem respects_deliverToAll (event : ApplicationEvent) (listeners : List ApplicationListener) :
    Act.Respects relation (deliverToAll invoke event listeners) := by
  refine .forEach framing (fun listener => ?_) listeners
  refine .bind framing (calls (.onEvent listener.participant event)) fun told => ?_
  split
  · exact .log framing _ _ _
  · exact .of_pure framing _

/-- The news of a failure is delivered or published. -/
theorem respects_publishFailure (container : Option ContainerRef) (failure : Option Failure)
    (listeners : List ApplicationListener) :
    Act.Respects relation (publishFailure invoke container failure listeners) := by
  unfold publishFailure
  cases container with
  | none =>
    exact .bind framing (respects_deliverToAll framing calls _ _) fun _ => .of_pure framing _
  | some ref =>
    refine .look framing (fun _ => rfl) fun held => ?_
    dsimp only
    split
    · exact Container.respects_publish framing calls _ _
    · exact .bind framing (respects_deliverToAll framing calls _ _) fun _ => .of_pure framing _

/-- The publishing listener delivers the environment to its own listeners. -/
theorem respects_environmentPrepared_of_publisher (listeners : List ApplicationListener)
    (store : StoreRef) (environment : Environment) :
    Act.Respects relation
      ((RunListener.eventPublishing listeners).environmentPrepared invoke store environment) :=
  .bind framing (Container.respects_deliver framing calls _ _) fun _ => .of_pure framing _

/-- The publishing listener attaches the application listeners to the container in one phase. -/
theorem respects_tell_of_publisher (listeners : List ApplicationListener)
    (attaches : ∀ container, Act.Respects relation (Act.modifyContainer container fun held =>
      { held with listeners := held.listeners ++ listeners })) (notice : Notice) :
    Act.Respects relation (notice.tell invoke (.eventPublishing listeners)) := by
  cases notice with
  | starting => exact Container.respects_deliver framing calls _ _
  | contextPrepared =>
    exact .look framing (fun _ => rfl) fun _ => Container.respects_deliver framing calls _ _
  | contextLoaded container =>
    exact .bind framing (attaches container) fun _ =>
      .look framing (fun _ => rfl) fun _ => Container.respects_deliver framing calls _ _
  | started | running =>
    exact .look framing (fun _ => rfl) fun _ => Container.respects_publish framing calls _ _

end RunListener

end

end Launchpad
