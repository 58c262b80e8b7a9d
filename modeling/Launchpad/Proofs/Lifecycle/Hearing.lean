import Launchpad.Command
import Launchpad.Proofs.Operation.Closing

/-!
# What application listeners hear

The record of calls tells which participants were told about which events. An audience that does
nothing but listen hears an event as a whole, whether it is delivered to it directly or published on
a container to which it is attached; everything else that a run does is silent, as long as the
participants are.
-/

namespace Launchpad

/-- What an entry of the record of calls tells a participant. -/
def JournalEntry.told? : JournalEntry → Option (Participant × ApplicationEvent)
  | called _ (.onEvent participant event) => some (participant, event)
  | _ => none

/-- The events that participants were told, in order. -/
def World.told (world : World) : List (Participant × ApplicationEvent) :=
  world.journal.toList.filterMap JournalEntry.told?

/-- The events that an audience was told, in order. -/
def World.heardBy (audience : List Participant) (world : World) :
    List (Participant × ApplicationEvent) :=
  world.told.filter (audience.contains ·.1)

/-- One event after the other, each told to the whole audience. -/
def broadcast (audience : List Participant) (events : List ApplicationEvent) :
    List (Participant × ApplicationEvent) :=
  events.flatMap fun event => audience.map (·, event)

@[simp] theorem broadcast_append (audience : List Participant)
    (first second : List ApplicationEvent) :
    broadcast audience (first ++ second) = broadcast audience first ++ broadcast audience second :=
  List.flatMap_append

@[simp] theorem broadcast_singleton (audience : List Participant) (event : ApplicationEvent) :
    broadcast audience [event] = audience.map (·, event) := List.flatMap_singleton ..

/-- What one of an audience is told by a broadcast: every event, as often as it is listed. -/
theorem broadcast_filter (audience : List Participant) (events : List ApplicationEvent)
    (participant : Participant) :
    (broadcast audience events).filter (·.1 = participant) =
      events.flatMap fun event =>
        List.replicate (audience.count participant) (participant, event) := by
  induction events with
  | nil => rfl
  | cons event rest ih =>
    have one : (audience.map (·, event)).filter (·.1 = participant) =
        List.replicate (audience.count participant) (participant, event) := by
      rw [List.filter_map]
      change (audience.filter (· == participant)).map _ = _
      rw [List.filter_beq, List.map_replicate]
    rw [broadcast, List.flatMap_cons, List.filter_append, one, List.flatMap_cons]
    exact congrArg _ ih

/-- What one of an audience was told. -/
theorem World.heardBy_of_mem {audience : List Participant} {participant : Participant}
    (among : participant ∈ audience) (world : World) :
    world.heardBy [participant] = (world.heardBy audience).filter (·.1 = participant) := by
  rw [heardBy, heardBy, List.filter_filter]
  refine List.filter_congr fun entry _ => ?_
  by_cases same : entry.1 = participant <;> simp [same, among]

/-- What an event is about, apart from its details. -/
inductive EventKind where
  | starting
  | environmentPrepared
  | contextInitialized
  | prepared
  | contextRefreshed
  | started
  | ready
  | failed
  | exitCode (code : ExitCode)
  | contextClosed
  deriving DecidableEq, Repr

/-- The kind of an event. -/
def ApplicationEvent.kind : ApplicationEvent → EventKind
  | starting => .starting
  | environmentPrepared _ => .environmentPrepared
  | contextInitialized _ => .contextInitialized
  | prepared _ => .prepared
  | contextRefreshed _ => .contextRefreshed
  | started _ => .started
  | ready _ => .ready
  | failed .. => .failed
  | exitCode code => .exitCode code
  | contextClosed _ => .contextClosed

/-- The kind of event that a notice is turned into. -/
def Notice.eventKind : Notice → EventKind
  | starting .. => .starting
  | contextPrepared _ => .contextInitialized
  | contextLoaded _ => .prepared
  | started _ => .started
  | running _ => .ready

/-- What decides whom a container tells stays as it is. -/
structure Container.Remains (before after : Container) : Prop where
  phase : after.phase = before.phase
  listeners : after.listeners = before.listeners
  refreshFailure : after.refreshFailure = before.refreshFailure

/-- An audience hears events, and a container remains as it is, once there is one. -/
structure Hears (audience : List Participant) (created : Option ContainerRef)
    (events : List ApplicationEvent) (before after : World) : Prop where
  heard : after.heardBy audience = before.heardBy audience ++ broadcast audience events
  containers : before.containers.length ≤ after.containers.length
  container : ∀ container, created = some container → container.index < before.containers.length →
    (before.container container).Remains (after.container container)

/-- An audience hears nothing. -/
abbrev Silent (audience : List Participant) (created : Option ContainerRef) :
    World → World → Prop :=
  Hears audience created []

/-- A participant takes note of every event and does nothing else. -/
def Participant.Listens (invoke : Invoker) (participant : Participant) : Prop :=
  ∀ event world answer later,
    (invoke (.onEvent participant event)).result world = (.ok answer, later) →
      answer = .ok () ∧ later.containers = world.containers ∧
        later.told = world.told ++ [(participant, event)]

namespace Container.Remains

variable {first second third : Container}

theorem refl (container : Container) : Remains container container := ⟨rfl, rfl, rfl⟩

theorem trans (start : Remains first second) (rest : Remains second third) :
    Remains first third where
  phase := rest.phase.trans start.phase
  listeners := rest.listeners.trans start.listeners
  refreshFailure := rest.refreshFailure.trans start.refreshFailure

/-- A container that is furnished remains what it is to its listeners. -/
theorem of_furnishes (furnishes : first.Furnishes second) : Remains first second :=
  ⟨furnishes.phase, furnishes.listeners, furnishes.refreshFailure⟩

end Container.Remains

namespace Hears

variable {audience : List Participant} {created : Option ContainerRef}
  {events others : List ApplicationEvent} {before after : World}

theorem refl (world : World) : Silent audience created world world where
  heard := (List.append_nil _).symm
  containers := Nat.le_refl _
  container _ _ _ := .refl _

/-- What is heard first, and what is heard after that. -/
theorem trans {first second third : World} (start : Hears audience created events first second)
    (rest : Hears audience created others second third) :
    Hears audience created (events ++ others) first third where
  heard := by rw [rest.heard, start.heard, broadcast_append, List.append_assoc]
  containers := Nat.le_trans start.containers rest.containers
  container held same made := (start.container held same made).trans
    (rest.container held same (Nat.lt_of_lt_of_le made start.containers))

/-- After events nothing more is heard in silence. -/
theorem quiet {first second third : World} (start : Hears audience created events first second)
    (rest : Silent audience created second third) : Hears audience created events first third := by
  simpa using start.trans rest

/-- Events that follow silence are all that is heard. -/
theorem after_quiet {first second third : World} (start : Silent audience created first second)
    (rest : Hears audience created events second third) :
    Hears audience created events first third :=
  start.trans rest

/-- What is told to the whole audience, while the containers stay as they are. -/
theorem of_told {event : ApplicationEvent} (containers : after.containers = before.containers)
    (told : after.told = before.told ++ audience.map (·, event)) :
    Hears audience created [event] before after where
  heard := by
    have whole : (audience.map (·, event)).filter (audience.contains ·.1) =
        audience.map (·, event) := by
      simp [List.filter_eq_self]
    rw [World.heardBy, told, List.filter_append, whole, broadcast_singleton]
    rfl
  containers := Nat.le_of_eq (by rw [containers])
  container held _ _ := by
    rw [World.container, World.container, containers]
    exact .refl _

/-- What leaves the calls as they are, and only adds containers. -/
theorem of_containers (told : after.told = before.told)
    (containers : before.containers <+: after.containers) :
    Silent audience created before after where
  heard := by rw [World.heardBy, told]; exact (List.append_nil _).symm
  containers := containers.length_le
  container held _ made := by
    obtain ⟨added, same⟩ := containers
    rw [World.container, World.container, ← same, List.getElem?_append_left made]
    exact .refl _

/-- In the end a container is changed in no way that matters. -/
theorem modifyContainer {held : ContainerRef} {change : Container → Container}
    (hears : Hears audience created events before after)
    (remains : held.index < before.containers.length → created = some held →
      (before.container held).Remains (change (after.container held))) :
    Hears audience created events before (after.modifyContainer held change) where
  heard := hears.heard
  containers := by simpa [World.modifyContainer] using hears.containers
  container other same made := by
    by_cases here : other = held
    · subst here
      rw [World.container_modifyContainer_self _ _ _ (Nat.lt_of_lt_of_le made hears.containers)]
      exact remains made same
    · rw [World.container_modifyContainer_of_ne here]
      exact hears.container other same made

/-- What is heard is heard whatever container is looked at. -/
theorem forget (hears : Hears audience created events before after) :
    Hears audience none events before after :=
  ⟨hears.heard, hears.containers, nofun⟩

/-- Records and furnishings are silent. -/
theorem framing (audience : List Participant) (created : Option ContainerRef) :
    Framing (Silent audience created) where
  refl := refl
  trans := trans
  aside containers _ _ journal :=
    of_containers (by rw [World.told, World.told, journal]) (containers ▸ List.prefix_rfl)
  furnish world _ _ furnishes :=
    (refl world).modifyContainer fun _ _ => .of_furnishes furnishes

end Hears

section

variable {invoke : Invoker} {audience : List Participant} {created : Option ContainerRef}
  {world later : World} {event : ApplicationEvent}

/-- Listeners that only listen are all told, in order. -/
theorem Container.deliver_told {listeners : List ApplicationListener} {answer : Except Failure Unit}
    (listens : ∀ listener ∈ listeners, listener.participant.Listens invoke)
    (ran : (deliver invoke event listeners).result world = (.ok answer, later)) :
    answer = .ok () ∧ later.containers = world.containers ∧
      later.told = world.told ++ listeners.map (·.participant, event) := by
  induction listeners generalizing world with
  | nil =>
    cases ran
    exact ⟨rfl, rfl, (List.append_nil _).symm⟩
  | cons listener rest ih =>
    obtain ⟨first, between, told, ran⟩ := Act.result_bind_ok_iff.1 ran
    obtain ⟨rfl, containers, noted⟩ := listens listener List.mem_cons_self _ _ _ _ told
    obtain ⟨fine, same, others⟩ := ih (fun other among => listens other (.tail _ among)) ran
    exact ⟨fine, same.trans containers, by rw [others, noted, List.append_assoc]; rfl⟩

/-- A delivery that no failure would end tells the audience the event once each. -/
theorem RunListener.deliverToAll_told {listeners : List ApplicationListener}
    (listens : ∀ listener ∈ listeners, listener.participant.Listens invoke)
    (ran : (deliverToAll invoke event listeners).result world = (.ok (), later)) :
    later.containers = world.containers ∧
      later.told = world.told ++ listeners.map (·.participant, event) := by
  induction listeners generalizing world with
  | nil =>
    cases ran
    exact ⟨rfl, (List.append_nil _).symm⟩
  | cons listener rest ih =>
    obtain ⟨_, between, first, ran⟩ := Act.result_bind_ok_iff.1 ran
    obtain ⟨answer, _, told, first⟩ := Act.result_bind_ok_iff.1 first
    obtain ⟨rfl, containers, noted⟩ := listens listener List.mem_cons_self _ _ _ _ told
    cases first
    obtain ⟨same, others⟩ := ih (fun other among => listens other (.tail _ among)) ran
    exact ⟨same.trans containers, by rw [others, noted, List.append_assoc]; rfl⟩

variable (listens : ∀ participant ∈ audience, participant.Listens invoke)

include listens

/-- A direct delivery tells the audience the event. -/
theorem Container.deliver_hears {listeners : List ApplicationListener}
    {answer : Except Failure Unit} (same : listeners.map (·.participant) = audience)
    (ran : (deliver invoke event listeners).result world = (.ok answer, later)) :
    answer = .ok () ∧ Hears audience created [event] world later := by
  subst same
  obtain ⟨fine, containers, told⟩ :=
    deliver_told (fun listener among => listens _ (List.mem_map_of_mem among)) ran
  exact ⟨fine, .of_told containers (by rw [told, List.map_map]; rfl)⟩

/-- A publication on a container, which the audience hears if it is attached. -/
theorem Container.publish_hears (attached : Bool) {ref : ContainerRef}
    {answer : Except Failure Unit}
    (attaches : (world.container ref).listeners.map (·.participant) =
      if attached then audience else [])
    (ran : (publish invoke ref event).result world = (.ok answer, later)) :
    answer = .ok () ∧ Hears audience created (if attached then [event] else []) world later := by
  obtain ⟨_, _, looked, ran⟩ := Act.result_bind_ok_iff.1 ran
  cases looked
  cases attached with
  | true => exact deliver_hears listens attaches ran
  | false =>
    rw [List.map_eq_nil_iff.1 attaches] at ran
    cases ran
    exact ⟨rfl, .refl _⟩

/-- What application listeners hear of a failure, whether or not there is a container and whether or
not it is active, as long as they are attached to an active one. -/
theorem RunListener.publishFailure_hears {listeners : List ApplicationListener}
    {container : Option ContainerRef} {failure : Option Failure} {answer : Except Failure Unit}
    (same : listeners.map (·.participant) = audience)
    (attaches : ∀ ref, container = some ref → (world.container ref).isActive = true →
      (world.container ref).listeners.map (·.participant) = audience)
    (ran : (publishFailure invoke container failure listeners).result world = (.ok answer, later)) :
    ∃ id message, Hears audience created [.failed id message] world later := by
  have all : ∀ {event between}, (deliverToAll invoke event listeners).result world =
      (.ok (), between) → Hears audience created [event] world between := by
    intro event between ran
    subst same
    obtain ⟨containers, told⟩ :=
      deliverToAll_told (fun listener among => listens _ (List.mem_map_of_mem among)) ran
    exact .of_told containers (by rw [told, List.map_map]; rfl)
  unfold publishFailure at ran
  cases container with
  | none =>
    obtain ⟨_, _, told, ran⟩ := Act.result_bind_ok_iff.1 ran
    cases ran
    exact ⟨_, _, all told⟩
  | some ref =>
    obtain ⟨_, _, looked, ran⟩ := Act.result_bind_ok_iff.1 ran
    cases looked
    dsimp only at ran
    split at ran
    · rename_i active
      have attached := attaches ref rfl active
      obtain ⟨-, hears⟩ := Container.publish_hears listens true attached ran
      exact ⟨_, _, hears⟩
    · obtain ⟨_, _, told, ran⟩ := Act.result_bind_ok_iff.1 ran
      cases ran
      exact ⟨_, _, all told⟩

variable (others : ∀ call : Call, call.isEvent = false →
  Act.Respects (Silent audience created) (invoke call))

include others

/-- The refresh of a container that was just made: the audience hears of it if it is attached. -/
theorem Container.refresh_hears (attached : Bool) {ref : ContainerRef}
    {answer : Except Failure Unit} (known : created = some ref)
    (there : ref.index < world.containers.length)
    (fresh : (world.container ref).phase = .created)
    (healthy : (world.container ref).refreshFailure = none)
    (attaches : (world.container ref).listeners.map (·.participant) =
      if attached then audience else [])
    (ran : (refresh invoke ref).result world = (.ok answer, later)) :
    answer = .ok () ∧ ref.index < later.containers.length ∧
      (world.container ref).markActive.Remains (later.container ref) ∧
      ∃ id, Hears audience none (if attached then [.contextRefreshed id] else []) world later := by
  have framing := Hears.framing audience created
  obtain ⟨_, _, looked, ran⟩ := Act.result_bind_ok_iff.1 ran
  cases looked
  have begun : (world.container ref).beginRefresh = .ok (world.container ref).startup := by
    rw [beginRefresh, fresh]
  rw [healthy, begun] at ran
  dsimp only at ran
  obtain ⟨step, first, begins, ran⟩ := Act.result_bind_ok_iff.1 ran
  obtain ⟨step, second, tags, ran⟩ := Act.result_bind_ok_iff.1 ran
  obtain ⟨_, _, marks, ran⟩ := Act.result_bind_ok_iff.1 ran
  rw [Act.result_modifyContainer] at marks
  cases marks
  obtain ⟨_, _, looked, ran⟩ := Act.result_bind_ok_iff.1 ran
  cases looked
  obtain ⟨_, third, logs, ran⟩ := Act.result_bind_ok_iff.1 ran
  obtain ⟨_, fourth, finishes, published⟩ := Act.result_bind_ok_iff.1 ran
  -- Everything but the publication is silent, so the container is followed through the measures of
  -- its startup.
  let startup := (world.container ref).startup
  have begins := (startup.respects_begin framing others _).leads begins
  have tags := (startup.respects_tag framing others _ _ _).leads tags
  have notes := (Act.Respects.log framing _ _ _).leads logs
  have finishes := (startup.respects_finish framing others _).leads finishes
  have held := (begins.quiet tags).container ref known there
  have there : ref.index < (second.modifyContainer ref markActive).containers.length := by
    simpa [World.modifyContainer] using
      Nat.lt_of_lt_of_le there (begins.quiet tags).containers
  have marked : (world.container ref).markActive.Remains (fourth.container ref) := by
    refine .trans ?_ ((notes.quiet finishes).container ref known there)
    rw [World.container_modifyContainer_self]
    · exact ⟨rfl, held.listeners, held.refreshFailure⟩
    · simpa [World.modifyContainer] using there
  have there := Nat.lt_of_lt_of_le there (notes.quiet finishes).containers
  have told : answer = .ok () ∧ Hears audience created
      (if attached then [.contextRefreshed (world.container ref).id] else []) fourth later :=
    publish_hears listens attached (by rw [marked.listeners]; exact attaches) published
  obtain ⟨fine, hears⟩ := told
  refine ⟨fine, Nat.lt_of_lt_of_le there hears.containers,
    marked.trans (hears.container ref known there), (world.container ref).id, ?_⟩
  have switch : Silent audience none second (second.modifyContainer ref markActive) :=
    (Hears.refl second).modifyContainer (by rintro _ ⟨⟩)
  exact (((begins.quiet tags).forget.quiet switch).quiet
    (notes.quiet finishes).forget).after_quiet hears.forget

omit listens in
/-- The close callbacks of a container are silent. -/
theorem Container.silent_runCallback (ref : ContainerRef) (callback : CloseCallback) :
    Act.Respects (Silent audience created) (runCallback invoke ref callback) := by
  have framing := Hears.framing audience created
  cases callback with
  | custom participant => exact others _ rfl
  | deregister coordinator =>
    refine .look framing (fun _ => rfl) fun held => ?_
    split
    · exact .of_pure framing _
    · exact .of_modify fun world => .of_containers rfl List.prefix_rfl

/-- The close of an open container: the audience hears of it if the container is active, as long as
it is attached to an active one. -/
theorem Container.close_hears (active : Bool) {ref : ContainerRef} {answer : Except Failure Unit}
    (there : ref.index < world.containers.length)
    (phase : (world.container ref).phase = if active then .active else .created)
    (attaches : active = true →
      (world.container ref).listeners.map (·.participant) = audience)
    (ran : (close invoke ref).result world = (.ok answer, later)) :
    ∃ id, Hears audience none (if active then [.contextClosed id] else []) world later := by
  have framing := Hears.framing audience none
  have others : ∀ call : Call, call.isEvent = false →
      Act.Respects (Silent audience none) (invoke call) :=
    fun call quiet world => (others call quiet world).forget
  let counted := world.modifyContainer ref countClose
  let closed := counted.modifyContainer ref fun _ => (counted.container ref).shut
  have same : counted.container ref = (world.container ref).countClose :=
    World.container_modifyContainer_self _ _ _ there
  have isOpen : (counted.container ref).isClosed = false := by
    rw [same, isClosed, countClose, phase]
    cases active <;> rfl
  have isActive : (counted.container ref).isActive = active := by
    rw [same, Container.isActive, countClose, phase]
    cases active <;> rfl
  have counts : Silent audience none world counted :=
    (Hears.refl world).modifyContainer (by rintro _ ⟨⟩)
  have shuts : Silent audience none world closed := counts.modifyContainer (by rintro _ ⟨⟩)
  obtain ⟨announced, unwound, announces, unwinds, logs⟩ :=
    sections_of_closeOnce isOpen (closeOnce_of_close ran)
  have unwinds := (Act.Respects.forEach framing (silent_runCallback others ref) _).leads unwinds
  have logs := (Act.Respects.log framing _ _ _).leads logs
  have told : Hears audience none
      (if active then [.contextClosed (counted.container ref).id] else []) closed announced := by
    unfold announceClose at announces
    rw [isActive] at announces
    cases active with
    | false =>
      cases announces
      exact .refl _
    | true =>
      have attached : (closed.container ref).listeners.map (·.participant) = audience := by
        rw [World.container_modifyContainer_self]
        · rw [same]
          exact attaches rfl
        · simpa [counted, World.modifyContainer] using there
      obtain ⟨_, _, published, ending⟩ := Act.result_bind_ok_iff.1 announces
      obtain ⟨rfl, hears⟩ := publish_hears listens true attached published
      cases ending
      exact hears
  exact ⟨_, (shuts.after_quiet told).quiet (unwinds.quiet logs)⟩

end

section

variable {invoke : Invoker} {audience : List Participant} {created : Option ContainerRef}
  {world later : World} {listeners : List ApplicationListener}
  (listens : ∀ participant ∈ audience, participant.Listens invoke)
  (same : listeners.map (·.participant) = audience)

include listens same

/-- The publishing listener turns a notice into an event that the audience hears, from `started` on
through the container. -/
theorem RunListener.tell_hears {notice : Notice} {answer : Except Failure Unit}
    (early : ∀ container, notice ≠ .contextLoaded container)
    (attaches : ∀ container, notice = .started container ∨ notice = .running container →
      (world.container container).listeners.map (·.participant) = audience)
    (ran : (notice.tell invoke (.eventPublishing listeners)).result world = (.ok answer, later)) :
    ∃ event, event.kind = notice.eventKind ∧ Hears audience created [event] world later := by
  cases notice with
  | starting => exact ⟨.starting, rfl, (Container.deliver_hears listens same ran).2⟩
  | contextPrepared container =>
    obtain ⟨_, _, looked, ran⟩ := Act.result_bind_ok_iff.1 ran
    cases looked
    exact ⟨.contextInitialized _, rfl, (Container.deliver_hears listens same ran).2⟩
  | contextLoaded container => exact absurd rfl (early container)
  | started container =>
    obtain ⟨_, _, looked, ran⟩ := Act.result_bind_ok_iff.1 ran
    cases looked
    exact ⟨.started _, rfl,
      (Container.publish_hears listens true (attaches container (.inl rfl)) ran).2⟩
  | running container =>
    obtain ⟨_, _, looked, ran⟩ := Act.result_bind_ok_iff.1 ran
    cases looked
    exact ⟨.ready _, rfl,
      (Container.publish_hears listens true (attaches container (.inr rfl)) ran).2⟩

/-- Once the container is loaded, the publishing listener attaches the application listeners to
it. -/
theorem RunListener.contextLoaded_hears {container : ContainerRef} {answer : Except Failure Unit}
    (there : container.index < world.containers.length)
    (ran : (contextLoaded invoke container (.eventPublishing listeners)).result world =
      (.ok answer, later)) :
    container.index < later.containers.length ∧
      Container.Remains
        { world.container container with
          listeners := (world.container container).listeners ++ listeners }
        (later.container container) ∧
      ∃ id, Hears audience none [.prepared id] world later := by
  obtain ⟨_, _, attaches, ran⟩ := Act.result_bind_ok_iff.1 ran
  rw [Act.result_modifyContainer] at attaches
  cases attaches
  obtain ⟨_, _, looked, ran⟩ := Act.result_bind_ok_iff.1 ran
  cases looked
  have told : Hears audience (some container) [.prepared _] _ later :=
    (Container.deliver_hears listens same ran).2
  let attached := world.modifyContainer container fun held =>
    { held with listeners := held.listeners ++ listeners }
  have there' : container.index < attached.containers.length := by
    simpa [attached, World.modifyContainer] using there
  have remains := told.container container rfl there'
  rw [World.container_modifyContainer_self _ _ _ there] at remains
  have attaches : Silent audience none world attached :=
    (Hears.refl world).modifyContainer (by rintro _ ⟨⟩)
  exact ⟨Nat.lt_of_lt_of_le there' told.containers, remains, _,
    attaches.after_quiet told.forget⟩

/-- The publishing listener shows the environment to nobody but tells the audience that it is
ready. -/
theorem RunListener.environmentPrepared_hears (store : StoreRef) {environment : Environment}
    {answer : Except Failure Unit × Environment}
    (ran : (environmentPrepared invoke store environment
        (.eventPublishing listeners)).result world = (.ok answer, later)) :
    ∃ event, event.kind = .environmentPrepared ∧ Hears audience created [event] world later := by
  obtain ⟨_, _, told, ran⟩ := Act.result_bind_ok_iff.1 ran
  cases ran
  exact ⟨.environmentPrepared _, rfl, (Container.deliver_hears listens same told).2⟩

end

/-- Whether an errand may be heard by application listeners, or changes what decides that. -/
def Errand.isAudible : Errand → Bool
  | refresh _ | publish .. | close _ | createContainer .. => true
  | tell listener _ | showEnvironment listener .. | tellFailed listener .. => listener.isPublisher
  | _ => false

section

variable {invoke : Invoker} {audience : List Participant} {created : Option ContainerRef}
  (others : ∀ call : Call, call.isEvent = false →
    Act.Respects (Silent audience created) (invoke call))

include others

/-- A registration for shutdown is silent, even of a closed container. -/
theorem ShutdownCoordinator.silent_registerContainer (ref : CoordinatorRef)
    (container : ContainerRef) :
    Act.Respects (Silent audience created) (registerContainer invoke ref container) := by
  have framing := Hears.framing audience created
  have coordinates : ∀ change, Act.Respects (Silent audience created)
      (Act.modifyCoordinator ref change) :=
    fun change => .of_modify fun world => .of_containers rfl List.prefix_rfl
  have keeps : Act.Respects (Silent audience created)
      (Act.modifyContainer container (·.addCallback (.deregister ref))) :=
    .of_modify fun world => (Hears.refl world).modifyContainer fun _ _ => ⟨rfl, rfl, rfl⟩
  have hooks : Act.Respects (Silent audience created) (hook ref) :=
    .of_modify fun world => .of_containers rfl List.prefix_rfl
  refine .look framing (fun _ => rfl) fun held => ?_
  split
  · exact .of_pure framing _
  · exact .of_pure framing _
  · refine .bind framing (coordinates _) fun _ => .bind framing ?_ fun _ => ?_
    · refine .look framing (fun _ => rfl) fun held => ?_
      split
      · exact Container.silent_runCallback others container _
      · exact keeps
    · split
      · exact .bind framing hooks fun _ => .of_pure framing _
      · exact .of_pure framing _

/-- What is not audible is silent. -/
theorem Errand.silent {errand : Errand} (inaudible : errand.isAudible = false) :
    Act.Respects (Silent audience created) (errand.carryOut invoke) := by
  have framing := Hears.framing audience created
  by_cases quiet : errand.isQuiet = true
  · exact Errand.respects_carryOut framing others quiet
  · cases errand with
    | makeStore => exact fun world => .of_containers rfl List.prefix_rfl
    | beginCloseStore store =>
      refine .look framing (fun _ => rfl) fun held => ?_
      split
      · exact .of_pure framing _
      · exact .bind framing (.of_modify fun world => .of_containers rfl List.prefix_rfl) fun _ =>
          .of_pure framing _
    | registerForShutdown coordinator container =>
      exact ShutdownCoordinator.silent_registerContainer others coordinator container
    | refresh | publish | close | createContainer => cases inaudible
    | tell listener | showEnvironment listener | tellFailed listener =>
      rw [isAudible] at inaudible
      exact absurd (by rw [isQuiet, inaudible]; rfl) quiet
    | _ => exact absurd rfl quiet

end

section

variable {behaviour : Behaviour} {limit depth : Nat}

/-- A participant listens if it does nothing when it is told about an event. -/
theorem Participant.listens_of_done {participant : Participant}
    (answers : ∀ event, behaviour (.onEvent participant event) = .done (.ok ())) :
    participant.Listens (behaviour.invoker limit depth) := by
  intro event world answer later ran
  cases limit with
  | zero => cases ran
  | succ limit =>
    rw [Behaviour.invoker, answers] at ran
    cases ran
    refine ⟨rfl, rfl, ?_⟩
    simp [World.told, JournalEntry.told?, List.filterMap_append]

/-- What is noted about anything but an event tells nobody anything. -/
theorem Behaviour.silent_note {audience : List Participant} {created : Option ContainerRef}
    {entry : JournalEntry} (untold : entry.told? = none) :
    Act.Respects (Silent audience created) (note entry) :=
  .of_modify fun world => .of_containers
    (by simp [World.told, untold, List.filterMap_append]) List.prefix_rfl

/-- A call that a participant answers without a command is silent. -/
theorem Behaviour.silent_of_done {audience : List Participant} {created : Option ContainerRef}
    {call : Call} (quiet : call.isEvent = false)
    (answers : (∃ answer, behaviour call = .done answer) ∨
      ∃ message, behaviour call = .panic message) :
    Act.Respects (Silent audience created) (behaviour.invoker limit depth call) := by
  have framing := Hears.framing audience created
  cases limit with
  | zero => exact .of_throw framing _
  | succ limit =>
    have called : (JournalEntry.called depth call).told? = none := by
      cases call <;> first | rfl | cases quiet
    have answered : ∀ failure, (JournalEntry.answered depth failure).told? = none := fun _ => rfl
    refine .bind framing (silent_note called) fun _ => .bind framing ?_ fun answer =>
      .bind framing (silent_note (answered _)) fun _ => .of_pure framing _
    obtain ⟨answer, same⟩ | ⟨message, same⟩ := answers
    · rw [same]
      exact .of_pure framing _
    · rw [same]
      exact .of_throw framing _

end

end Launchpad
