import Launchpad.Proofs.Launch.Publisher
import Launchpad.Proofs.Launch.Registration
import Launchpad.Proofs.Lifecycle.Hearing

/-!
# What application listeners hear of a run

The publishing listener tells the application listeners itself until the container is loaded; from
then on the container tells them. Along a run they hear one event at each station of the route, and
after a failure the exit code, the failure and the end of the container, as far as they are attached
to it and it is active. Wherever a run fails, no event is lost, repeated or told out of order.
-/

namespace Launchpad

/-- The kind of event that is told at a routed station. -/
def Station.eventKind? : Station → Option EventKind
  | notice _ told => some told.eventKind
  | environment .. => some .environmentPrepared
  | refresh _ => some .contextRefreshed
  | _ => none

/-- The kinds of events that are told at the routed stations among visits. -/
def announcedIn (visits : List Visit) : List EventKind :=
  ((visits.map Visit.station).filter Station.isRouted).filterMap Station.eventKind?

/-- The kinds of events of a run that succeeds. -/
def runKinds : List EventKind :=
  [.starting, .environmentPrepared, .contextInitialized, .prepared, .contextRefreshed, .started,
   .ready]

/-- Who hears of the refresh was attached before. -/
theorem prepared_of_refreshed {kinds : List EventKind} (first : kinds <+: runKinds)
    (refreshed : .contextRefreshed ∈ kinds) : .prepared ∈ kinds := by
  rw [List.prefix_iff_eq_take.1 first] at refreshed ⊢
  have within : kinds.length ≤ 7 := first.length_le
  generalize kinds.length = length at refreshed within ⊢
  match length, within with
  | 0, _ | 1, _ | 2, _ | 3, _ | 4, _ | 5, _ | 6, _ | 7, _ => revert refreshed; decide

/-- What an audience has heard of a run so far, and how it stands with the container of the run: it
is active once its refresh was heard of, and the audience is attached to it once that was. -/
structure Informed (audience : List Participant) (created : Option ContainerRef)
    (kinds : List EventKind) (start world : World) : Prop where
  heard : ∃ events : List ApplicationEvent, events.map (·.kind) = kinds ∧
    world.heardBy audience = start.heardBy audience ++ broadcast audience events
  made : .prepared ∈ kinds → ∃ container, created = some container
  container : ∀ container, created = some container →
    container.index < world.containers.length ∧
    (world.container container).phase =
      (if .contextRefreshed ∈ kinds then .active else .created) ∧
    (world.container container).listeners.map (·.participant) =
      (if .prepared ∈ kinds then audience else []) ∧
    (world.container container).refreshFailure = none

namespace Informed

variable {audience : List Participant} {created known : Option ContainerRef}
  {kinds others : List EventKind} {events : List ApplicationEvent} {start world later : World}

theorem refl (audience : List Participant) (world : World) :
    Informed audience none [] world world where
  heard := ⟨[], rfl, (List.append_nil _).symm⟩
  made among := absurd among List.not_mem_nil
  container _ same := by cases same

/-- More events, which neither load nor refresh the container. -/
theorem hears (informed : Informed audience created kinds start world)
    (same : ∀ container, created = some container → known = some container)
    (hears : Hears audience known events world later) (told : events.map (·.kind) = others)
    (plain : .prepared ∉ others ∧ .contextRefreshed ∉ others) :
    Informed audience created (kinds ++ others) start later where
  heard := by
    obtain ⟨earlier, rfl, heard⟩ := informed.heard
    exact ⟨earlier ++ events, by rw [List.map_append, told],
      by rw [hears.heard, heard, broadcast_append, List.append_assoc]⟩
  made among := informed.made (by simpa [plain.1] using among)
  container container is := by
    obtain ⟨made, phase, listeners, healthy⟩ := informed.container container is
    have remains := hears.container container (same container is) made
    refine ⟨Nat.lt_of_lt_of_le made hears.containers, ?_, ?_, ?_⟩
    · rw [remains.phase, phase]
      simp [plain.2]
    · rw [remains.listeners, listeners]
      simp [plain.1]
    · rw [remains.refreshFailure, healthy]

/-- What is silent informs the audience of nothing. -/
theorem quiet (informed : Informed audience created kinds start world)
    (same : ∀ container, created = some container → known = some container)
    (silent : Silent audience known world later) :
    Informed audience created kinds start later := by
  have onward : Informed audience created (kinds ++ []) start later :=
    informed.hears same silent rfl ⟨List.not_mem_nil, List.not_mem_nil⟩
  rwa [List.append_nil] at onward

/-- Events that are told while the container is changed. -/
theorem extend (informed : Informed audience created kinds start world)
    (hears : Hears audience none events world later) (told : events.map (·.kind) = others)
    {container : ContainerRef} (is : created = some container)
    (changed : container.index < later.containers.length ∧
      (later.container container).phase =
        (if .contextRefreshed ∈ kinds ++ others then .active else .created) ∧
      (later.container container).listeners.map (·.participant) =
        (if .prepared ∈ kinds ++ others then audience else []) ∧
      (later.container container).refreshFailure = none) :
    Informed audience created (kinds ++ others) start later where
  heard := by
    obtain ⟨earlier, rfl, heard⟩ := informed.heard
    exact ⟨earlier ++ events, by rw [List.map_append, told],
      by rw [hears.heard, heard, broadcast_append, List.append_assoc]⟩
  made _ := ⟨container, is⟩
  container other same := by
    rw [is] at same
    cases same
    exact changed

/-- Making the container informs nobody, and from then on it is known. -/
theorem creates {kind : ApplicationKind} {container : ContainerRef}
    (informed : Informed audience created kinds start world)
    (plain : .prepared ∉ kinds ∧ .contextRefreshed ∉ kinds)
    (made : (Container.make kind).result world = (.ok container, later)) :
    Informed audience (some container) kinds start later := by
  cases made
  refine ⟨informed.heard, fun loaded => absurd loaded plain.1, ?_⟩
  rintro _ ⟨⟩
  rw [if_neg plain.1, if_neg plain.2]
  refine ⟨by simp, ?_⟩
  simp [World.container]

end Informed

/-- A place among the first items of a list. -/
theorem take_of_prefix {α : Type} {items before after : List α} {item : α}
    (first : before ++ item :: after <+: items) :
    items[before.length]? = some item ∧ before = items.take before.length := by
  obtain ⟨rest, rfl⟩ := first
  simp

theorem announcedIn_append (first second : List Visit) :
    announcedIn (first ++ second) = announcedIn first ++ announcedIn second := by
  simp [announcedIn]

/-- What is told at one station. -/
theorem announcedIn_singleton (visit : Visit) :
    announcedIn [visit] =
      if visit.station.isRouted then visit.station.eventKind?.toList else [] := by
  unfold announcedIn
  cases routed : visit.station.isRouted with
  | true => cases told : visit.station.eventKind? <;> simp [routed, told]
  | false => simp [routed]

/-- Nobody is told anything at the station of an errand that is not audible. -/
theorem Errand.not_routed_of_inaudible {errand : Errand} {station : Station}
    (inaudible : errand.isAudible = false) (here : errand.station? = some station) :
    station.isRouted = false := by
  cases errand with
  | check own => cases own <;> cases here <;> rfl
  | enterPhase _ phase => cases phase <;> cases here <;> rfl
  | tell | showEnvironment => cases here; exact inaudible
  | refresh | createContainer => cases inaudible
  | _ => cases here <;> rfl

/-- What is audible before a failure is at a routed station. -/
theorem Errand.routed_of_audible {errand : Errand} (audible : errand.isAudible = true)
    (regular : errand.milestone? = none) :
    ∃ station, errand.station? = some station ∧ station.isRouted = true := by
  cases errand with
  | tell | showEnvironment => exact ⟨_, rfl, audible⟩
  | refresh | createContainer => exact ⟨_, rfl, rfl⟩
  | publish | close | tellFailed => cases regular
  | _ => cases audible

/-- The kind of event that is told at a milestone, if the audience heard events of some kinds
before. -/
def Milestone.eventKind? (kinds : List EventKind) : Milestone → Option EventKind
  | publishing _ (.exitCode code) => if .prepared ∈ kinds then some (.exitCode code) else none
  | telling listener _ _ => if listener.isPublisher then some .failed else none
  | _ => none

/-- The kinds of events that are told at milestones. -/
def announcedAfter (kinds : List EventKind) (milestones : List Milestone) : List EventKind :=
  milestones.filterMap (Milestone.eventKind? kinds)

theorem announcedAfter_append (kinds : List EventKind) (first second : List Milestone) :
    announcedAfter kinds (first ++ second) =
      announcedAfter kinds first ++ announcedAfter kinds second :=
  List.filterMap_append

theorem announcedAfter_singleton (kinds : List EventKind) (milestone : Milestone) :
    announcedAfter kinds [milestone] = (milestone.eventKind? kinds).toList := by
  cases told : milestone.eventKind? kinds <;> simp [announcedAfter, told]

/-- After a failure, the container is neither loaded nor refreshed. -/
theorem announcedAfter_plain (kinds : List EventKind) (milestones : List Milestone) :
    .prepared ∉ announcedAfter kinds milestones ∧
      .contextRefreshed ∉ announcedAfter kinds milestones := by
  have each : ∀ milestone kind, Milestone.eventKind? kinds milestone = some kind →
      kind ≠ .prepared ∧ kind ≠ .contextRefreshed := by
    intro milestone kind told
    unfold Milestone.eventKind? at told
    split at told
    · split at told <;> cases told
      constructor <;> rintro ⟨⟩
    · split at told <;> cases told
      constructor <;> rintro ⟨⟩
    · cases told
  constructor <;> intro among <;> obtain ⟨milestone, -, told⟩ := List.mem_filterMap.1 among
  · exact (each milestone _ told).1 rfl
  · exact (each milestone _ told).2 rfl

/-- The milestones of a failed run with one publishing listener, before the close. -/
def Milestone.Fits (publisher : RunListener) (created : Option ContainerRef) : Milestone → Prop
  | publishing container event => created = some container ∧ ∃ code, event = .exitCode code
  | telling listener container _ =>
    container = created ∧ (listener.isPublisher = true → listener = publisher)
  | closing _ => False
  | _ => True

/-- Nobody is told anything at the milestone of an errand that is not audible. -/
theorem Errand.untold_of_inaudible {errand : Errand} (inaudible : errand.isAudible = false)
    (kinds : List EventKind) : errand.milestone?.bind (Milestone.eventKind? kinds) = none := by
  cases errand with
  | enterPhase _ phase => cases phase <;> rfl
  | tellFailed listener =>
    rw [isAudible] at inaudible
    simp [milestone?, Milestone.eventKind?, inaudible]
  | publish | close | refresh | createContainer => cases inaudible
  | _ => rfl

namespace Application

/-- A run that application listeners attend. They only listen; the container comes from the standard
factory; the publishing listener is declared once; and no other participant tells the audience
anything, or changes the phase or the listeners of the container. -/
structure Attended (invoke : Invoker) (application : Application) (given : List String)
    (world : World) : Prop where
  standard : application.factory = .standard
  publishes : application.PublishesOnce invoke
  listens : ∀ listener ∈ application.audience (application.execution invoke given world).visits,
    listener.participant.Listens invoke
  others : ∀ call : Call, call.isEvent = false → Act.Respects
    (Silent
      ((application.audience (application.execution invoke given world).visits).map (·.participant))
      (createdIn (application.execution invoke given world).visits)) (invoke call)

/-- What an audience has heard after a part of the record of a run. -/
def InformedAfter (audience : List Participant) (start : World) (record : List Performed)
    (reached : World) : Prop :=
  Informed audience (createdIn (visitsOf (record.map (·.reply))))
    (announcedIn (visitsOf (record.map (·.reply)))) start reached

namespace Attended

variable {invoke : Invoker} {application : Application} {given : List String} {world : World}
  {found : Found application} {course : Course} {earlier later : List Performed}
  {performed : Performed}

/-- The participants of the audience. -/
abbrev heard (invoke : Invoker) (application : Application) (given : List String)
    (world : World) : List Participant :=
  (application.audience (application.execution invoke given world).visits).map (·.participant)

/-- Everybody who is to hear of the run listens. -/
theorem participants (attended : Attended invoke application given world) :
    ∀ participant ∈ heard invoke application given world, participant.Listens invoke := by
  intro participant among
  obtain ⟨listener, listed, rfl⟩ := List.mem_map.1 among
  exact attended.listens listener listed

/-- The visits of a run around one of its errands. -/
theorem visits_around {station : Station}
    (record : (application.execution invoke given world).record = earlier ++ performed :: later)
    (here : performed.reply.errand.station? = some station) :
    ∃ visit : Visit, visit.station = station ∧ visitsOf [performed.reply] = [visit] ∧
      (application.execution invoke given world).visits =
        visitsOf (earlier.map (·.reply)) ++ visit :: visitsOf (later.map (·.reply)) := by
  obtain ⟨visit, visited⟩ : ∃ visit, performed.reply.visit? = some visit := by
    rw [Reply.visit?, here]
    exact ⟨_, rfl⟩
  have same := Reply.station_of_visit? visited
  rw [here, Option.some.injEq] at same
  have single : visitsOf [performed.reply] = [visit] := by
    rw [visitsOf_singleton, visited]
    rfl
  refine ⟨visit, same.symm, single, ?_⟩
  rw [Execution.visits_of_record record, List.map_cons, ← List.singleton_append, visitsOf_append,
    single]
  rfl

/-- What the audience is informed of after one more errand. -/
theorem informedAfter_snoc {audience : List Participant} {start reached : World} :
    InformedAfter audience start (earlier ++ [performed]) reached =
      Informed audience
        ((createdIn (visitsOf [performed.reply])).or (createdIn (visitsOf (earlier.map (·.reply)))))
        (announcedIn (visitsOf (earlier.map (·.reply))) ++ announcedIn (visitsOf [performed.reply]))
        start reached := by
  rw [InformedAfter, List.map_append, visitsOf_append, createdIn_append, announcedIn_append]
  rfl

/-- An errand that is not at a routed station and tells nobody anything. -/
theorem informedAfter_silent (attended : Attended invoke application given world)
    (walk : Walk (itinerary given found) (application.execution invoke given world).visits course)
    (record : (application.execution invoke given world).record = earlier ++ performed :: later)
    (ran : performed.Ran invoke) (inaudible : performed.reply.errand.isAudible = false)
    (informed : InformedAfter (heard invoke application given world) world earlier
      performed.before) :
    InformedAfter (heard invoke application given world) world (earlier ++ [performed])
      performed.after := by
  have uncreated : createdIn (visitsOf [performed.reply]) = none :=
    createdIn_of_reply fun factory kind same => by
      rw [same] at inaudible
      cases inaudible
  have untold : announcedIn (visitsOf [performed.reply]) = [] := by
    cases here : performed.reply.errand.station? with
    | none =>
      have unvisited : performed.reply.visit? = none := by
        rw [Reply.visit?, here]
        rfl
      rw [visitsOf_singleton, unvisited]
      rfl
    | some station =>
      obtain ⟨visit, rfl, visited, -⟩ := visits_around record here
      rw [visited, announcedIn_singleton, Errand.not_routed_of_inaudible inaudible here]
      rfl
  have silent := (Errand.silent attended.others inaudible).leads ran
  rw [informedAfter_snoc, uncreated, untold, List.append_nil, Option.none_or]
  exact informed.quiet (fun container created => created_of_part walk record created) silent

/-- The audience is told something that neither loads nor refreshes the container. -/
theorem informedAfter_told
    (walk : Walk (itinerary given found) (application.execution invoke given world).visits course)
    (record : (application.execution invoke given world).record = earlier ++ performed :: later)
    (uncreated : createdIn (visitsOf [performed.reply]) = none) {kind : EventKind}
    (announced : announcedIn (visitsOf [performed.reply]) = [kind])
    (plain : kind ≠ .prepared ∧ kind ≠ .contextRefreshed)
    (told : ∃ event : ApplicationEvent, event.kind = kind ∧
      Hears (heard invoke application given world)
        (createdIn (application.execution invoke given world).visits) [event] performed.before
        performed.after)
    (informed : InformedAfter (heard invoke application given world) world earlier
      performed.before) :
    InformedAfter (heard invoke application given world) world (earlier ++ [performed])
      performed.after := by
  obtain ⟨event, same, hears⟩ := told
  rw [informedAfter_snoc, uncreated, announced, Option.none_or]
  exact informed.hears (fun container created => created_of_part walk record created) hears
    (by rw [List.map_singleton, same]) (by simpa [eq_comm] using plain)

/-- The publishing listener is told something that it turns into an event. -/
theorem informedAfter_notice (attended : Attended invoke application given world)
    (walk : Walk (itinerary given found) (application.execution invoke given world).visits course)
    (record : (application.execution invoke given world).record = earlier ++ performed :: later)
    (ran : performed.Ran invoke) (answered : ∃ answer, performed.reply.answer = .ok answer)
    {notice : Notice} (tells : performed.reply.errand = .tell
      (.eventPublishing (application.audience (application.execution invoke given world).visits))
      notice)
    (announced : announcedIn (visitsOf [performed.reply]) = [notice.eventKind])
    (elsewhere : ∀ container, notice ≠ .contextLoaded container)
    (loaded : ∀ container, notice = .started container ∨ notice = .running container →
      createdIn (visitsOf (earlier.map (·.reply))) = some container ∧
        .prepared ∈ announcedIn (visitsOf (earlier.map (·.reply))))
    (informed : InformedAfter (heard invoke application given world) world earlier
      performed.before) :
    InformedAfter (heard invoke application given world) world (earlier ++ [performed])
      performed.after := by
  obtain ⟨answer, carried⟩ := ran.answered tells answered
  refine informedAfter_told walk record (createdIn_of_reply fun _ _ => ?_) announced ?_
    (RunListener.tell_hears attended.participants rfl elsewhere (fun container later => ?_) carried)
    informed
  · rw [tells]
    rintro ⟨⟩
  · cases notice with
    | contextLoaded container => exact absurd rfl (elsewhere container)
    | _ => constructor <;> rintro ⟨⟩
  · obtain ⟨created, prepared⟩ := loaded container later
    obtain ⟨-, -, listeners, -⟩ := informed.container container created
    rw [listeners, if_pos prepared]

/-- After the errand that makes it, the container is known. -/
theorem informedAfter_made {kind : ApplicationKind} (ran : performed.Ran invoke)
    (answered : ∃ answer, performed.reply.answer = .ok answer)
    (creates : performed.reply.errand = .createContainer .standard kind)
    (early : .prepared ∉ announcedIn (visitsOf (earlier.map (·.reply))) ∧
      .contextRefreshed ∉ announcedIn (visitsOf (earlier.map (·.reply))))
    (informed : InformedAfter (heard invoke application given world) world earlier
      performed.before) :
    InformedAfter (heard invoke application given world) world (earlier ++ [performed])
      performed.after := by
  obtain ⟨before, ⟨errand, reply⟩, after⟩ := performed
  dsimp only at answered creates
  subst creates
  obtain ⟨answer, rfl⟩ := answered
  obtain ⟨container, _, made, ending⟩ := Act.result_bind_ok_iff.1 ran
  cases ending
  rw [informedAfter_snoc]
  change Informed _ (some container) (_ ++ []) _ _
  rw [List.append_nil]
  exact informed.creates early made

/-- The audience is attached to the container. -/
theorem informedAfter_loaded (attended : Attended invoke application given world)
    {container : ContainerRef} (ran : performed.Ran invoke)
    (answered : ∃ answer, performed.reply.answer = .ok answer)
    (tells : performed.reply.errand = .tell
      (.eventPublishing (application.audience (application.execution invoke given world).visits))
      (.contextLoaded container))
    (created : createdIn (visitsOf (earlier.map (·.reply))) = some container)
    (announced : announcedIn (visitsOf [performed.reply]) = [.prepared])
    (early : .prepared ∉ announcedIn (visitsOf (earlier.map (·.reply))) ∧
      .contextRefreshed ∉ announcedIn (visitsOf (earlier.map (·.reply))))
    (informed : InformedAfter (heard invoke application given world) world earlier
      performed.before) :
    InformedAfter (heard invoke application given world) world (earlier ++ [performed])
      performed.after := by
  have uncreated : createdIn (visitsOf [performed.reply]) = none :=
    createdIn_of_reply fun factory kind same => by
      rw [tells] at same
      cases same
  obtain ⟨answer, carried⟩ := ran.answered tells answered
  rw [informedAfter_snoc, uncreated, announced, Option.none_or]
  rw [InformedAfter, created] at informed
  rw [created]
  obtain ⟨made, phase, listeners, healthy⟩ := informed.container container rfl
  obtain ⟨there, remains, id, hears⟩ :=
    RunListener.contextLoaded_hears attended.participants rfl made carried
  refine informed.extend hears rfl rfl ⟨there, ?_, ?_, ?_⟩
  · rw [remains.phase]
    simpa using phase
  · rw [if_neg early.1, List.map_eq_nil_iff] at listeners
    rw [remains.listeners, listeners]
    simp
  · exact remains.refreshFailure.trans healthy

/-- After the refresh the audience is informed of it. -/
theorem informedAfter_refreshed (attended : Attended invoke application given world)
    (walk : Walk (itinerary given found) (application.execution invoke given world).visits course)
    (record : (application.execution invoke given world).record = earlier ++ performed :: later)
    {container : ContainerRef} (ran : performed.Ran invoke)
    (answered : ∃ answer, performed.reply.answer = .ok answer)
    (refreshes : performed.reply.errand = .refresh container)
    (created : createdIn (visitsOf (earlier.map (·.reply))) = some container)
    (announced : announcedIn (visitsOf [performed.reply]) = [.contextRefreshed])
    (early : .prepared ∈ announcedIn (visitsOf (earlier.map (·.reply))) ∧
      .contextRefreshed ∉ announcedIn (visitsOf (earlier.map (·.reply))))
    (informed : InformedAfter (heard invoke application given world) world earlier
      performed.before) :
    InformedAfter (heard invoke application given world) world (earlier ++ [performed])
      performed.after := by
  have uncreated : createdIn (visitsOf [performed.reply]) = none :=
    createdIn_of_reply fun factory kind same => by
      rw [refreshes] at same
      cases same
  obtain ⟨answer, carried⟩ := ran.answered refreshes answered
  have known := created_of_part walk record created
  rw [informedAfter_snoc, uncreated, announced, Option.none_or]
  rw [InformedAfter, created] at informed
  rw [created]
  obtain ⟨made, phase, listeners, healthy⟩ := informed.container container rfl
  rw [if_neg early.2] at phase
  rw [if_pos early.1] at listeners
  obtain ⟨-, there, remains, id, hears⟩ := Container.refresh_hears attended.participants
    attended.others true known made phase healthy listeners carried
  refine informed.extend hears rfl rfl ⟨there, ?_, ?_, ?_⟩
  · rw [remains.phase]
    simp [Container.markActive]
  · rw [remains.listeners, if_pos (List.mem_append_left _ early.1)]
    exact listeners
  · exact remains.refreshFailure.trans healthy

/-- After an errand at a routed station the audience is informed of what is told there. -/
theorem informedAfter_routed (attended : Attended invoke application given world)
    (walk : Walk (itinerary given found) (application.execution invoke given world).visits course)
    (routed : ((application.execution invoke given world).visits.map Visit.station).filter
      Station.isRouted <+: route (.eventPublishing
        (application.audience (application.execution invoke given world).visits)) found)
    (record : (application.execution invoke given world).record = earlier ++ performed :: later)
    (ran : performed.Ran invoke) (answered : ∃ answer, performed.reply.answer = .ok answer)
    {station : Station} (here : performed.reply.errand.station? = some station)
    (onRoute : station.isRouted = true)
    (informed : InformedAfter (heard invoke application given world) world earlier
      performed.before) :
    InformedAfter (heard invoke application given world) world (earlier ++ [performed])
      performed.after := by
  obtain ⟨visit, rfl, visited, visits⟩ := visits_around record here
  have onward := walk
  rw [visits] at onward
  have stations := congrArg
    (fun visits : List Visit => (visits.map Visit.station).filter Station.isRouted) visits
  rw [stations, List.map_append, List.filter_append, List.map_cons,
    List.filter_cons_of_pos onRoute] at routed
  obtain ⟨place, before⟩ := take_of_prefix routed
  have announced : announcedIn (visitsOf (earlier.map (·.reply))) = _ :=
    congrArg (List.filterMap Station.eventKind?) before
  have told : announcedIn (visitsOf [performed.reply]) = visit.station.eventKind?.toList := by
    rw [visited, announcedIn_singleton, if_pos onRoute]
  -- From the fourth station on the container is made.
  have created : (creationStop found).station ∈ ((visitsOf (earlier.map (·.reply))).map
      Visit.station).filter Station.isRouted →
      createdIn (visitsOf (earlier.map (·.reply))) = some found.container :=
    fun among => createdIn_of_visited onward (List.mem_filter.1 among).1
  generalize (List.filter Station.isRouted
    ((visitsOf (earlier.map (·.reply))).map Visit.station)).length = index at place before
  rw [before] at announced created
  match index with
  | 0 | 3 =>
    rw [← Option.some.inj place] at told
    exact attended.informedAfter_notice walk record ran answered
      (Errand.eq_tell (here.trans place.symm)) told (by rintro _ ⟨⟩)
      (by rintro _ (same | same) <;> cases same) informed
  | 1 =>
    obtain ⟨environment, same⟩ := Errand.eq_showEnvironment (here.trans place.symm)
    rw [← Option.some.inj place] at told
    obtain ⟨answer, carried⟩ := ran.answered same answered
    refine informedAfter_told walk record (createdIn_of_reply fun _ _ => ?_) told
      (by constructor <;> rintro ⟨⟩)
      (RunListener.environmentPrepared_hears attended.participants rfl found.store carried) informed
    rw [same]
    rintro ⟨⟩
  | 2 =>
    have same := Errand.eq_createContainer (here.trans place.symm)
    rw [attended.standard] at same
    refine informedAfter_made ran answered same ?_ informed
    simp [announced, route, Station.eventKind?, Notice.eventKind, creationStop]
  | 4 =>
    have same := Errand.eq_tell (here.trans place.symm)
    rw [← Option.some.inj place] at told
    refine attended.informedAfter_loaded ran answered same (created (by simp [route])) told ?_
      informed
    simp [announced, route, Station.eventKind?, Notice.eventKind, creationStop]
  | 5 =>
    have same := Errand.eq_refresh (here.trans place.symm)
    rw [← Option.some.inj place] at told
    refine attended.informedAfter_refreshed walk record ran answered same
      (created (by simp [route])) told ?_ informed
    simp [announced, route, Station.eventKind?, Notice.eventKind, creationStop]
  | 6 | 7 =>
    rw [← Option.some.inj place] at told
    refine attended.informedAfter_notice walk record ran answered
      (Errand.eq_tell (here.trans place.symm)) told (by rintro _ ⟨⟩) ?_ informed
    rintro _ (same | same) <;> cases same
    refine ⟨created (by simp [route]), ?_⟩
    simp [announced, route, Station.eventKind?, Notice.eventKind, creationStop]
  | _ + 8 => cases place

/-- A run up to its failure, or to its end if it does not fail. -/
theorem informed_of_course (attended : Attended invoke application given world)
    (walk : Walk (itinerary given found) (application.execution invoke given world).visits course)
    (routed : ((application.execution invoke given world).visits.map Visit.station).filter
      Station.isRouted <+: route (.eventPublishing
        (application.audience (application.execution invoke given world).visits)) found)
    {first second : List Performed} {reached : World}
    (record : (application.execution invoke given world).record = first ++ second)
    (answered : ∀ reply ∈ (application.execution invoke given world).replies,
      ∃ answer, reply.answer = .ok answer)
    (regular : ∀ performed ∈ first, performed.reply.errand.isAudible = true →
      performed.reply.errand.milestone? = none)
    (chain : Performed.Chain invoke world first reached) :
    InformedAfter (heard invoke application given world) world first reached := by
  refine chain.invariant (InformedAfter (heard invoke application given world) world)
    (.refl _ world) fun earlier performed later split informed ran => ?_
  subst split
  rw [List.append_assoc] at record
  by_cases audible : performed.reply.errand.isAudible = true
  · obtain ⟨station, here, onRoute⟩ :=
      Errand.routed_of_audible audible (regular performed (by simp) audible)
    exact attended.informedAfter_routed walk routed record ran
      (answered _ (by simp [Execution.replies, record])) here onRoute informed
  · exact attended.informedAfter_silent walk record ran (by simpa using audible) informed

/-- How an audience stands after a part of what follows a failure. -/
def InformedSince (invoke : Invoker) (application : Application) (given : List String)
    (world : World) (since : List Performed) (reached : World) : Prop :=
  Informed (heard invoke application given world)
    (createdIn (application.execution invoke given world).visits)
    (announcedIn (application.execution invoke given world).visits ++
      announcedAfter (announcedIn (application.execution invoke given world).visits)
        (milestonesOf (since.map (·.reply)))) world reached

/-- What the audience is informed of after one more errand that follows a failure. -/
theorem informedSince_snoc {reached : World} {others : List EventKind}
    (told : announcedAfter (announcedIn (application.execution invoke given world).visits)
      performed.reply.errand.milestone?.toList = others) :
    InformedSince invoke application given world (earlier ++ [performed]) reached =
      Informed (heard invoke application given world)
        (createdIn (application.execution invoke given world).visits)
        (announcedIn (application.execution invoke given world).visits ++
          announcedAfter (announcedIn (application.execution invoke given world).visits)
            (milestonesOf (earlier.map (·.reply))) ++ others) world reached := by
  rw [InformedSince, List.map_append, milestonesOf_append, announcedAfter_append,
    ← List.append_assoc]
  change Informed _ _ (_ ++ announcedAfter _ (milestonesOf [performed.reply])) _ _ = _
  rw [milestonesOf_singleton, told]

/-- What follows a failure begins where the course ended. -/
theorem informedSince_nil {reached : World}
    (whole : visitsOf (earlier.map (·.reply)) = (application.execution invoke given world).visits)
    (informed : InformedAfter (heard invoke application given world) world earlier reached) :
    InformedSince invoke application given world [] reached := by
  rw [InformedAfter, whole] at informed
  rw [InformedSince]
  exact (List.append_nil _).symm ▸ informed

/-- An errand that follows a failure and tells nobody anything. -/
theorem informedSince_silent (attended : Attended invoke application given world)
    (ran : performed.Ran invoke) (inaudible : performed.reply.errand.isAudible = false)
    (informed : InformedSince invoke application given world earlier performed.before) :
    InformedSince invoke application given world (earlier ++ [performed]) performed.after := by
  have untold : announcedAfter (announcedIn (application.execution invoke given world).visits)
      performed.reply.errand.milestone?.toList = [] := by
    have none := Errand.untold_of_inaudible inaudible
      (announcedIn (application.execution invoke given world).visits)
    cases here : performed.reply.errand.milestone? with
    | none => rfl
    | some milestone =>
      rw [here, Option.bind_some] at none
      simp [announcedAfter, none]
  rw [informedSince_snoc untold, List.append_nil]
  exact informed.quiet (fun _ same => same) ((Errand.silent attended.others inaudible).leads ran)

/-- The exit code is published, which the audience hears if it is attached. -/
theorem informedSince_publish (attended : Attended invoke application given world)
    {container : ContainerRef} {code : ExitCode}
    (created : createdIn (application.execution invoke given world).visits = some container)
    (ran : performed.Ran invoke) (answered : ∃ answer, performed.reply.answer = .ok answer)
    (publishes : performed.reply.errand = .publish container (.exitCode code))
    (informed : InformedSince invoke application given world earlier performed.before) :
    InformedSince invoke application given world (earlier ++ [performed]) performed.after := by
  obtain ⟨answer, carried⟩ := ran.answered publishes answered
  have plain := announcedAfter_plain (announcedIn (application.execution invoke given world).visits)
    (milestonesOf (earlier.map (·.reply)))
  obtain ⟨-, -, listeners, -⟩ := informed.container container created
  have hears : Hears (heard invoke application given world)
      (createdIn (application.execution invoke given world).visits)
      (if .prepared ∈ announcedIn (application.execution invoke given world).visits then
        [.exitCode code] else []) performed.before performed.after := by
    simpa using (Container.publish_hears attended.participants
      (decide (.prepared ∈ announcedIn (application.execution invoke given world).visits))
      (by simpa [plain.1] using listeners) carried).2
  have told : announcedAfter (announcedIn (application.execution invoke given world).visits)
      performed.reply.errand.milestone?.toList =
        if .prepared ∈ announcedIn (application.execution invoke given world).visits then
          [.exitCode code] else [] := by
    rw [publishes]
    refine (announcedAfter_singleton _ (.publishing container (.exitCode code))).trans ?_
    rw [Milestone.eventKind?]
    split <;> rfl
  rw [informedSince_snoc told]
  refine informed.hears (fun _ same => same) hears ?_ ?_
  · split <;> rfl
  · split <;> simp

/-- The publishing listener is told about the failure, which the audience hears in any case. -/
theorem informedSince_tellFailed (attended : Attended invoke application given world)
    (first : announcedIn (application.execution invoke given world).visits <+: runKinds)
    {failure : Option Failure} (ran : performed.Ran invoke)
    (answered : ∃ answer, performed.reply.answer = .ok answer)
    (tells : performed.reply.errand = .tellFailed
      (.eventPublishing (application.audience (application.execution invoke given world).visits))
      (createdIn (application.execution invoke given world).visits) failure)
    (informed : InformedSince invoke application given world earlier performed.before) :
    InformedSince invoke application given world (earlier ++ [performed]) performed.after := by
  obtain ⟨answer, carried⟩ := ran.answered tells answered
  have plain := announcedAfter_plain (announcedIn (application.execution invoke given world).visits)
    (milestonesOf (earlier.map (·.reply)))
  have attaches : ∀ container,
      createdIn (application.execution invoke given world).visits = some container →
      (performed.before.container container).isActive = true →
      (performed.before.container container).listeners.map (·.participant) =
        heard invoke application given world := by
    intro container created active
    obtain ⟨-, phase, listeners, -⟩ := informed.container container created
    have refreshed : .contextRefreshed ∈
        announcedIn (application.execution invoke given world).visits := by
      by_contra unrefreshed
      rw [Container.isActive, phase] at active
      simp [unrefreshed, plain.2] at active
    rw [listeners, if_pos (List.mem_append_left _ (prepared_of_refreshed first refreshed))]
  obtain ⟨id, message, hears⟩ :=
    RunListener.publishFailure_hears attended.participants rfl attaches carried
  have told : announcedAfter (announcedIn (application.execution invoke given world).visits)
      performed.reply.errand.milestone?.toList = [.failed] := by
    rw [tells]
    rfl
  rw [informedSince_snoc told]
  exact informed.hears (fun _ same => same) hears rfl ⟨by simp, by simp⟩

/-- One errand that follows a failure. -/
theorem informedSince_step (attended : Attended invoke application given world)
    (first : announcedIn (application.execution invoke given world).visits <+: runKinds)
    (ran : performed.Ran invoke) (answered : ∃ answer, performed.reply.answer = .ok answer)
    (unvisited : performed.reply.errand.station? = none)
    (fits : ∀ milestone, performed.reply.errand.milestone? = some milestone → milestone.Fits
      (.eventPublishing (application.audience (application.execution invoke given world).visits))
      (createdIn (application.execution invoke given world).visits))
    (informed : InformedSince invoke application given world earlier performed.before) :
    InformedSince invoke application given world (earlier ++ [performed]) performed.after := by
  by_cases audible : performed.reply.errand.isAudible = true
  · cases same : performed.reply.errand with
    | publish container event =>
      obtain ⟨created, code, rfl⟩ := fits (.publishing container event) (by rw [same]; rfl)
      exact attended.informedSince_publish created ran answered same informed
    | tellFailed listener container failure =>
      obtain ⟨rfl, publisher⟩ := fits (.telling listener container failure) (by rw [same]; rfl)
      rw [same] at audible
      rw [publisher audible] at same
      exact attended.informedSince_tellFailed first ran answered same informed
    | close container => exact (fits (.closing container) (by rw [same]; rfl)).elim
    | tell | showEnvironment | refresh | createContainer =>
      rw [same] at unvisited
      cases unvisited
    | _ =>
      rw [same] at audible
      cases audible
  · exact attended.informedSince_silent ran (by simpa using audible) informed

/-- What follows a failure, up to the close. -/
theorem informed_of_aftermath (attended : Attended invoke application given world)
    (first : announcedIn (application.execution invoke given world).visits <+: runKinds)
    {between : List Performed} {origin reached : World}
    (answered : ∀ performed ∈ between, ∃ answer, performed.reply.answer = .ok answer)
    (unvisited : visitsOf (between.map (·.reply)) = [])
    (fits : ∀ milestone ∈ milestonesOf (between.map (·.reply)), milestone.Fits
      (.eventPublishing (application.audience (application.execution invoke given world).visits))
      (createdIn (application.execution invoke given world).visits))
    (chain : Performed.Chain invoke origin between reached)
    (informed : InformedSince invoke application given world [] origin) :
    InformedSince invoke application given world between reached := by
  refine chain.invariant (InformedSince invoke application given world) informed
    fun earlier performed later split informed ran => ?_
  have among : performed ∈ between := by simp [split]
  refine attended.informedSince_step first ran (answered performed among) ?_
    (fun milestone here => fits milestone
      (List.mem_filterMap.2 ⟨_, List.mem_map_of_mem among, here⟩)) informed
  have none := List.filterMap_eq_nil_iff.1 unvisited _ (List.mem_map_of_mem among)
  rwa [Reply.visit?, Option.map_eq_none_iff] at none

/-- After the close, nobody is told anything. -/
theorem silent_of_rest (attended : Attended invoke application given world)
    {rest : List Performed} {origin reached : World}
    (plain : milestonesOf (rest.map (·.reply)) = [] ∧ visitsOf (rest.map (·.reply)) = [])
    (chain : Performed.Chain invoke origin rest reached) :
    Silent (heard invoke application given world) none origin reached := by
  refine chain.invariant (fun _ => Silent (heard invoke application given world) none origin)
    (.refl origin) fun earlier performed later split silent ran => ?_
  have among : performed.reply ∈ rest.map (·.reply) := List.mem_map_of_mem (by simp [split])
  have unvisited := List.filterMap_eq_nil_iff.1 plain.2 _ among
  rw [Reply.visit?, Option.map_eq_none_iff] at unvisited
  have inaudible : performed.reply.errand.isAudible = false := by
    by_contra audible
    obtain ⟨station, here, -⟩ := Errand.routed_of_audible (by simpa using audible)
      (List.filterMap_eq_nil_iff.1 plain.1 _ among)
    rw [unvisited] at here
    cases here
  exact silent.quiet ((Errand.silent attended.others inaudible).leads ran).forget

end Attended

/-- What a failed run with one publishing listener tells is told of the run. -/
theorem fits_of_settled {given : List String} {stage : RunStage} {visits : List Visit}
    {failure : Failure} {publisher : RunListener} {exitCode : ExitCode}
    {told reports : List Milestone} {application : Application}
    (tells : Tells application given stage visits failure told) (reported : Reports reports)
    (single : ∀ gathered : Gathered application, BusBuilt given gathered visits →
      (gatheredBus gathered).listeners.filter (·.isPublisher) = [publisher]) :
    ∀ milestone ∈ announcingMilestones (createdIn visits) exitCode ++ told ++ reports,
      milestone.Fits publisher (createdIn visits) := by
  intro milestone among
  obtain among | report := List.mem_append.1 among
  · obtain announcing | telling := List.mem_append.1 among
    · unfold announcingMilestones at announcing
      split at announcing
      · obtain ⟨container, held, rfl⟩ := List.mem_map.1 announcing
        exact ⟨Option.mem_toList.1 held, exitCode, rfl⟩
      · cases announcing
    · cases tells with
      | unbuilt => cases telling
      | built startup built =>
        obtain rfl | telling := List.mem_cons.1 telling
        · trivial
        · obtain ⟨listener, listed, rfl⟩ := List.mem_map.1 telling
          refine ⟨rfl, fun publishes => ?_⟩
          have among := List.mem_filter.2 ⟨listed, publishes⟩
          rw [single _ built] at among
          exact List.mem_singleton.1 among
  · rw [reported _ report]
    trivial

/-- Every listener that publishes turns the failure into an event. -/
theorem announcedAfter_telling (kinds : List EventKind) (listeners : List RunListener)
    (container : Option ContainerRef) (failure : Option Failure) :
    announcedAfter kinds (listeners.map (.telling · container failure)) =
      (listeners.filter (·.isPublisher)).map fun _ => .failed := by
  rw [announcedAfter, List.filterMap_map, ← List.filterMap_eq_map, List.filterMap_filter]
  rfl

/-- That the run fails is itself not an event. -/
theorem announcedAfter_failing (kinds : List EventKind) (milestones : List Milestone) :
    announcedAfter kinds (.failing :: milestones) = announcedAfter kinds milestones :=
  rfl

/-- The exit code is heard if there is one to hear and the audience is attached. -/
theorem announcedAfter_announcing {kinds : List EventKind} {created : Option ContainerRef}
    (made : .prepared ∈ kinds → ∃ container, created = some container) (exitCode : ExitCode) :
    announcedAfter kinds (announcingMilestones created exitCode) =
      if exitCode ≠ 0 ∧ .prepared ∈ kinds then [.exitCode exitCode] else [] := by
  unfold announcingMilestones
  cases created with
  | none =>
    have unattached : .prepared ∉ kinds := fun among => by
      obtain ⟨_, ⟨⟩⟩ := made among
    have unheard : ¬ (exitCode ≠ 0 ∧ .prepared ∈ kinds) := fun both => unattached both.2
    rw [if_neg unheard]
    split <;> rfl
  | some container =>
    by_cases zero : exitCode = 0
    · rw [if_neg (not_not.2 zero), if_neg fun both => both.1 zero]
      rfl
    · rw [if_pos zero]
      refine (announcedAfter_singleton _ (.publishing container (.exitCode exitCode))).trans ?_
      rw [Milestone.eventKind?]
      by_cases attached : .prepared ∈ kinds
      · rw [if_pos attached, if_pos ⟨zero, attached⟩]
        rfl
      · rw [if_neg attached, if_neg fun both => attached both.2]
        rfl

/-- Reporting tells nobody anything. -/
theorem announcedAfter_reports (kinds : List EventKind) {reports : List Milestone}
    (reported : Reports reports) : announcedAfter kinds reports = [] :=
  List.filterMap_eq_nil_iff.2 fun milestone among => by
    rw [reported milestone among]
    rfl

/-- The kinds of events that application listeners hear of a run, for what became of it. -/
inductive Heard (built : Prop) : Except RunError ContainerRef → List EventKind → Prop where
  | succeeded {container : ContainerRef} : Heard built (.ok container) runKinds
  | unbuilt {failure : RunFailure} (never : ¬ built) :
      Heard built (.error { stage := .startup, failure }) []
  | failedStartup {failure : RunFailure} {first : List EventKind} (was : built)
      (reached : first <+: runKinds) :
      Heard built (.error { stage := .startup, failure })
        (first ++
          (if failure.exitCode ≠ 0 ∧ .prepared ∈ first then [.exitCode failure.exitCode] else []) ++
          [.failed] ++ if .contextRefreshed ∈ first then [.contextClosed] else [])
  | failedRunning {failure : RunFailure} {first : List EventKind} (reached : first <+: runKinds) :
      Heard built (.error { stage := .running, failure })
        (first ++ (if failure.exitCode ≠ 0 then [.exitCode failure.exitCode] else []) ++
          [.contextClosed])

namespace Attended

variable {invoke : Invoker} {application : Application} {given : List String} {world : World}
  {found : Found application} {course : Course} {outcome : Outcome}

/-- The publishing listener of a bus that was built. -/
theorem single (attended : Attended invoke application given world)
    (walk : Walk (itinerary given found) (application.execution invoke given world).visits course)
    (gathered : Gathered application)
    (built : BusBuilt given gathered (application.execution invoke given world).visits) :
    (gatheredBus gathered).listeners.filter (·.isPublisher) = [.eventPublishing
      (application.audience (application.execution invoke given world).visits)] :=
  attended.publishes.publishers built walk

/-- Every run goes along its route. -/
theorem routed (attended : Attended invoke application given world)
    (walk : Walk (itinerary given found) (application.execution invoke given world).visits course) :
    ((application.execution invoke given world).visits.map Visit.station).filter
      Station.isRouted <+: route (.eventPublishing
        (application.audience (application.execution invoke given world).visits)) found := by
  by_cases built : BusBuilt given found.toGathered (application.execution invoke given world).visits
  · exact routed_prefix walk (attended.single walk _ built)
  · rw [not_routed_of_unbuilt walk built]
    exact List.nil_prefix

/-- The events of the route are told in order. -/
theorem announced_prefix (attended : Attended invoke application given world)
    (walk : Walk (itinerary given found) (application.execution invoke given world).visits course) :
    announcedIn (application.execution invoke given world).visits <+: runKinds :=
  (attended.routed walk).filterMap Station.eventKind?

/-- Nothing is told along a run without a bus. -/
theorem announced_of_unbuilt
    (walk : Walk (itinerary given found) (application.execution invoke given world).visits course)
    (unbuilt : ∀ gathered : Gathered application,
      ¬ BusBuilt given gathered (application.execution invoke given world).visits) :
    announcedIn (application.execution invoke given world).visits = [] := by
  rw [announcedIn, not_routed_of_unbuilt walk (unbuilt _)]
  rfl

/-- Of a run that succeeds the audience hears all kinds of events, each once and in order. -/
theorem heard_of_ok (attended : Attended invoke application given world)
    (ended : (application.execution invoke given world).result = .ok outcome)
    {container : ContainerRef} (succeeded : outcome.result = .ok container) :
    ∃ events : List ApplicationEvent, events.map (·.kind) = runKinds ∧
      (application.execution invoke given world).world.heardBy
          (heard invoke application given world) =
        world.heardBy (heard invoke application given world) ++
          broadcast (heard invoke application given world) events := by
  have path := path_of_result ended
  obtain ⟨found, -, -, visits⟩ := passed_of_ok path succeeded
  change (application.execution invoke given world).visits = _ at visits
  have walk : Walk (itinerary given found) (application.execution invoke given world).visits
      .completed := Walk.completed_iff.2 visits
  have built : BusBuilt given found.toGathered
      (application.execution invoke given world).visits := by
    rw [BusBuilt, visits, itinerary, List.append_assoc, List.map_append]
    exact List.prefix_append _ _
  have whole : announcedIn (application.execution invoke given world).visits = runKinds := by
    have stations : (application.execution invoke given world).visits.map Visit.station =
        (itinerary given found).map Stop.station := by
      rw [visits, List.map_map]
      rfl
    rw [announcedIn, stations, routed_itinerary given (attended.single walk _ built)]
    rfl
  have informed := attended.informed_of_course walk (attended.routed walk)
    (List.append_nil _).symm path.answered_of_some
    (fun performed among _ => List.filterMap_eq_nil_iff.1 (milestonesOf_of_ok path succeeded) _
      (List.mem_map_of_mem among))
    (chain_execution invoke application given world)
  obtain ⟨events, kinds, heard⟩ := informed.heard
  exact ⟨events, kinds.trans whole, heard⟩

/-- The end of the container, if there is one: the audience hears of it if the container is
active. -/
theorem heard_of_ending (attended : Attended invoke application given world)
    (first : announcedIn (application.execution invoke given world).visits <+: runKinds)
    {between ending : List Performed} {reached last : World}
    (answered : ∀ performed ∈ ending, ∃ answer, performed.reply.answer = .ok answer)
    (unvisited : visitsOf (ending.map (·.reply)) = [])
    (closes : (createdIn (application.execution invoke given world).visits = none ∧ ending = []) ∨
      ∃ (container : ContainerRef) (closing : Performed) (later : List Performed),
        createdIn (application.execution invoke given world).visits = some container ∧
        ending = closing :: later ∧ closing.reply.errand = .close container ∧
        milestonesOf (later.map (·.reply)) = [])
    (chain : Performed.Chain invoke reached ending last)
    (informed : InformedSince invoke application given world between reached) :
    ∃ events : List ApplicationEvent,
      events.map (·.kind) =
        (if .contextRefreshed ∈ announcedIn (application.execution invoke given world).visits then
          [.contextClosed] else []) ∧
      last.heardBy (heard invoke application given world) =
        reached.heardBy (heard invoke application given world) ++
          broadcast (heard invoke application given world) events := by
  have plain := announcedAfter_plain (announcedIn (application.execution invoke given world).visits)
    (milestonesOf (between.map (·.reply)))
  obtain ⟨uncreated, rfl⟩ | ⟨container, closing, later, created, rfl, same, after⟩ := closes
  · obtain rfl : reached = last := chain
    have unrefreshed :
        .contextRefreshed ∉ announcedIn (application.execution invoke given world).visits := by
      intro refreshed
      obtain ⟨container, created⟩ :=
        informed.made (List.mem_append_left _ (prepared_of_refreshed first refreshed))
      rw [uncreated] at created
      cases created
    exact ⟨[], by rw [if_neg unrefreshed]; rfl, (List.append_nil _).symm⟩
  · obtain ⟨rfl, carried, rest⟩ := chain
    obtain ⟨answer, ran⟩ :=
      Performed.Ran.answered carried same (answered closing List.mem_cons_self)
    obtain ⟨there, phase, listeners, -⟩ := informed.container container created
    obtain ⟨id, hears⟩ := Container.close_hears attended.participants attended.others
      (decide (.contextRefreshed ∈ announcedIn (application.execution invoke given world).visits))
      there (by simpa [plain.2] using phase) (fun active => by
        have attached := prepared_of_refreshed first (of_decide_eq_true active)
        rw [listeners, if_pos (List.mem_append_left _ attached)]) ran
    have unvisited : visitsOf (later.map (·.reply)) = [] := by
      rw [List.map_cons, ← List.singleton_append, visitsOf_append, List.append_eq_nil_iff]
        at unvisited
      exact unvisited.2
    refine ⟨_, ?_, (hears.quiet (attended.silent_of_rest ⟨after, unvisited⟩ rest)).heard⟩
    simp only [decide_eq_true_eq]
    split <;> rfl

/-- A run that fails: what its course has told, what follows the failure, and the end of the
container. -/
theorem heard_of_failed (attended : Attended invoke application given world)
    (ended : (application.execution invoke given world).result = .ok outcome) {error : RunError}
    (failed : outcome.result = .error error) :
    ∃ (told : List Milestone) (events : List ApplicationEvent),
      Tells application given error.stage (application.execution invoke given world).visits
        error.failure.cause.toFailure told ∧
      events.map (·.kind) =
        announcedIn (application.execution invoke given world).visits ++
          (if error.failure.exitCode ≠ 0 ∧
              .prepared ∈ announcedIn (application.execution invoke given world).visits then
            [.exitCode error.failure.exitCode] else []) ++
          announcedAfter (announcedIn (application.execution invoke given world).visits) told ++
          (if .contextRefreshed ∈ announcedIn (application.execution invoke given world).visits then
            [.contextClosed] else []) ∧
      (application.execution invoke given world).world.heardBy
          (heard invoke application given world) =
        world.heardBy (heard invoke application given world) ++
          broadcast (heard invoke application given world) events := by
  have path := path_of_result ended
  have answered := path.answered_of_some
  obtain ⟨found, walk⟩ := walk_of_result ended
  have first := attended.announced_prefix walk
  -- The record has four parts: the course, the resolution of the exit code, what is announced and
  -- told of the failure, and the end of the container.
  obtain ⟨course, resolved, rest, record, resolution, failedPath⟩ := record_of_failed ended failed
  obtain ⟨told, reports, between, ending, tells, reported, rfl, milestones, closes⟩ :=
    ending_of_failed failedPath
  have visits := visits_of_failed record resolution failedPath
  have silent : visitsOf (between.map (·.reply)) = [] ∧ visitsOf (ending.map (·.reply)) = [] := by
    have silent := failedPath.noLaterVisit
    rwa [List.map_append, visitsOf_append, List.append_eq_nil_iff] at silent
  rw [List.append_cons] at record
  have chain := chain_execution invoke application given world
  rw [record] at chain
  obtain ⟨origin, early, chain⟩ := chain.split
  obtain ⟨reached, middle, late⟩ := chain.split
  rw [← visits] at tells milestones closes
  have beginning : visitsOf ((course ++ [resolved]).map (·.reply)) =
      (application.execution invoke given world).visits := by
    have resolves : visitsOf [resolved.reply] = [] := by
      rw [resolution]
      rfl
    rw [visits, List.map_append, visitsOf_append, List.map_singleton, resolves, List.append_nil]
  have regular : ∀ performed ∈ course ++ [resolved], performed.reply.errand.isAudible = true →
      performed.reply.errand.milestone? = none := by
    intro performed among audible
    obtain early | here := List.mem_append.1 among
    · exact List.filterMap_eq_nil_iff.1 failedPath.noEarlierMilestone _ (List.mem_map_of_mem early)
    · rw [List.mem_singleton.1 here, resolution] at audible
      cases audible
  -- The audience is followed through these parts in turn.
  have started := informedSince_nil beginning
    (attended.informed_of_course walk (attended.routed walk) record answered regular early)
  have known : ∀ performed ∈ between ++ ending, ∃ answer, performed.reply.answer = .ok answer :=
    fun performed among => answered _ (List.mem_map_of_mem (by
      rw [record]
      exact List.mem_append_right _ among))
  have informed := attended.informed_of_aftermath first
    (fun performed among => known performed (List.mem_append_left _ among)) silent.1
    (by rw [milestones]; exact fits_of_settled tells reported (attended.single walk)) middle started
  obtain ⟨closing, kinds, closed⟩ := attended.heard_of_ending first
    (fun performed among => known performed (List.mem_append_right _ among)) silent.2 closes late
    informed
  obtain ⟨events, same, heard⟩ := informed.heard
  refine ⟨told, events ++ closing, tells, ?_, ?_⟩
  · have made : .prepared ∈ announcedIn (application.execution invoke given world).visits →
        ∃ container,
          createdIn (application.execution invoke given world).visits = some container :=
      fun among => informed.made (List.mem_append_left _ among)
    rw [List.map_append, same, kinds, milestones, announcedAfter_append, announcedAfter_append,
      announcedAfter_announcing made, announcedAfter_reports _ reported, List.append_nil]
    simp only [List.append_assoc]
  · rw [closed, heard, broadcast_append, List.append_assoc]

/-- Every run, whatever becomes of it. -/
theorem heard_of_run (attended : Attended invoke application given world)
    (ended : (application.execution invoke given world).result = .ok outcome) :
    ∃ events : List ApplicationEvent,
      (application.execution invoke given world).world.heardBy
          (heard invoke application given world) =
        world.heardBy (heard invoke application given world) ++
          broadcast (heard invoke application given world) events ∧
      Heard (∃ gathered : Gathered application,
          BusBuilt given gathered (application.execution invoke given world).visits)
        outcome.result (events.map (·.kind)) := by
  cases result : outcome.result with
  | ok container =>
    obtain ⟨events, kinds, heard⟩ := attended.heard_of_ok ended result
    exact ⟨events, heard, by rw [kinds]; exact .succeeded⟩
  | error error =>
    obtain ⟨found, walk⟩ := walk_of_result ended
    have first := attended.announced_prefix walk
    obtain ⟨told, events, tells, kinds, heard⟩ := attended.heard_of_failed ended result
    refine ⟨events, heard, ?_⟩
    rw [kinds]
    obtain ⟨stage, failure⟩ := error
    -- A run that fails after it was started tells nobody of the failure, nor does one without a
    -- bus.
    cases stage with
    | startup =>
      cases tells with
      | @built gathered _ built =>
        have failing := announcedAfter_telling
          (announcedIn (application.execution invoke given world).visits)
          (gatheredBus gathered).listeners
          (createdIn (application.execution invoke given world).visits)
          (some failure.cause.toFailure)
        rw [attended.single walk gathered built] at failing
        rw [announcedAfter_failing, failing]
        exact .failedStartup ⟨gathered, built⟩ first
      | unbuilt reason =>
        obtain same | never := reason
        · cases same
        rw [Attended.announced_of_unbuilt walk never]
        simp only [List.not_mem_nil, and_false, if_false]
        exact .unbuilt fun ⟨gathered, built⟩ => never gathered built
    | running =>
      cases tells with
      | built startup => cases startup
      | unbuilt =>
        obtain ⟨visit, among, container, here⟩ := refresh_of_running ended result
        have refreshed : .contextRefreshed ∈
            announcedIn (application.execution invoke given world).visits := by
          refine List.mem_filterMap.2 ⟨visit.station,
            List.mem_filter.2 ⟨List.mem_map_of_mem among, ?_⟩, ?_⟩ <;> rw [here] <;> rfl
        have prepared := prepared_of_refreshed first refreshed
        have untold : announcedAfter
            (announcedIn (application.execution invoke given world).visits) [] = [] := rfl
        rw [if_pos refreshed, untold, List.append_nil]
        simp only [prepared, and_true]
        exact .failedRunning first

end Attended

/-- Every run tells all its application listeners the same events in the same order: the first of
those of a successful run, all of them if it succeeds, and after a failure the exit code, the
failure and the end of the container, as far as the run got with it. A run without a bus tells
nothing. Each listener hears every event as often as it is listed. -/
theorem listeners_hear_run {invoke : Invoker} {application : Application} {given : List String}
    {world last : World} {outcome : Outcome}
    (attended : Attended invoke application given world)
    (ended : (application.run invoke given).run.run world = (.ok outcome, last)) :
    let visits := (application.execution invoke given world).visits
    let audience := (application.audience visits).map (·.participant)
    ∃ events : List ApplicationEvent,
      last.heardBy audience = world.heardBy audience ++ broadcast audience events ∧
      (∀ participant ∈ audience, last.heardBy [participant] = world.heardBy [participant] ++
        events.flatMap fun event =>
          List.replicate (audience.count participant) (participant, event)) ∧
      Heard (∃ gathered : Gathered application, BusBuilt given gathered visits) outcome.result
        (events.map (·.kind)) := by
  intro visits audience
  rw [run_eq_execution, Prod.mk.injEq] at ended
  obtain ⟨ended, rfl⟩ := ended
  obtain ⟨events, heard, kinds⟩ := attended.heard_of_run ended
  refine ⟨events, heard, fun participant among => ?_, kinds⟩
  rw [World.heardBy_of_mem among, World.heardBy_of_mem among, heard, List.filter_append,
    broadcast_filter]

/-- A participant that watches. -/
def watcher : Participant where
  name := "watcher"

/-- An application with a listener and a hook. -/
def watched : Application where
  primarySources := [.package "watched"]
  settings := { bannerMode := .off }
  listeners := [{ participant := watcher }]
  hooks := some { name := "hooks" }
  catalog := .withDefaults
  coordinator := ⟨0⟩

/-- The hook of an application asks for the exit code 42 once the container is refreshed. -/
def quitsAfterRefresh : Behaviour
  | .onEvent .. => .done (.ok ())
  | .postProcess .. => .done (.ok ())
  | .afterRefresh .. => .done (.error ⟨.exitStatus 42 "quit", []⟩)
  | _ => .panic "unexpected call"

/-- The watched application meets the conditions. -/
theorem watched_attended : Attended (quitsAfterRefresh.invoker 1 0) watched [] {} where
  standard := rfl
  publishes := {
    declared := rfl
    alone := fun _ _ _ _ _ built => by cases built }
  listens _ _ := Participant.listens_of_done fun _ => rfl
  others call quiet := Behaviour.silent_of_done quiet (by
    cases call <;> first | exact .inl ⟨_, rfl⟩ | exact .inr ⟨_, rfl⟩)

/-- A run fails after its refresh: its listener hears of everything up to there, then of the exit
code, of the failure and of the close. -/
theorem listeners_hear_run_watched :
    ∃ outcome last, ∃ events : List ApplicationEvent,
      (watched.run (quitsAfterRefresh.invoker 1 0) []).run.run {} = (.ok outcome, last) ∧
      last.heardBy [watcher] = broadcast [watcher] events ∧
      Heard (∃ gathered : Gathered watched, BusBuilt [] gathered
          (watched.execution (quitsAfterRefresh.invoker 1 0) [] {}).visits)
        outcome.result (events.map (·.kind)) ∧
      last.told.map (fun told => told.2.kind) = [.starting, .environmentPrepared,
        .contextInitialized, .prepared, .contextRefreshed, .exitCode 42, .failed,
        .contextClosed] := by
  have audience : (watched.audience
      (watched.execution (quitsAfterRefresh.invoker 1 0) [] {}).visits).map (·.participant) =
      [watcher] := by decide +kernel
  have told : ((watched.run (quitsAfterRefresh.invoker 1 0) []).run.run {}).2.told.map
        (fun told => told.2.kind) =
      [.starting, .environmentPrepared, .contextInitialized, .prepared, .contextRefreshed,
        .exitCode 42, .failed, .contextClosed] := by decide +kernel
  have completes : ((watched.run (quitsAfterRefresh.invoker 1 0) []).run.run {}).1.isOk = true := by
    decide +kernel
  cases ended : (watched.run (quitsAfterRefresh.invoker 1 0) []).run.run {} with
  | mk result last =>
    rw [ended] at told completes
    cases result with
    | error abort => cases completes
    | ok outcome =>
      obtain ⟨events, heard, -, kinds⟩ := listeners_hear_run watched_attended ended
      rw [audience] at heard
      exact ⟨outcome, last, events, rfl, heard, kinds, told⟩

end Application

end Launchpad
