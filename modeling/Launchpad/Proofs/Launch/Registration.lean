import Launchpad.Proofs.Launch.Landmarks
import Launchpad.Proofs.Shutdown.Sparing

/-!
# Registration for shutdown along a run

A run registers its container with a coordinator in the middle of its way, and only a callback of
the container takes it off again, when the run has failed and closes the container. As long as
nobody else touches the coordinator or closes the container, a failed run leaves the registrations
as it found them, and a successful one adds its container if its settings ask for that. A
coordinator that has begun a shutdown refuses the container, which ends the run before the refresh.
-/

namespace Launchpad

/-- The container that was registered for shutdown. -/
def Visit.registered? : Visit → Option ContainerRef
  | passed { station := .shutdownRegistration _ container, .. } => some container
  | _ => none

/-- Only the registration for the shutdown registers a container. -/
theorem Visit.station_of_registered? {visit : Visit} {container : ContainerRef}
    (shown : visit.registered? = some container) :
    ∃ coordinator, visit.station = .shutdownRegistration coordinator container := by
  unfold registered? at shown
  split at shown
  · cases shown
    exact ⟨_, rfl⟩
  · cases shown

/-- The container that was registered for shutdown last. -/
def registeredIn (visits : List Visit) : Option ContainerRef :=
  (visits.filterMap Visit.registered?).getLast?

/-- The last registration counts. -/
theorem registeredIn_append (first second : List Visit) :
    registeredIn (first ++ second) = (registeredIn second).or (registeredIn first) := by
  simp [registeredIn, List.filterMap_append, List.getLast?_append]

/-- Without a registration for the shutdown no container is registered. -/
theorem registeredIn_eq_none {visits : List Visit}
    (elsewhere : ∀ visit ∈ visits, ∀ coordinator container,
      visit.station ≠ .shutdownRegistration coordinator container) :
    registeredIn visits = none := by
  rw [registeredIn, List.getLast?_eq_none_iff, List.filterMap_eq_nil_iff]
  intro visit among
  have differs := elsewhere visit among
  cases visit with
  | failed | broken => rfl
  | passed stop =>
    obtain ⟨station, finding⟩ := stop
    cases station with
    | shutdownRegistration coordinator container => exact absurd rfl (differs _ _)
    | _ => rfl

/-- Without a container factory no container is made. -/
theorem createdIn_eq_none {visits : List Visit}
    (elsewhere : ∀ visit ∈ visits, ∀ factory kind,
      visit.station ≠ .containerFactory factory kind) : createdIn visits = none := by
  rw [createdIn, List.getLast?_eq_none_iff, List.filterMap_eq_nil_iff]
  intro visit among
  have differs := elsewhere visit among
  cases visit with
  | failed | broken => rfl
  | passed stop =>
    obtain ⟨station, finding⟩ := stop
    cases station with
    | containerFactory factory kind => exact absurd rfl (differs _ _)
    | _ => rfl

/-- Nothing is created but by making a container. -/
theorem createdIn_of_reply {reply : Reply}
    (creates : ∀ factory kind, reply.errand ≠ .createContainer factory kind) :
    createdIn (visitsOf [reply]) = none := by
  refine createdIn_eq_none fun visit among factory kind here => ?_
  rw [visitsOf_singleton, Option.mem_toList] at among
  have same := Reply.station_of_visit? among
  rw [here] at same
  exact creates _ _ (Errand.eq_createContainer same)

/-- Nothing is registered but by registering a container. -/
theorem registeredIn_of_reply {reply : Reply}
    (registers : ∀ coordinator container,
      reply.errand ≠ .registerForShutdown coordinator container) :
    registeredIn (visitsOf [reply]) = none := by
  refine registeredIn_eq_none fun visit among coordinator container here => ?_
  rw [visitsOf_singleton, Option.mem_toList] at among
  have same := Reply.station_of_visit? among
  rw [here] at same
  exact registers _ _ (Errand.eq_registerForShutdown same)

/-- Whether a container is made, registered or refreshed at a station. -/
def Station.isOfContainer : Station → Bool
  | containerFactory .. | shutdownRegistration .. | refresh _ => true
  | _ => false

namespace Application

variable {application : Application} {given : List String} {found : Found application}
  {visits : List Visit} {course : Course}

/-- A run makes its container, registers it if its settings ask for that, and refreshes it. -/
theorem containerStations_itinerary (given : List String) (found : Found application) :
    ((itinerary given found).map Stop.station).filter Station.isOfContainer =
      (creationStop found).station ::
        (application.shutdownStops found.container found.settings).map Stop.station ++
        [.refresh found.container] := by
  rw [filter_landmarksOn _ fun station kind => by cases station <;> first | rfl | cases kind]
  have notices : ∀ (listeners : List RunListener) (notice : Notice),
      ((toldStops listeners (.notice · notice)).map Stop.station).filter
        Station.isOfContainer = [] := by
    simp [toldStops, Station.isOfContainer]
  have environments : ∀ (listeners : List RunListener) (store : StoreRef),
      ((toldStops listeners (.environment · store)).map Stop.station).filter
        Station.isOfContainer = [] := by
    simp [toldStops, Station.isOfContainer]
  have registers : ((application.shutdownStops found.container found.settings).map
      Stop.station).filter Station.isOfContainer =
      (application.shutdownStops found.container found.settings).map Stop.station := by
    unfold shutdownStops
    split <;> rfl
  have refreshes : Station.isOfContainer (.refresh found.container) = true := rfl
  have creates : Station.isOfContainer (creationStop found).station = true := rfl
  simp [landmarksOn_itinerary, landmarksOn_launchStops, notices, environments, registers,
    refreshes, creates]

/-- Of these stations, a run visits the first ones. -/
theorem containerStations_of_walk (walk : Walk (itinerary given found) visits course) :
    (visits.map Visit.station).filter Station.isOfContainer <+:
      (creationStop found).station ::
        (application.shutdownStops found.container found.settings).map Stop.station ++
        [.refresh found.container] := by
  rw [← containerStations_itinerary given found]
  exact walk.stations_prefix.filter _

/-- The stations of the container that a run has visited, up to one of them. -/
theorem containerStations_before {earlier later : List Visit} {visit : Visit}
    (walk : Walk (itinerary given found) (earlier ++ visit :: later) course)
    (here : visit.station.isOfContainer = true) :
    (earlier.map Visit.station).filter Station.isOfContainer ++ visit.station ::
        (later.map Visit.station).filter Station.isOfContainer <+:
      (creationStop found).station ::
        (application.shutdownStops found.container found.settings).map Stop.station ++
        [.refresh found.container] := by
  have stations := containerStations_of_walk walk
  rwa [List.map_append, List.map_cons, List.filter_append, List.filter_cons_of_pos here] at stations

/-- The container that a run has made is the one of the whole run. -/
theorem createdIn_stays {earlier later : List Visit}
    (walk : Walk (itinerary given found) (earlier ++ later) course) {container : ContainerRef}
    (created : createdIn earlier = some container) :
    createdIn (earlier ++ later) = some container := by
  have known : ∀ stop, .passed stop ∈ earlier ++ later → stop ∈ itinerary given found :=
    fun _ passed => walk.mem_of_passed passed
  cases whole : createdIn (earlier ++ later) with
  | none =>
    rw [createdIn_append, created] at whole
    cases made : createdIn later <;> simp [made] at whole
  | some other =>
    rw [createdIn_eq known whole,
      createdIn_eq (fun stop passed => known stop (List.mem_append_left _ passed)) created]

/-- The container that a part of a run has made is that of the whole run. -/
theorem created_of_part {invoke : Invoker} {world : World}
    (walk : Walk (itinerary given found) (application.execution invoke given world).visits course)
    {earlier later : List Performed}
    (record : (application.execution invoke given world).record = earlier ++ later)
    {container : ContainerRef}
    (created : createdIn (visitsOf (earlier.map (·.reply))) = some container) :
    createdIn (application.execution invoke given world).visits = some container := by
  rw [Execution.visits_of_record record] at walk ⊢
  exact createdIn_stays walk created

/-- A run that goes on after the station at which the container is made has made it. -/
theorem createdIn_of_visited {earlier later : List Visit} {visit : Visit}
    (walk : Walk (itinerary given found) (earlier ++ visit :: later) course)
    (visited : (creationStop found).station ∈ earlier.map Visit.station) :
    createdIn earlier = some found.container := by
  obtain ⟨creation, among, created⟩ := List.mem_map.1 visited
  obtain ⟨stops, rfl⟩ := walk.passed_before
  obtain ⟨stop, -, rfl⟩ := List.mem_map.1 among
  have known : ∀ stop, .passed stop ∈ stops.map Visit.passed → stop ∈ itinerary given found :=
    fun _ passed => walk.mem_of_passed (List.mem_append_left _ passed)
  exact createdIn_of_passed known among created

/-- What is not a station of the container does not make or register it. -/
theorem untouched_of_filter {visits : List Visit}
    (none : (visits.map Visit.station).filter Station.isOfContainer = []) :
    createdIn visits = .none ∧ registeredIn visits = .none := by
  have elsewhere : ∀ visit ∈ visits, visit.station.isOfContainer = false := by
    simpa [List.filter_eq_nil_iff] using none
  constructor
  · refine createdIn_eq_none fun visit among factory kind here => ?_
    have outside := elsewhere visit among
    rw [here] at outside
    cases outside
  · refine registeredIn_eq_none fun visit among coordinator container here => ?_
    have outside := elsewhere visit among
    rw [here] at outside
    cases outside

/-- After the container is made, it is only registered and refreshed. -/
theorem not_containerFactory {found : Found application} {station : Station}
    (among : station ∈ (application.shutdownStops found.container found.settings).map
      Stop.station ++ [.refresh found.container]) (factory : ContainerFactory)
    (kind : ApplicationKind) : station ≠ .containerFactory factory kind := by
  rintro rfl
  unfold shutdownStops at among
  split at among <;> simp at among

/-- Nothing happens to the container of a run before it is made. -/
theorem before_creation {earlier later : List Visit} {visit : Visit} {factory : ContainerFactory}
    {kind : ApplicationKind}
    (walk : Walk (itinerary given found) (earlier ++ visit :: later) course)
    (here : visit.station = .containerFactory factory kind) :
    factory = application.factory ∧ createdIn earlier = none ∧ registeredIn earlier = none := by
  have stations := containerStations_before walk (by rw [here]; rfl)
  rw [here] at stations
  cases visited : (earlier.map Visit.station).filter Station.isOfContainer with
  | nil =>
    rw [visited] at stations
    cases (List.cons_prefix_cons.1 stations).1
    exact ⟨rfl, untouched_of_filter visited⟩
  | cons first rest =>
    rw [visited, List.cons_append, List.cons_append, List.cons_prefix_cons] at stations
    have among := stations.2.subset (List.mem_append_right rest List.mem_cons_self)
    exact absurd rfl (not_containerFactory among factory kind)

/-- A run registers its container between making and refreshing it. -/
theorem stations_before_registration {earlier later : List Visit} {visit : Visit}
    {coordinator : CoordinatorRef} {container : ContainerRef}
    (walk : Walk (itinerary given found) (earlier ++ visit :: later) course)
    (here : visit.station = .shutdownRegistration coordinator container) :
    coordinator = application.coordinator ∧ container = found.container ∧
      (earlier.map Visit.station).filter Station.isOfContainer =
        [(creationStop found).station] := by
  have stations := containerStations_before walk (by rw [here]; rfl)
  rw [here] at stations
  cases visited : (earlier.map Visit.station).filter Station.isOfContainer with
  | nil =>
    rw [visited] at stations
    cases (List.cons_prefix_cons.1 stations).1
  | cons first rest =>
    rw [visited, List.cons_append, List.cons_append, List.cons_prefix_cons] at stations
    obtain ⟨rfl, stations⟩ := stations
    unfold shutdownStops at stations
    split at stations
    · cases rest with
      | nil =>
        cases (List.cons_prefix_cons.1 stations).1
        exact ⟨rfl, rfl, rfl⟩
      | cons second rest => cases rest <;> simp at stations
    · cases rest <;> simp at stations

/-- A run registers the container that it has made, once. -/
theorem before_registration {earlier later : List Visit} {visit : Visit}
    {coordinator : CoordinatorRef} {container : ContainerRef}
    (walk : Walk (itinerary given found) (earlier ++ visit :: later) course)
    (here : visit.station = .shutdownRegistration coordinator container) :
    coordinator = application.coordinator ∧ container = found.container ∧
      createdIn earlier = some container ∧ registeredIn earlier = none := by
  obtain ⟨same, rfl, stations⟩ := stations_before_registration walk here
  refine ⟨same, rfl, ?_, registeredIn_eq_none fun other among coordinator container there => ?_⟩
  · have visited := stations ▸ List.mem_singleton_self (creationStop found).station
    exact createdIn_of_visited walk (List.mem_filter.1 visited).1
  · have inside : other.station ∈ (earlier.map Visit.station).filter Station.isOfContainer :=
      List.mem_filter.2 ⟨List.mem_map_of_mem among, by rw [there]; rfl⟩
    rw [stations, there] at inside
    cases List.mem_singleton.1 inside

/-- Where a run registers a container, its settings ask for that. -/
theorem settings_of_registration (walk : Walk (itinerary given found) visits course)
    {visit : Visit} (among : visit ∈ visits) {coordinator : CoordinatorRef}
    {container : ContainerRef}
    (here : visit.station = .shutdownRegistration coordinator container) :
    found.settings.registerShutdownHook = true ∧ container = found.container := by
  have inside : visit.station ∈ (visits.map Visit.station).filter Station.isOfContainer :=
    List.mem_filter.2 ⟨List.mem_map_of_mem among, by rw [here]; rfl⟩
  have listed := (containerStations_of_walk walk).subset inside
  rw [here, shutdownStops] at listed
  split at listed
  · rename_i hooks
    simp only [List.map_cons, List.map_nil, List.cons_append, List.nil_append, List.mem_cons,
      List.not_mem_nil, or_false] at listed
    obtain made | registered | refreshed := listed
    · cases made
    · cases registered
      exact ⟨hooks, rfl⟩
    · cases refreshed
  · simp [creationStop] at listed

/-- A container that was registered is known from the visits. -/
theorem registeredIn_of_passed {coordinator : CoordinatorRef} {container : ContainerRef}
    {finding : Finding}
    (passed : .passed ⟨.shutdownRegistration coordinator container, finding⟩ ∈ visits) :
    ∃ other, registeredIn visits = some other := by
  have among : container ∈ visits.filterMap Visit.registered? :=
    List.mem_filterMap.2 ⟨_, passed, rfl⟩
  refine Option.ne_none_iff_exists'.1 fun none => ?_
  rw [registeredIn, List.getLast?_eq_none_iff] at none
  exact List.ne_nil_of_mem among none

/-- A run whose container is refused at its registration does not come to the refresh. -/
theorem not_refresh_of_refused {earlier later : List Visit} {coordinator : CoordinatorRef}
    {container : ContainerRef} {error : LaunchError}
    (walk : Walk (itinerary given found)
      (earlier ++ .failed (.shutdownRegistration coordinator container) error :: later) course) :
    later = [] ∧ ∀ visit ∈ earlier ++ .failed (.shutdownRegistration coordinator container) error ::
      later, ∀ refreshed, visit.station ≠ .refresh refreshed := by
  obtain ⟨rfl, -⟩ := walk.course_of_failed
  obtain ⟨-, -, stations⟩ := stations_before_registration walk rfl
  refine ⟨rfl, fun visit among refreshed here => ?_⟩
  obtain early | last := List.mem_append.1 among
  · have inside : visit.station ∈ (earlier.map Visit.station).filter Station.isOfContainer :=
      List.mem_filter.2 ⟨List.mem_map_of_mem early, by rw [here]; rfl⟩
    rw [stations, here] at inside
    cases List.mem_singleton.1 inside
  · rw [List.mem_singleton.1 last] at here
    cases here

/-- A run that succeeds has registered its container exactly if its settings ask for that. -/
theorem registeredIn_completed (walk : Walk (itinerary given found) visits .completed) :
    registeredIn visits =
      if found.settings.registerShutdownHook then some found.container else none := by
  split
  · rename_i hooks
    let stop : Stop := { station := .shutdownRegistration application.coordinator found.container }
    have landmark : stop ∈ landmarksOn (itinerary given found) := by
      simp [landmarksOn_itinerary, landmarksOn_launchStops, shutdownStops, hooks, stop]
    have passed : .passed stop ∈ visits := by
      rw [Walk.completed_iff.1 walk]
      exact List.mem_map_of_mem (List.mem_filter.1 landmark).1
    obtain ⟨other, registered⟩ := registeredIn_of_passed passed
    obtain ⟨visit, among, shown⟩ := List.mem_filterMap.1 (List.mem_of_getLast? registered)
    obtain ⟨coordinator, here⟩ := Visit.station_of_registered? shown
    rw [registered, (settings_of_registration walk among here).2]
  · rename_i unhooked
    exact registeredIn_eq_none fun visit among coordinator container here =>
      unhooked (settings_of_registration walk among here).1

end Application

end Launchpad
