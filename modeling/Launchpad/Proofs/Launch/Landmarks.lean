import Launchpad.Proofs.Launch.Record

/-!
# Landmarks on the way of a run

The landmarks of an itinerary are the notices to the listeners and the calls that make, register or
refresh the container. The stations that a walk visits are the first ones of its order, so whatever
landmarks a run has come to, it came to them in the order of the itinerary.
-/

namespace Launchpad

namespace Walk

variable {order : List Stop} {visits : List Visit} {course : Course}

/-- A walk visits the first stations of its order. -/
theorem stations_prefix (walk : Walk order visits course) :
    visits.map Visit.station <+: order.map Stop.station := by
  induction walk with
  | completed => exact List.prefix_refl _
  | passed _ ih => exact List.cons_prefix_cons.2 ⟨rfl, ih⟩
  | stopped => exact List.nil_prefix
  | failed | broken | failedStopped => exact List.cons_prefix_cons.2 ⟨rfl, List.nil_prefix⟩

/-- What a walk has passed is a stop of its order. -/
theorem mem_of_passed {stop : Stop} (walk : Walk order visits course)
    (passed : .passed stop ∈ visits) : stop ∈ order := by
  induction walk with
  | passed _ ih =>
    obtain same | later := List.mem_cons.1 passed
    · cases same
      exact List.mem_cons_self
    · exact List.mem_cons_of_mem _ (ih later)
  | completed | stopped => cases passed
  | failed | broken | failedStopped => simp at passed

/-- Every visit but the last has passed. -/
theorem passed_before {earlier later : List Visit} {visit : Visit}
    (walk : Walk order (earlier ++ visit :: later) course) :
    ∃ stops : List Stop, earlier = stops.map .passed := by
  induction earlier generalizing order with
  | nil => exact ⟨[], rfl⟩
  | cons first rest ih =>
    generalize whole : first :: rest ++ visit :: later = visits at walk
    cases walk with
    | passed walk =>
      cases whole
      obtain ⟨stops, rfl⟩ := ih walk
      exact ⟨_ :: stops, rfl⟩
    | completed | stopped => cases whole
    | failed | broken | failedStopped => simp at whole

/-- A failed walk ends with the visit that failed. -/
theorem course_of_failed {earlier : List Visit} {station : Station} {error : LaunchError}
    {later : List Visit} (walk : Walk order (earlier ++ .failed station error :: later) course) :
    later = [] ∧ (course = .failed error ∨ course = .stopped) := by
  induction earlier generalizing order with
  | nil =>
    cases walk with
    | failed => exact ⟨rfl, .inl rfl⟩
    | failedStopped => exact ⟨rfl, .inr rfl⟩
  | cons first rest ih =>
    generalize whole : first :: rest ++ .failed station error :: later = visits at walk
    cases walk with
    | passed walk =>
      cases whole
      exact ih walk
    | completed | stopped => cases whole
    | failed | broken | failedStopped => simp at whole

end Walk

/-- The stations of visits are those of the errands. -/
theorem map_station_visitsOf (replies : List Reply) :
    (visitsOf replies).map Visit.station = replies.filterMap (·.errand.station?) := by
  rw [visitsOf, List.map_filterMap]
  refine List.filterMap_congr fun reply _ => ?_
  cases visited : reply.visit? with
  | none =>
    rw [Reply.visit?, Option.map_eq_none_iff] at visited
    rw [visited]
    rfl
  | some visit => exact (Reply.station_of_visit? visited).symm

/-- An errand of the order is among the visits. -/
theorem Execution.visit_of_station {α : Type} {execution : Execution α} {performed : Performed}
    (among : performed ∈ execution.record) {station : Station}
    (here : performed.reply.errand.station? = some station) :
    ∃ visit ∈ execution.visits, visit.station = station := by
  have listed : station ∈ execution.visits.map Visit.station := by
    rw [Execution.visits, map_station_visitsOf]
    exact List.mem_filterMap.2 ⟨performed.reply, List.mem_map_of_mem among, here⟩
  exact List.mem_map.1 listed

/-- Only calling a factory is a visit to it. -/
theorem Errand.eq_build {errand : Errand} {name : String} {construction : Construction}
    (here : errand.station? = some (.factory name construction)) :
    errand = .build name construction := by
  cases errand with
  | build => cases here; rfl
  | check own => cases own <;> cases here
  | enterPhase _ phase => cases phase <;> cases here
  | _ => cases here

/-- Only making a container creates one. -/
theorem Errand.eq_createContainer {errand : Errand} {factory : ContainerFactory}
    {kind : ApplicationKind} (here : errand.station? = some (.containerFactory factory kind)) :
    errand = .createContainer factory kind := by
  cases errand with
  | createContainer => cases here; rfl
  | check own => cases own <;> cases here
  | enterPhase _ phase => cases phase <;> cases here
  | _ => cases here

/-- Only registering for shutdown registers a container. -/
theorem Errand.eq_registerForShutdown {errand : Errand} {coordinator : CoordinatorRef}
    {container : ContainerRef}
    (here : errand.station? = some (.shutdownRegistration coordinator container)) :
    errand = .registerForShutdown coordinator container := by
  cases errand with
  | registerForShutdown => cases here; rfl
  | check own => cases own <;> cases here
  | enterPhase _ phase => cases phase <;> cases here
  | _ => cases here

/-- Only telling a listener is a visit at which it is told something. -/
theorem Errand.eq_tell {errand : Errand} {listener : RunListener} {notice : Notice}
    (here : errand.station? = some (.notice listener notice)) : errand = .tell listener notice := by
  cases errand with
  | tell => cases here; rfl
  | check own => cases own <;> cases here
  | enterPhase _ phase => cases phase <;> cases here
  | _ => cases here

/-- Only showing the environment to a listener is a visit at which it is shown. -/
theorem Errand.eq_showEnvironment {errand : Errand} {listener : RunListener} {store : StoreRef}
    (here : errand.station? = some (.environment listener store)) :
    ∃ environment, errand = .showEnvironment listener store environment := by
  cases errand with
  | showEnvironment => cases here; exact ⟨_, rfl⟩
  | check own => cases own <;> cases here
  | enterPhase _ phase => cases phase <;> cases here
  | _ => cases here

/-- Only refreshing a container is a visit at which it is refreshed. -/
theorem Errand.eq_refresh {errand : Errand} {container : ContainerRef}
    (here : errand.station? = some (.refresh container)) : errand = .refresh container := by
  cases errand with
  | refresh => cases here; rfl
  | check own => cases own <;> cases here
  | enterPhase _ phase => cases phase <;> cases here
  | _ => cases here

/-- Whether a listener is told something at a station, or the container is made, registered or
refreshed there. -/
def Station.isLandmark : Station → Bool
  | notice .. | environment .. | containerFactory .. | shutdownRegistration .. | refresh _ => true
  | _ => false

/-- The landmarks on an order. -/
def landmarksOn (order : List Stop) : List Stop := order.filter (·.station.isLandmark)

@[simp] theorem landmarksOn_nil : landmarksOn [] = [] := rfl

@[simp] theorem landmarksOn_cons (stop : Stop) (order : List Stop) :
    landmarksOn (stop :: order) =
      (if stop.station.isLandmark then [stop] else []) ++ landmarksOn order := by
  unfold landmarksOn
  rw [List.filter_cons]
  split <;> rfl

@[simp] theorem landmarksOn_append (first second : List Stop) :
    landmarksOn (first ++ second) = landmarksOn first ++ landmarksOn second :=
  List.filter_append ..

/-- Where there is no landmark, none is found. -/
theorem landmarksOn_eq_nil {order : List Stop}
    (none : ∀ stop ∈ order, stop.station.isLandmark = false) : landmarksOn order = [] := by
  simpa [landmarksOn] using none

/-- The factories are no landmarks. -/
@[simp] theorem landmarksOn_factoryStops {Factory Product : Type}
    (declarations : Declarations Factory) (construction : Factory → Construction)
    (finding : Product → Finding) (built : List Product) :
    landmarksOn (factoryStops declarations construction finding built) = [] := by
  refine landmarksOn_eq_nil fun stop among => ?_
  obtain ⟨index, bound, rfl⟩ := List.getElem_of_mem among
  simp [factoryStops, Station.isLandmark]

theorem landmarksOn_elsewhere {α : Type} (items : List α) (station : α → Station)
    (plain : ∀ item, (station item).isLandmark = false) :
    landmarksOn (items.map fun item => { station := station item }) = [] :=
  landmarksOn_eq_nil (by simp [plain])

/-- Landmarks of some kind are found among the landmarks. -/
theorem filter_landmarksOn (order : List Stop) {kind : Station → Bool}
    (landmarks : ∀ station, kind station = true → station.isLandmark = true) :
    (order.map Stop.station).filter kind = ((landmarksOn order).map Stop.station).filter kind := by
  rw [landmarksOn, List.filter_map, List.filter_map, List.filter_filter]
  congr 2
  funext stop
  cases found : kind stop.station with
  | false => simp [found]
  | true => simp [found, landmarks _ found]

/-- The stops at which listeners are told something. -/
def toldStops (listeners : List RunListener) (station : RunListener → Station) : List Stop :=
  listeners.map fun listener => { station := station listener }

/-- Every listener that is given a notice is a landmark. -/
@[simp] theorem landmarksOn_noticeStops (listeners : List RunListener) (notice : Notice) :
    landmarksOn (noticeStops listeners notice) = toldStops listeners (.notice · notice) := by
  simp [noticeStops, landmarksOn, toldStops, Station.isLandmark]

namespace Application

variable (application : Application)

/-- The initializers are no landmarks. -/
@[simp] theorem landmarksOn_initializerStops (container : ContainerRef)
    (built : List ContextInitializer) :
    landmarksOn (application.initializerStops container built) = [] := by
  rw [initializerStops, landmarksOn_append, landmarksOn_factoryStops, List.nil_append]
  refine landmarksOn_eq_nil fun stop among => ?_
  obtain ⟨initializer, -, here⟩ := List.mem_flatMap.1 among
  obtain rfl | rfl : stop = _ ∨ stop = _ := by simpa using here
  all_goals rfl

/-- Of the stops of the environment, those at which listeners are shown it are landmarks. -/
@[simp] theorem landmarksOn_environmentStops (listeners : List RunListener) (store : StoreRef)
    (settings : Settings) :
    landmarksOn (application.environmentStops listeners store settings) =
      toldStops listeners (.environment · store) := by
  simp [environmentStops, landmarksOn, toldStops, Station.isLandmark]

/-- The registration for the shutdown is a landmark. -/
@[simp] theorem landmarksOn_shutdownStops (container : ContainerRef) (settings : Settings) :
    landmarksOn (application.shutdownStops container settings) =
      application.shutdownStops container settings := by
  unfold shutdownStops
  split <;> rfl

variable {application}

/-- There is no landmark before the bus is there. -/
@[simp] theorem landmarksOn_readyStops (given : List String) (gathered : Gathered application) :
    landmarksOn (readyStops given gathered) = [] := by
  simp only [readyStops, storeStops, busStops, landmarksOn_append, landmarksOn_cons,
    landmarksOn_factoryStops, List.append_nil, List.append_assoc]
  simp [landmarksOn, Station.isLandmark]

/-- The stop at which the container is made. -/
def creationStop (found : Found application) : Stop where
  station := .containerFactory application.factory (application.kindUnder found.settings)
  finding := .container found.container

/-- The landmarks from `starting` to the last runner. -/
theorem landmarksOn_launchStops (given : List String) (listeners : List RunListener)
    (found : Found application) :
    landmarksOn (launchStops given listeners found) =
      toldStops listeners (.notice · (.starting found.store application.mainSource)) ++
      toldStops listeners (.environment · found.store) ++
      creationStop found ::
      toldStops listeners (.notice · (.contextPrepared found.container)) ++
      toldStops listeners (.notice · (.contextLoaded found.container)) ++
      application.shutdownStops found.container found.settings ++
      { station := .refresh found.container } ::
      toldStops listeners (.notice · (.started found.container)) := by
  simp only [launchStops, preparationStops, closeStops, singletonStops, loadStops, runnerStops,
    landmarksOn_append, landmarksOn_cons, landmarksOn_noticeStops, landmarksOn_environmentStops,
    landmarksOn_initializerStops, landmarksOn_shutdownStops, landmarksOn_nil, Station.isLandmark,
    landmarksOn_elsewhere _ (.postProcess · found.container) (fun _ => rfl),
    landmarksOn_elsewhere _ (.afterRefresh · found.container) (fun _ => rfl),
    landmarksOn_elsewhere _ (.closeAction found.store found.container) (fun _ => rfl),
    landmarksOn_elsewhere _ .runner (fun _ => rfl),
    landmarksOn_elsewhere _ (fun _ => .singleton found.container bannerBean) (fun _ => rfl)]
  simp [creationStop]

/-- The landmarks of a run that succeeds. -/
theorem landmarksOn_itinerary (given : List String) (found : Found application) :
    landmarksOn (itinerary given found) =
      landmarksOn (launchStops given (gatheredBus found.toGathered).listeners found) ++
      toldStops (gatheredBus found.toGathered).listeners
        (.notice · (.running found.container)) := by
  simp [itinerary]

variable {given : List String} {found : Found application}

/-- The itinerary makes a container. -/
theorem creationStop_mem_itinerary (given : List String) (found : Found application) :
    creationStop found ∈ itinerary given found := by
  have landmark : creationStop found ∈ landmarksOn (itinerary given found) := by
    simp [landmarksOn_itinerary, landmarksOn_launchStops]
  exact (List.mem_filter.1 landmark).1

/-- Where the itinerary makes a container, it finds the container of the run. -/
theorem finding_of_containerFactory {stop : Stop} (among : stop ∈ itinerary given found)
    {factory : ContainerFactory} {kind : ApplicationKind}
    (here : stop.station = .containerFactory factory kind) : stop = creationStop found := by
  have landmark : stop ∈ landmarksOn (itinerary given found) :=
    List.mem_filter.2 ⟨among, by rw [here]; rfl⟩
  have elsewhere : ∀ (listeners : List RunListener) (station : RunListener → Station),
      (∀ listener, station listener ≠ .containerFactory factory kind) →
      stop ∉ toldStops listeners station := by
    intro listeners station differs told
    obtain ⟨listener, -, rfl⟩ := List.mem_map.1 told
    exact differs listener here
  have unregistered : stop ∉ application.shutdownStops found.container found.settings := by
    unfold shutdownStops
    split
    · intro registered
      rw [List.mem_singleton.1 registered] at here
      cases here
    · exact List.not_mem_nil
  have unrefreshed : stop ≠ { station := .refresh found.container } := by
    rintro rfl
    cases here
  rw [landmarksOn_itinerary, landmarksOn_launchStops] at landmark
  simpa [elsewhere, unregistered, unrefreshed] using landmark

/-- The container that a run has made is the one that it found. -/
theorem createdIn_eq {visits : List Visit} {container : ContainerRef}
    (known : ∀ stop, .passed stop ∈ visits → stop ∈ itinerary given found)
    (created : createdIn visits = some container) : container = found.container := by
  obtain ⟨visit, among, made⟩ := List.mem_filterMap.1 (List.mem_of_getLast? created)
  cases visit with
  | failed | broken => cases made
  | passed stop =>
    obtain ⟨station, finding⟩ := stop
    cases station with
    | containerFactory factory kind =>
      cases finding_of_containerFactory (known _ among) rfl
      exact (Option.some.inj made).symm
    | _ => cases made

/-- A run that has passed the stop at which the container is made has made it. -/
theorem createdIn_of_passed {visits : List Visit}
    (known : ∀ stop, .passed stop ∈ visits → stop ∈ itinerary given found) {stop : Stop}
    (passed : .passed stop ∈ visits) {factory : ContainerFactory} {kind : ApplicationKind}
    (here : stop.station = .containerFactory factory kind) :
    createdIn visits = some found.container := by
  have made : stop.container? = some found.container := by
    rw [finding_of_containerFactory (known _ passed) here]
    rfl
  have among : found.container ∈ visits.filterMap Visit.container? :=
    List.mem_filterMap.2 ⟨.passed stop, passed, made⟩
  cases created : createdIn visits with
  | none =>
    rw [createdIn, List.getLast?_eq_none_iff] at created
    rw [created] at among
    cases among
  | some container => rw [createdIn_eq known created]

/-- A run that tells its listeners that it is running has refreshed its container. -/
theorem refresh_of_running {invoke : Invoker} {world : World} {outcome : Outcome}
    {failure : RunFailure}
    (ended : (application.execution invoke given world).result = .ok outcome)
    (running : outcome.result = .error { stage := .running, failure }) :
    ∃ visit ∈ (application.execution invoke given world).visits, ∃ container,
      visit.station = .refresh container := by
  obtain ⟨found, passed⟩ := passed_of_running (path_of_result ended) running
  let stop : Stop := { station := .refresh found.container }
  have landmark : stop ∈ landmarksOn (readyStops given found.toGathered ++
      launchStops given (gatheredBus found.toGathered).listeners found) := by
    simp [landmarksOn_launchStops, stop]
  exact ⟨.passed stop, passed.subset (List.mem_map_of_mem (List.mem_filter.1 landmark).1), _, rfl⟩

end Application

end Launchpad
