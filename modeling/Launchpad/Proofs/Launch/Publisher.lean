import Launchpad.Proofs.Launch.Landmarks

/-!
# The listener that publishes events

A catalog that declares the publishing listener once, and whose other factories build none, gives
every bus exactly one of it, with the application listeners of the run as its audience. Its
stations, the making of the container and the refresh come in one order, which every run follows as
far as it gets.
-/

namespace Launchpad

namespace Walk

variable {first second : List Stop} {visits rest : List Visit} {course : Course}

/-- What a walk has passed is what its order begins with. -/
theorem split_passed {stops : List Stop} (length : stops.length = first.length)
    (walk : Walk (first ++ second) (stops.map .passed ++ rest) course) :
    stops = first ∧ Walk second rest course := by
  induction first generalizing stops with
  | nil =>
    obtain rfl := List.length_eq_zero_iff.1 length
    exact ⟨rfl, walk⟩
  | cons stop first ih =>
    obtain ⟨other, stops, rfl⟩ := List.exists_cons_of_length_eq_add_one length
    generalize whole : List.map Visit.passed (other :: stops) ++ rest = visits at walk
    cases walk with
    | passed walk =>
      cases whole
      obtain ⟨same, walk⟩ := ih (by simpa using length) walk
      exact ⟨by rw [same], walk⟩
    | stopped => cases whole
    | failed | broken | failedStopped => simp at whole

/-- A walk that has not passed the first part of its order has not left it. -/
theorem within (walk : Walk (first ++ second) visits course)
    (inside : ¬ first.map .passed <+: visits) :
    visits.map Visit.station <+: first.map Stop.station := by
  induction first generalizing visits with
  | nil => exact absurd List.nil_prefix inside
  | cons stop first ih =>
    cases walk with
    | passed walk =>
      refine List.cons_prefix_cons.2 ⟨rfl, ih walk fun start => inside ?_⟩
      exact List.cons_prefix_cons.2 ⟨rfl, start⟩
    | stopped => exact List.nil_prefix
    | failed | broken | failedStopped => exact List.cons_prefix_cons.2 ⟨rfl, List.nil_prefix⟩

end Walk

/-- The application listener that was found, where one was built. -/
def Finding.applicationListener? : Finding → Option ApplicationListener
  | applicationListener built => some built
  | _ => none

/-- The application listener that was built. -/
def Visit.applicationListener? : Visit → Option ApplicationListener
  | passed stop => stop.finding.applicationListener?
  | _ => none

/-- The application listeners that are built along an order. -/
def listenersOn (order : List Stop) : List ApplicationListener :=
  order.filterMap (·.finding.applicationListener?)

@[simp] theorem listenersOn_append (first second : List Stop) :
    listenersOn (first ++ second) = listenersOn first ++ listenersOn second :=
  List.filterMap_append

@[simp] theorem listenersOn_cons (stop : Stop) (order : List Stop) :
    listenersOn (stop :: order) =
      stop.finding.applicationListener?.toList ++ listenersOn order := by
  cases built : stop.finding.applicationListener? <;> simp [listenersOn, built]

@[simp] theorem listenersOn_nil : listenersOn [] = [] := rfl

/-- Stops that find no application listener find none together. -/
theorem listenersOn_eq_nil {order : List Stop}
    (none : ∀ stop ∈ order, stop.finding.applicationListener? = none) : listenersOn order = [] :=
  List.filterMap_eq_nil_iff.2 none

/-- Nothing is built where nothing is found. -/
theorem listenersOn_stations {α : Type} (items : List α) (station : α → Station) :
    listenersOn (items.map fun item => { station := station item }) = [] :=
  listenersOn_eq_nil (by simp [Finding.applicationListener?])

/-- Factories of another capability build no application listener. -/
theorem listenersOn_factoryStops {Factory Product : Type} (declarations : Declarations Factory)
    (construction : Factory → Construction) {finding : Product → Finding} (built : List Product)
    (other : ∀ product, (finding product).applicationListener? = none) :
    listenersOn (factoryStops declarations construction finding built) = [] := by
  refine listenersOn_eq_nil fun stop among => ?_
  obtain ⟨index, bound, rfl⟩ := List.getElem_of_mem among
  simpa [factoryStops] using other _

/-- The factories of application listeners build them in order. -/
theorem listenersOn_applicationListeners {Factory : Type} {declarations : Declarations Factory}
    (construction : Factory → Construction)
    (built : List.Vector ApplicationListener declarations.entries.length) :
    listenersOn (factoryStops declarations construction .applicationListener built.toList) =
      built.toList := by
  have each : ∀ (entries : List (String × Factory)) (items : List ApplicationListener),
      items.length = entries.length →
      listenersOn (factoryStops ⟨entries⟩ construction .applicationListener items) = items := by
    intro entries
    induction entries with
    | nil =>
      rintro (_ | ⟨item, items⟩) length
      · rfl
      · cases length
    | cons entry rest ih =>
      rintro (_ | ⟨item, items⟩) length
      · cases length
      · rw [factoryStops, List.zipWith_cons_cons, listenersOn_cons]
        exact congrArg (item :: ·) (ih items (by simpa using length))
  exact each declarations.entries built.toList (by simp)

namespace Application

variable (application : Application)

/-- No listener is found where a notice is given. -/
@[simp] theorem listenersOn_noticeStops (listeners : List RunListener) (notice : Notice) :
    listenersOn (noticeStops listeners notice) = [] := by
  rw [noticeStops, listenersOn_cons, listenersOn_stations]
  rfl

/-- No listener is found where initializers are applied. -/
theorem listenersOn_initializerStops (container : ContainerRef)
    (built : List ContextInitializer) :
    listenersOn (application.initializerStops container built) = [] := by
  rw [initializerStops, listenersOn_append, listenersOn_factoryStops _ _ _ fun _ => rfl,
    List.nil_append]
  refine listenersOn_eq_nil fun stop among => ?_
  obtain ⟨initializer, -, here⟩ := List.mem_flatMap.1 among
  obtain rfl | rfl : stop = _ ∨ stop = _ := by simpa using here
  all_goals rfl

/-- No listener is found once the bus is there. -/
theorem listenersOn_launchStops {application : Application} (given : List String)
    (listeners : List RunListener) (found : Found application) :
    listenersOn (launchStops given listeners found) = [] := by
  have shutdown : listenersOn (application.shutdownStops found.container found.settings) = [] := by
    unfold shutdownStops
    split <;> rfl
  simp only [launchStops, preparationStops, environmentStops, closeStops, singletonStops, loadStops,
    runnerStops, listenersOn_append, listenersOn_cons, listenersOn_noticeStops,
    listenersOn_initializerStops, listenersOn_stations, listenersOn_nil, shutdown]
  simp [Finding.applicationListener?]

/-- The application listeners are found on the way to the bus. -/
theorem listenersOn_readyStops {application : Application} (given : List String)
    (gathered : Gathered application) :
    listenersOn (readyStops given gathered) = gathered.applicationListeners.toList := by
  simp only [readyStops, storeStops, busStops, listenersOn_append, listenersOn_cons,
    listenersOn_stations, listenersOn_applicationListeners]
  rw [listenersOn_factoryStops _ _ _ fun _ => rfl, listenersOn_factoryStops _ _ _ fun _ => rfl]
  simp [Finding.applicationListener?]

/-- The application listeners of a run: those that the application has, and those that its catalog
has built so far. -/
def audience (application : Application) (visits : List Visit) : List ApplicationListener :=
  byPrecedence (·.order)
    (application.listeners ++
      byPrecedence (·.order) (visits.filterMap Visit.applicationListener?))

variable {application : Application} {given : List String} {found : Found application}
  {visits : List Visit} {course : Course}

/-- The listeners that the factories of run listeners are told. -/
theorem audience_of_built {gathered : Gathered application}
    (built : BusBuilt given gathered visits) (walk : Walk (itinerary given found) visits course) :
    (application.listenerArguments given gathered.applicationListeners.toList).listeners =
      application.audience visits := by
  obtain ⟨rest, rfl⟩ := built
  rw [itinerary, List.append_assoc] at walk
  obtain ⟨-, onward⟩ := walk.split_passed (length_readyStops given gathered found.toGathered)
  have ready : ((readyStops given gathered).map Visit.passed).filterMap
      Visit.applicationListener? = gathered.applicationListeners.toList := by
    rw [List.filterMap_map]
    exact listenersOn_readyStops given gathered
  have others : rest.filterMap Visit.applicationListener? = [] := by
    refine List.filterMap_eq_nil_iff.2 fun visit among => ?_
    cases visit with
    | failed | broken => rfl
    | passed stop =>
      have none : listenersOn (launchStops given (gatheredBus found.toGathered).listeners found ++
            noticeStops (gatheredBus found.toGathered).listeners (.running found.container)) =
          [] := by
        rw [listenersOn_append, listenersOn_launchStops, listenersOn_noticeStops]
        rfl
      exact List.filterMap_eq_nil_iff.1 none stop (onward.mem_of_passed among)
  rw [audience, List.filterMap_append, ready, others, List.append_nil]
  rfl

end Application

/-- A factory of run listeners that was passed has built what was found there. -/
theorem Performed.Ran.built_runListener {invoke : Invoker} {performed : Performed}
    (ran : performed.Ran invoke) {name : String} {factory : RunListenerFactory}
    {arguments : ListenerArguments} {listener : RunListener}
    (visited : performed.reply.visit? =
      some (.passed ⟨.factory name (.runListener factory arguments), .runListener listener⟩)) :
    ((Construction.runListener factory arguments).carryOut invoke).result performed.before =
      (.ok (.ok listener), performed.after) := by
  obtain ⟨before, ⟨errand, answer⟩, after⟩ := performed
  have here : errand.station? = _ := Reply.station_of_visit? visited
  obtain rfl := Errand.eq_build here
  cases answer with
  | error abort => cases visited
  | ok answer =>
    cases answer with
    | error failure => cases visited
    | ok built =>
      cases visited
      exact ran

/-- What was visited during an execution was asked for. -/
theorem Execution.performed_of_visit {α : Type} {execution : Execution α} {visit : Visit}
    (among : visit ∈ execution.visits) :
    ∃ performed ∈ execution.record, performed.reply.visit? = some visit := by
  obtain ⟨reply, listed, visited⟩ := List.mem_filterMap.1 among
  obtain ⟨performed, among, rfl⟩ := List.mem_map.1 listed
  exact ⟨performed, among, visited⟩

/-- The publishing listener is declared once, and no other factory builds one. -/
structure Application.PublishesOnce (invoke : Invoker) (application : Application) : Prop where
  declared : (application.catalog.runListeners.entries.map Prod.snd).count .eventPublishing = 1
  alone : ∀ factory arguments world listener later,
    (invoke (.buildRunListener factory arguments)).result world = (.ok (.ok listener), later) →
      listener.isPublisher = false

/-- Where every factory builds as it should, there are as many publishing listeners as declarations
of them. -/
theorem publishers_of_factories (construction : RunListenerFactory → Construction)
    {publisher : RunListener} (publishes : publisher.isPublisher = true)
    (entries : List (String × RunListenerFactory)) (built : List RunListener)
    (length : built.length = entries.length)
    (builds : ∀ name factory listener,
      ⟨.factory name (construction factory), .runListener listener⟩ ∈
        factoryStops ⟨entries⟩ construction .runListener built →
      if factory = .eventPublishing then listener = publisher else listener.isPublisher = false) :
    built.filter (·.isPublisher) =
      List.replicate ((entries.map Prod.snd).count .eventPublishing) publisher := by
  induction entries generalizing built with
  | nil =>
    obtain rfl := List.length_eq_zero_iff.1 length
    rfl
  | cons entry rest ih =>
    obtain ⟨listener, built, rfl⟩ := List.exists_cons_of_length_eq_add_one length
    have first := builds entry.1 entry.2 listener List.mem_cons_self
    have others := ih built (by simpa using length) fun name factory listener among =>
      builds name factory listener (List.mem_cons_of_mem _ among)
    by_cases same : entry.2 = .eventPublishing
    · rw [if_pos same] at first
      subst first
      rw [List.filter_cons_of_pos publishes, others, List.map_cons, same, List.count_cons_self,
        List.replicate_succ]
    · rw [if_neg same] at first
      rw [List.filter_cons_of_neg (by simp [first]), others, List.map_cons,
        List.count_cons_of_ne same]

namespace Application

variable {invoke : Invoker} {application : Application} {given : List String} {world : World}
  {found : Found application} {course : Course}

/-- A bus that was built has the publishing listener once, with the application listeners of the run
as its audience. -/
theorem PublishesOnce.publishers (publishes : application.PublishesOnce invoke)
    {gathered : Gathered application}
    (built : BusBuilt given gathered (application.execution invoke given world).visits)
    (walk : Walk (itinerary given found) (application.execution invoke given world).visits course) :
    (gatheredBus gathered).listeners.filter (·.isPublisher) =
      [.eventPublishing
        (application.audience (application.execution invoke given world).visits)] := by
  have audience := audience_of_built built walk
  have products : gathered.runListeners.toList.filter (·.isPublisher) =
      [.eventPublishing
        (application.audience (application.execution invoke given world).visits)] := by
    refine (publishers_of_factories
      (.runListener · (application.listenerArguments given gathered.applicationListeners.toList))
      rfl application.catalog.runListeners.entries gathered.runListeners.toList (by simp)
      fun name factory listener among => ?_).trans (by rw [publishes.declared]; rfl)
    have passed : .passed ⟨.factory name (.runListener factory _), .runListener listener⟩ ∈
        (application.execution invoke given world).visits :=
      built.subset (List.mem_map_of_mem (List.mem_append_right _ (List.mem_append_right _ among)))
    obtain ⟨performed, recorded, visited⟩ := Execution.performed_of_visit passed
    have ran := (chain_execution invoke application given world).ran performed recorded
    have builds := ran.built_runListener visited
    cases factory with
    | eventPublishing =>
      rw [if_pos rfl, ← audience]
      change (Except.ok (Except.ok (RunListener.eventPublishing _)), _) = _ at builds
      cases (Prod.mk.inj builds).1
      rfl
    | custom participant =>
      rw [if_neg nofun]
      exact publishes.alone _ _ _ _ _ builds
  have sorted : ((gatheredBus gathered).listeners.filter (·.isPublisher)).Perm
      (gathered.runListeners.toList.filter (·.isPublisher)) :=
    (byPrecedence_perm _ _).filter _
  rw [products] at sorted
  exact List.perm_singleton.1 sorted

end Application

/-- Whether the publishing listener is told something at a station, or the container is made or
refreshed there. -/
def Station.isRouted : Station → Bool
  | notice listener _ | environment listener _ => listener.isPublisher
  | containerFactory .. | refresh _ => true
  | _ => false

namespace Application

variable {application : Application} {given : List String} {found : Found application}
  {visits : List Visit} {course : Course}

/-- The routed stations of a run with one publishing listener, in order. -/
def route (publisher : RunListener) (found : Found application) : List Station :=
  [.notice publisher (.starting found.store application.mainSource),
   .environment publisher found.store,
   (creationStop found).station,
   .notice publisher (.contextPrepared found.container),
   .notice publisher (.contextLoaded found.container),
   .refresh found.container,
   .notice publisher (.started found.container),
   .notice publisher (.running found.container)]

/-- The routed stations of an itinerary with one publishing listener. -/
theorem routed_itinerary (given : List String) {publisher : RunListener}
    (single : (gatheredBus found.toGathered).listeners.filter (·.isPublisher) = [publisher]) :
    ((itinerary given found).map Stop.station).filter Station.isRouted = route publisher found := by
  rw [filter_landmarksOn _ fun station kind => by cases station <;> first | rfl | cases kind]
  have notices : ∀ notice : Notice, ((toldStops (gatheredBus found.toGathered).listeners
      (.notice · notice)).map Stop.station).filter Station.isRouted =
      [.notice publisher notice] := by
    intro notice
    rw [toldStops, List.map_map, List.filter_map]
    change ((gatheredBus found.toGathered).listeners.filter (·.isPublisher)).map _ = _
    rw [single]
    rfl
  have environments : ((toldStops (gatheredBus found.toGathered).listeners
      (.environment · found.store)).map Stop.station).filter Station.isRouted =
      [.environment publisher found.store] := by
    rw [toldStops, List.map_map, List.filter_map]
    change ((gatheredBus found.toGathered).listeners.filter (·.isPublisher)).map _ = _
    rw [single]
    rfl
  have registers : ((application.shutdownStops found.container found.settings).map
      Stop.station).filter Station.isRouted = [] := by
    unfold shutdownStops
    split <;> rfl
  have creates : Station.isRouted (creationStop found).station = true := rfl
  have refreshes : Station.isRouted (.refresh found.container) = true := rfl
  simp [landmarksOn_itinerary, landmarksOn_launchStops, notices, environments, registers,
    creates, refreshes, route]

/-- A run with one publishing listener visits the first stations of its route. -/
theorem routed_prefix {publisher : RunListener}
    (walk : Walk (itinerary given found) visits course)
    (single : (gatheredBus found.toGathered).listeners.filter (·.isPublisher) = [publisher]) :
    (visits.map Visit.station).filter Station.isRouted <+: route publisher found := by
  rw [← routed_itinerary given single]
  exact walk.stations_prefix.filter _

/-- A run without a bus does not come to its route. -/
theorem not_routed_of_unbuilt (walk : Walk (itinerary given found) visits course)
    (unbuilt : ¬ BusBuilt given found.toGathered visits) :
    (visits.map Visit.station).filter Station.isRouted = [] := by
  rw [itinerary, List.append_assoc] at walk
  refine List.filter_eq_nil_iff.2 fun station among routed => ?_
  obtain ⟨stop, listed, rfl⟩ := List.mem_map.1 ((walk.within unbuilt).subset among)
  have landmark : stop ∈ landmarksOn (readyStops given found.toGathered) :=
    List.mem_filter.2 ⟨listed, by
      cases here : stop.station <;> rw [here] at routed <;> first | rfl | cases routed⟩
  rw [landmarksOn_readyStops] at landmark
  cases landmark

/-- A run that came to its route had a bus. -/
theorem built_of_routed {invoke : Invoker} {world : World} {outcome : Outcome}
    (ended : (application.execution invoke given world).result = .ok outcome)
    (routed : ((application.execution invoke given world).visits.any (·.station.isRouted)) = true) :
    ∃ gathered : Gathered application,
      BusBuilt given gathered (application.execution invoke given world).visits := by
  obtain ⟨found, walk⟩ := walk_of_result ended
  refine ⟨found.toGathered, by_contra fun unbuilt => ?_⟩
  obtain ⟨visit, among, here⟩ := List.any_eq_true.1 routed
  have none := List.filter_eq_nil_iff.1 (not_routed_of_unbuilt walk unbuilt)
  exact none _ (List.mem_map_of_mem among) here

end Application

end Launchpad
