import Launchpad.Proofs.Catalog.Instantiation
import Launchpad.Proofs.Launch.Publisher
import Launchpad.Proofs.Lifecycle.Delivery

/-!
# How own participants and those of the catalog are arranged

The application listeners of a run, and the context initializers that it applies, are the
application's own and those that its catalog has built. They stand by precedence, with the own ones
first among those of one rank and those of the catalog in the order of their declaration, although
the catalog hands them out sorted already. In that order the listeners are told about events, by the
publishing listener itself and, once they are attached to the container, by that.
-/

namespace Launchpad

/-- Some stations of a walk are a walk along those stations of its order. -/
theorem Walk.filter {order : List Stop} {visits : List Visit} {course : Course}
    (walk : Walk order visits course) (keep : Station → Bool) :
    ∃ ended, Walk (order.filter (keep ·.station)) (visits.filter (keep ·.station)) ended := by
  induction walk with
  | completed => exact ⟨_, .completed⟩
  | stopped => exact ⟨_, .stopped⟩
  | passed rest ih =>
    obtain ⟨ended, goesOn⟩ := ih
    simp only [List.filter_cons, Visit.station]
    split
    · exact ⟨ended, .passed goesOn⟩
    · exact ⟨ended, goesOn⟩
  | failed =>
    simp only [List.filter_cons, List.filter_nil, Visit.station]
    split
    · exact ⟨_, .failed⟩
    · exact ⟨_, .stopped⟩
  | broken =>
    simp only [List.filter_cons, List.filter_nil, Visit.station]
    split
    · exact ⟨_, .broken⟩
    · exact ⟨_, .stopped⟩
  | failedStopped =>
    simp only [List.filter_cons, List.filter_nil, Visit.station]
    split
    · exact ⟨_, .failedStopped⟩
    · exact ⟨_, .stopped⟩

/-- A walk that is on its way has passed the first part of its order, or has not left it. -/
theorem Walk.cases_append {first second : List Stop} {visits : List Visit} {course : Course}
    (walk : Walk (first ++ second) visits course) :
    (∃ rest, visits = first.map .passed ++ rest ∧ Walk second rest course) ∨
      ∃ ended, Walk first visits ended := by
  induction first generalizing visits with
  | nil => exact .inl ⟨visits, rfl, walk⟩
  | cons stop first ih =>
    cases walk with
    | passed walk =>
      obtain ⟨rest, rfl, onward⟩ | ⟨ended, within⟩ := ih walk
      · exact .inl ⟨rest, rfl, onward⟩
      · exact .inr ⟨ended, .passed within⟩
    | failed => exact .inr ⟨_, .failed⟩
    | broken => exact .inr ⟨_, .broken⟩
    | stopped => exact .inr ⟨_, .stopped⟩
    | failedStopped => exact .inr ⟨_, .failedStopped⟩

/-- A walk that has visited a station which is not in the first part of its order has passed
that. -/
theorem Walk.leaves {first second : List Stop} {visits : List Visit} {course : Course}
    (walk : Walk (first ++ second) visits course) {visit : Visit} (among : visit ∈ visits)
    (beyond : visit.station ∉ first.map Stop.station) :
    ∃ rest, visits = first.map .passed ++ rest ∧ Walk second rest course := by
  obtain passed | ⟨ended, within⟩ := walk.cases_append
  · exact passed
  · exact absurd (within.stations_prefix.subset (List.mem_map_of_mem among)) beyond

/-- What is read off the stop that was passed at a visit. -/
def Visit.read {γ : Type} (ofStop : Stop → Option γ) : Visit → Option γ
  | passed stop => ofStop stop
  | _ => none

/-- What is read off the stops that a walk has passed begins what is read off its order. -/
theorem Walk.read_prefix {γ : Type} (ofStop : Stop → Option γ) {order : List Stop}
    {visits : List Visit} {course : Course} (walk : Walk order visits course) :
    visits.filterMap (Visit.read ofStop) <+: order.filterMap ofStop := by
  induction walk with
  | completed => exact List.prefix_rfl
  | stopped => exact List.nil_prefix
  | @passed stop _ _ _ _ ih =>
    rw [List.filterMap_cons, List.filterMap_cons, Visit.read]
    cases ofStop stop with
    | none => exact ih
    | some read => exact List.cons_prefix_cons.2 ⟨rfl, ih⟩
  | failed | failedStopped | broken => exact List.nil_prefix

/-- Once a walk has left the first part of its order, what is read there is all that is read. -/
theorem Walk.read_of_leaves {γ : Type} (ofStop : Stop → Option γ) {first second : List Stop}
    {visits : List Visit} {course : Course} (walk : Walk (first ++ second) visits course)
    (none : second.filterMap ofStop = []) {visit : Visit} (among : visit ∈ visits)
    (beyond : visit.station ∉ first.map Stop.station) :
    visits.filterMap (Visit.read ofStop) = first.filterMap ofStop := by
  obtain ⟨rest, rfl, onward⟩ := walk.leaves among beyond
  have late := onward.read_prefix ofStop
  rw [none, List.prefix_nil] at late
  rw [List.filterMap_append, late, List.append_nil, List.filterMap_map]
  rfl

/-- Whether participants are arranged at a station: a factory builds one, or a context initializer
is applied, or the phase is entered before which they all are. -/
def Station.isArranging : Station → Bool
  | factory .. | contextInitializer .. | phase .contextPrepared => true
  | _ => false

/-- The arranging stops of an order. -/
def arrangingOn (order : List Stop) : List Stop := order.filter (·.station.isArranging)

@[simp] theorem arrangingOn_nil : arrangingOn [] = [] := rfl

/-- The stops that arrange come one after the other. -/
@[simp] theorem arrangingOn_cons (stop : Stop) (order : List Stop) :
    arrangingOn (stop :: order) =
      (if stop.station.isArranging then [stop] else []) ++ arrangingOn order := by
  unfold arrangingOn
  rw [List.filter_cons]
  split <;> rfl

/-- Of two orders one after the other, the arranging stops are those of both. -/
@[simp] theorem arrangingOn_append (first second : List Stop) :
    arrangingOn (first ++ second) = arrangingOn first ++ arrangingOn second :=
  List.filter_append ..

/-- Building factories arranges what they build. -/
@[simp] theorem arrangingOn_factoryStops {Factory Product : Type}
    (declarations : Declarations Factory) (construction : Factory → Construction)
    (finding : Product → Finding) (built : List Product) :
    arrangingOn (factoryStops declarations construction finding built) =
      factoryStops declarations construction finding built := by
  refine List.filter_eq_self.2 fun stop among => ?_
  obtain ⟨index, bound, rfl⟩ := List.getElem_of_mem among
  simp [factoryStops, Station.isArranging]

/-- Stops that arrange nothing are left out. -/
theorem arrangingOn_elsewhere {α : Type} (items : List α) (station : α → Station)
    (plain : ∀ item, (station item).isArranging = false) :
    arrangingOn (items.map fun item => { station := station item }) = [] :=
  List.filter_eq_nil_iff.2 (by simp [plain])

/-- Of the notices, the one of the prepared container counts as arranged. -/
@[simp] theorem arrangingOn_noticeStops (listeners : List RunListener) (notice : Notice) :
    arrangingOn (noticeStops listeners notice) =
      if notice.phase = .contextPrepared then [{ station := .phase .contextPrepared }] else [] := by
  rw [noticeStops, arrangingOn_cons, arrangingOn_elsewhere _ (.notice · notice) fun _ => rfl]
  cases notice <;> rfl

namespace Application

variable (application : Application)

/-- The stops at which context initializers are applied. -/
def appliedStops (container : ContainerRef) (built : List ContextInitializer) : List Stop :=
  (byPrecedence (·.order) (application.initializers ++ built)).map fun initializer =>
    { station := .contextInitializer initializer container }

/-- Applying initializers builds those of the catalog and applies them. -/
@[simp] theorem arrangingOn_initializerStops (container : ContainerRef)
    (built : List ContextInitializer) :
    arrangingOn (application.initializerStops container built) =
      factoryStops application.catalog.contextInitializers .contextInitializer .contextInitializer
        built ++ application.appliedStops container built := by
  have each (items : List ContextInitializer) :
      arrangingOn (items.flatMap fun initializer =>
        [{ station := .kindCheck initializer },
         { station := .contextInitializer initializer container }]) =
      items.map fun initializer => { station := .contextInitializer initializer container } := by
    induction items with
    | nil => rfl
    | cons item rest ih =>
      rw [List.flatMap_cons, arrangingOn_append, ih]
      rfl
  rw [initializerStops, arrangingOn_append, arrangingOn_factoryStops, each, appliedStops,
    byPrecedence_append_byPrecedence]

/-- Registering for a shutdown arranges nothing. -/
@[simp] theorem arrangingOn_shutdownStops (container : ContainerRef) (settings : Settings) :
    arrangingOn (application.shutdownStops container settings) = [] := by
  unfold shutdownStops
  split <;> rfl

variable {application}

/-- Where participants are arranged in a run. -/
theorem arrangingOn_itinerary (given : List String) (found : Found application) :
    arrangingOn (itinerary given found) =
      factoryStops application.catalog.bootstrapInitializers .bootstrapInitializer
        .bootstrapInitializer found.bootstrapInitializers.toList ++
      application.busStops given found.applicationListeners.toList found.runListeners.toList ++
      factoryStops application.catalog.contextInitializers .contextInitializer .contextInitializer
        found.contextInitializers.toList ++
      application.appliedStops found.container found.contextInitializers.toList ++
      [{ station := .phase .contextPrepared }] := by
  simp only [itinerary, readyStops, storeStops, busStops, launchStops, environmentStops,
    preparationStops, closeStops, singletonStops, loadStops, runnerStops, arrangingOn_append,
    arrangingOn_cons, arrangingOn_noticeStops, arrangingOn_initializerStops, arrangingOn_nil,
    arrangingOn_shutdownStops, arrangingOn_factoryStops, Station.isArranging, Notice.phase,
    arrangingOn_elsewhere _ (.bootstrapInitializer · found.store) (fun _ => rfl),
    arrangingOn_elsewhere _ (.environment · found.store) (fun _ => rfl),
    arrangingOn_elsewhere _ (.postProcess · found.container) (fun _ => rfl),
    arrangingOn_elsewhere _ (.afterRefresh · found.container) (fun _ => rfl),
    arrangingOn_elsewhere _ (.closeAction found.store found.container) (fun _ => rfl),
    arrangingOn_elsewhere _ .runner (fun _ => rfl),
    arrangingOn_elsewhere _ (fun _ => .singleton found.container bannerBean) (fun _ => rfl)]
  simp

end Application

/-- The application listener that a factory of the catalog has built, with its declaration. -/
def Stop.builtListener? : Stop → Option ((String × Participant) × ApplicationListener)
  | ⟨.factory name (.applicationListener factory), .applicationListener built⟩ =>
    some ((name, factory), built)
  | _ => none

/-- The context initializer that a factory of the catalog has built, with its declaration. -/
def Stop.builtInitializer? : Stop → Option ((String × Participant) × ContextInitializer)
  | ⟨.factory name (.contextInitializer factory), .contextInitializer built⟩ =>
    some ((name, factory), built)
  | _ => none

/-- The context initializer that is applied at a station. -/
def Station.initializer? : Station → Option ContextInitializer
  | contextInitializer initializer _ => some initializer
  | _ => none

/-- How the participants of a run are arranged, as far as it got. -/
structure Application.Arranged (application : Application) (visits : List Visit) : Prop where
  /-- The catalog has built application listeners in the order of their declaration. -/
  listenersBuilt : (visits.filterMap (Visit.read Stop.builtListener?)).map Prod.fst <+:
    application.catalog.applicationListeners.entries
  /-- Whoever makes a run listener is told the own application listeners and those that were
  built. -/
  audience : ∀ visit ∈ visits, ∀ name factory arguments,
    visit.station = .factory name (.runListener factory arguments) →
    arguments.listeners = byPrecedence (·.order) (application.listeners ++
      (visits.filterMap (Visit.read Stop.builtListener?)).map Prod.snd)
  /-- The catalog has built context initializers in the order of their declaration. -/
  initializersBuilt : (visits.filterMap (Visit.read Stop.builtInitializer?)).map Prod.fst <+:
    application.catalog.contextInitializers.entries
  /-- The own context initializers and those that were built are applied by precedence. -/
  applied : visits.filterMap (·.station.initializer?) <+:
    byPrecedence (·.order) (application.initializers ++
      (visits.filterMap (Visit.read Stop.builtInitializer?)).map Prod.snd)
  /-- All of them have been applied once the run listeners are told that the container is
  prepared. -/
  allApplied : .contextPrepared ∈ visits.filterMap Visit.phase? →
    visits.filterMap (·.station.initializer?) =
      byPrecedence (·.order) (application.initializers ++
        (visits.filterMap (Visit.read Stop.builtInitializer?)).map Prod.snd)

/-- The stops at factories, one by one. -/
theorem factoryStops_eq_map {Factory Product : Type} (declarations : Declarations Factory)
    (construction : Factory → Construction) (finding : Product → Finding) (built : List Product) :
    factoryStops declarations construction finding built =
      (declarations.entries.zip built).map fun entry =>
        { station := .factory entry.1.1 (construction entry.1.2), finding := finding entry.2 } := by
  rw [factoryStops, List.zip, List.map_zipWith]

/-- The stations of factory stops are factories. -/
theorem station_of_mem_factoryStops {Factory Product : Type} {declarations : Declarations Factory}
    {construction : Factory → Construction} {finding : Product → Finding} {built : List Product}
    {stop : Stop} (among : stop ∈ factoryStops declarations construction finding built) :
    ∃ name factory, stop.station = .factory name (construction factory) := by
  rw [factoryStops_eq_map] at among
  obtain ⟨entry, -, rfl⟩ := List.mem_map.1 among
  exact ⟨_, _, rfl⟩

/-- What is read off the visits at arranging stations is read off all visits. -/
theorem filterMap_arranging {γ : Type} {read : Visit → Option γ}
    (elsewhere : ∀ visit : Visit, visit.station.isArranging = false → read visit = none)
    (visits : List Visit) :
    (visits.filter (·.station.isArranging)).filterMap read = visits.filterMap read := by
  rw [List.filterMap_filter]
  refine List.filterMap_congr fun visit _ => ?_
  cases arranging : visit.station.isArranging with
  | true => rfl
  | false => simpa using (elsewhere visit arranging).symm

/-- What only arranging stops show is read off the arranging visits. -/
theorem read_arranging {γ : Type} {ofStop : Stop → Option γ}
    (elsewhere : ∀ stop : Stop, stop.station.isArranging = false → ofStop stop = none)
    (visits : List Visit) :
    (visits.filter (·.station.isArranging)).filterMap (Visit.read ofStop) =
      visits.filterMap (Visit.read ofStop) := by
  refine filterMap_arranging (fun visit plain => ?_) visits
  cases visit with
  | passed stop => exact elsewhere stop plain
  | failed | broken => rfl

/-- A listener is only built where something is arranged. -/
theorem Stop.builtListener?_elsewhere (stop : Stop) (plain : stop.station.isArranging = false) :
    stop.builtListener? = none := by
  obtain ⟨station, finding⟩ := stop
  cases station with
  | factory => cases plain
  | _ => rfl

/-- An initializer is only built where something is arranged. -/
theorem Stop.builtInitializer?_elsewhere (stop : Stop)
    (plain : stop.station.isArranging = false) : stop.builtInitializer? = none := by
  obtain ⟨station, finding⟩ := stop
  cases station with
  | factory => cases plain
  | _ => rfl

namespace Application

variable {application : Application} {given : List String} {found : Found application}
  {visits : List Visit} {course : Course}

/-- The arranging stops up to the last application listener. -/
def hearingStops (gathered : Gathered application) : List Stop :=
  factoryStops application.catalog.bootstrapInitializers .bootstrapInitializer
    .bootstrapInitializer gathered.bootstrapInitializers.toList ++
  factoryStops application.catalog.applicationListeners .applicationListener .applicationListener
    gathered.applicationListeners.toList

/-- The arranging stops from the first factory of run listeners to the last context initializer that
is built. -/
def buildingStops (given : List String) (found : Found application) : List Stop :=
  factoryStops application.catalog.runListeners
    (.runListener · (application.listenerArguments given found.applicationListeners.toList))
    .runListener found.runListeners.toList ++
  factoryStops application.catalog.contextInitializers .contextInitializer .contextInitializer
    found.contextInitializers.toList

/-- The arranging stops at which context initializers are applied, and the one that comes after. -/
def applyingStops (found : Found application) : List Stop :=
  application.appliedStops found.container found.contextInitializers.toList ++
    [{ station := .phase .contextPrepared }]

section

variable (given : List String) (found : Found application)

/-- In the first part of an itinerary every application listener of the catalog is built. -/
theorem builtListeners_hearingStops :
    (hearingStops found.toGathered).filterMap Stop.builtListener? =
      application.catalog.applicationListeners.entries.zip found.applicationListeners.toList := by
  simp [hearingStops, factoryStops_eq_map, Function.comp_def, Stop.builtListener?]

/-- In the second part no application listener is built. -/
theorem builtListeners_buildingStops :
    (buildingStops given found).filterMap Stop.builtListener? = [] := by
  simp [buildingStops, factoryStops_eq_map, Function.comp_def, Stop.builtListener?]

/-- No application listener is built in the third part of the preparation. -/
theorem builtListeners_applyingStops :
    (applyingStops found).filterMap Stop.builtListener? = [] := by
  simp [applyingStops, appliedStops, Function.comp_def, Stop.builtListener?, List.filterMap_cons]

/-- In the first part of an itinerary no initializer is built. -/
theorem builtInitializers_hearingStops :
    (hearingStops found.toGathered).filterMap Stop.builtInitializer? = [] := by
  simp [hearingStops, factoryStops_eq_map, Function.comp_def, Stop.builtInitializer?]

/-- In the second part every context initializer of the catalog is built. -/
theorem builtInitializers_buildingStops :
    (buildingStops given found).filterMap Stop.builtInitializer? =
      application.catalog.contextInitializers.entries.zip found.contextInitializers.toList := by
  simp [buildingStops, factoryStops_eq_map, Function.comp_def, Stop.builtInitializer?]

/-- In the third part no initializer is built. -/
theorem builtInitializers_applyingStops :
    (applyingStops found).filterMap Stop.builtInitializer? = [] := by
  simp [applyingStops, appliedStops, Function.comp_def, Stop.builtInitializer?,
    List.filterMap_cons]

end

/-- Before context initializers are applied only factories are called. -/
theorem station_of_building {stop : Stop}
    (among : stop ∈ hearingStops found.toGathered ++ buildingStops given found) :
    ∃ name construction, stop.station = .factory name construction := by
  simp only [hearingStops, buildingStops, List.mem_append] at among
  rcases among with (built | built) | built | built <;>
    obtain ⟨name, factory, here⟩ := station_of_mem_factoryStops built <;>
    exact ⟨name, _, here⟩

/-- The walk of a run along its arranging stops. -/
theorem arranging_of_walk (walk : Walk (itinerary given found) visits course) :
    ∃ ended, Walk (hearingStops found.toGathered ++ (buildingStops given found ++
      applyingStops found)) (visits.filter (·.station.isArranging)) ended := by
  obtain ⟨ended, arranging⟩ := walk.filter Station.isArranging
  change Walk (arrangingOn (itinerary given found)) _ ended at arranging
  rw [arrangingOn_itinerary, busStops] at arranging
  simp only [hearingStops, buildingStops, applyingStops, List.append_assoc] at arranging ⊢
  exact ⟨ended, arranging⟩

/-- The application listeners that a walk has built are the first of the catalog. -/
theorem listenersBuilt_of_walk (walk : Walk (itinerary given found) visits course) :
    (visits.filterMap (Visit.read Stop.builtListener?)).map Prod.fst <+:
      application.catalog.applicationListeners.entries := by
  obtain ⟨ended, arranging⟩ := arranging_of_walk walk
  have start := (arranging.read_prefix Stop.builtListener?).map Prod.fst
  rwa [read_arranging Stop.builtListener?_elsewhere, List.filterMap_append, List.filterMap_append,
    builtListeners_hearingStops, builtListeners_buildingStops, builtListeners_applyingStops,
    List.append_nil, List.append_nil, List.map_fst_zip (by simp)] at start

/-- The context initializers that a walk has built are the first of the catalog. -/
theorem initializersBuilt_of_walk (walk : Walk (itinerary given found) visits course) :
    (visits.filterMap (Visit.read Stop.builtInitializer?)).map Prod.fst <+:
      application.catalog.contextInitializers.entries := by
  obtain ⟨ended, arranging⟩ := arranging_of_walk walk
  have start := (arranging.read_prefix Stop.builtInitializer?).map Prod.fst
  rwa [read_arranging Stop.builtInitializer?_elsewhere, List.filterMap_append,
    List.filterMap_append, builtInitializers_hearingStops, builtInitializers_buildingStops,
    builtInitializers_applyingStops, List.nil_append, List.append_nil,
    List.map_fst_zip (by simp)] at start

/-- A run has built all its application listeners before it calls a factory of run listeners. -/
theorem audience_of_walk (walk : Walk (itinerary given found) visits course) {visit : Visit}
    (among : visit ∈ visits) {name : String} {factory : RunListenerFactory}
    {arguments : ListenerArguments}
    (here : visit.station = .factory name (.runListener factory arguments)) :
    arguments.listeners = byPrecedence (·.order) (application.listeners ++
      (visits.filterMap (Visit.read Stop.builtListener?)).map Prod.snd) := by
  obtain ⟨ended, arranging⟩ := arranging_of_walk walk
  have kept : visit ∈ visits.filter (·.station.isArranging) :=
    List.mem_filter.2 ⟨among, by rw [here]; rfl⟩
  have late : (buildingStops given found ++ applyingStops found).filterMap Stop.builtListener? =
      [] := by
    rw [List.filterMap_append, builtListeners_buildingStops, builtListeners_applyingStops]
    rfl
  have built := arranging.read_of_leaves Stop.builtListener? late kept
    (by simp [hearingStops, here, factoryStops_eq_map])
  have told : arguments =
      application.listenerArguments given found.applicationListeners.toList := by
    obtain ⟨stop, listed, same⟩ :=
      List.mem_map.1 (arranging.stations_prefix.subset (List.mem_map_of_mem kept))
    rw [here] at same
    simp only [hearingStops, buildingStops, applyingStops, List.mem_append] at listed
    rcases listed with (boot | hearer) | (teller | initializer) | applied | last
    · obtain ⟨_, _, built⟩ := station_of_mem_factoryStops boot
      cases same.symm.trans built
    · obtain ⟨_, _, built⟩ := station_of_mem_factoryStops hearer
      cases same.symm.trans built
    · obtain ⟨_, _, built⟩ := station_of_mem_factoryStops teller
      cases same.symm.trans built
      rfl
    · obtain ⟨_, _, built⟩ := station_of_mem_factoryStops initializer
      cases same.symm.trans built
    · obtain ⟨_, -, rfl⟩ := List.mem_map.1 applied
      cases same
    · obtain rfl := List.mem_singleton.1 last
      cases same
  rw [read_arranging Stop.builtListener?_elsewhere, builtListeners_hearingStops] at built
  rw [built, told, listenerArguments, byPrecedence_append_byPrecedence, List.map_snd_zip (by simp)]

/-- The context initializers have all been built before one of them is applied. -/
theorem built_of_applied (walk : Walk (itinerary given found) visits course) {visit : Visit}
    (among : visit ∈ visits) (arranging : visit.station.isArranging = true)
    (here : ∀ name construction, visit.station ≠ .factory name construction) :
    (visits.filterMap (Visit.read Stop.builtInitializer?)).map Prod.snd =
      found.contextInitializers.toList := by
  obtain ⟨ended, arranges⟩ := arranging_of_walk walk
  rw [← List.append_assoc] at arranges
  have beyond : visit.station ∉
      (hearingStops found.toGathered ++ buildingStops given found).map Stop.station := by
    intro listed
    obtain ⟨stop, among, same⟩ := List.mem_map.1 listed
    obtain ⟨_, _, factory⟩ := station_of_building among
    exact here _ _ (same.symm.trans factory)
  have built := arranges.read_of_leaves Stop.builtInitializer?
    (builtInitializers_applyingStops found) (List.mem_filter.2 ⟨among, arranging⟩) beyond
  rw [read_arranging Stop.builtInitializer?_elsewhere, List.filterMap_append,
    builtInitializers_hearingStops, builtInitializers_buildingStops, List.nil_append] at built
  rw [built, List.map_snd_zip (by simp)]

/-- What is applied along the arranging stops. -/
theorem applied_arranging (given : List String) (found : Found application) :
    (hearingStops found.toGathered ++ (buildingStops given found ++ applyingStops found)).filterMap
      (·.station.initializer?) =
      byPrecedence (·.order) (application.initializers ++ found.contextInitializers.toList) := by
  simp [hearingStops, buildingStops, applyingStops, appliedStops, factoryStops_eq_map,
    Station.initializer?]

/-- An initializer is only applied where something is arranged. -/
theorem initializer?_elsewhere (visit : Visit) (plain : visit.station.isArranging = false) :
    visit.station.initializer? = none := by
  cases here : visit.station with
  | contextInitializer => rw [here] at plain; cases plain
  | _ => rfl

/-- The initializers that a walk has applied are the first by precedence. -/
theorem applied_of_walk (walk : Walk (itinerary given found) visits course) :
    visits.filterMap (·.station.initializer?) <+:
      byPrecedence (·.order) (application.initializers ++
        (visits.filterMap (Visit.read Stop.builtInitializer?)).map Prod.snd) := by
  cases applied : visits.filterMap (·.station.initializer?) with
  | nil => exact List.nil_prefix
  | cons first rest =>
    have among : first ∈ visits.filterMap (·.station.initializer?) := by rw [applied]; simp
    obtain ⟨visit, listed, here⟩ := List.mem_filterMap.1 among
    have station : ∃ container, visit.station = .contextInitializer first container := by
      cases same : visit.station with
      | contextInitializer initializer container =>
        rw [same] at here
        cases here
        exact ⟨container, rfl⟩
      | _ => rw [same] at here; cases here
    obtain ⟨container, station⟩ := station
    rw [built_of_applied walk listed (by rw [station]; rfl) (by simp [station]),
      ← applied_arranging given found, ← applied, ← filterMap_arranging initializer?_elsewhere]
    obtain ⟨ended, arranging⟩ := arranging_of_walk walk
    exact arranging.filterMap_prefix (fun _ => rfl) (fun _ _ => rfl) fun _ => rfl

/-- Once the listeners were told that the container is prepared, every initializer was applied. -/
theorem allApplied_of_walk (walk : Walk (itinerary given found) visits course)
    (prepared : .contextPrepared ∈ visits.filterMap Visit.phase?) :
    visits.filterMap (·.station.initializer?) =
      byPrecedence (·.order) (application.initializers ++
        (visits.filterMap (Visit.read Stop.builtInitializer?)).map Prod.snd) := by
  obtain ⟨visit, listed, here⟩ := List.mem_filterMap.1 prepared
  have station : visit.station = .phase .contextPrepared := by
    rw [Visit.phase?] at here
    cases same : visit.station with
    | phase entered =>
      rw [same] at here
      cases here
      rfl
    | _ => rw [same] at here; cases here
  obtain ⟨ended, arranging⟩ := arranging_of_walk walk
  have kept : visit ∈ visits.filter (·.station.isArranging) :=
    List.mem_filter.2 ⟨listed, by rw [station]; rfl⟩
  have whole := applied_arranging given found
  rw [applyingStops, ← List.append_assoc, ← List.append_assoc] at arranging whole
  have beyond : visit.station ∉ (hearingStops found.toGathered ++ buildingStops given found ++
      application.appliedStops found.container found.contextInitializers.toList).map
        Stop.station := by
    intro earlier
    obtain ⟨stop, among, same⟩ := List.mem_map.1 earlier
    rw [station] at same
    obtain built | applied := List.mem_append.1 among
    · obtain ⟨_, _, factory⟩ := station_of_building built
      cases same.symm.trans factory
    · obtain ⟨_, -, rfl⟩ := List.mem_map.1 applied
      cases same
  obtain ⟨rest, visited, onward⟩ := arranging.leaves kept beyond
  have late : rest.filterMap (·.station.initializer?) = [] :=
    List.prefix_nil.1 (onward.filterMap_prefix (fun _ => rfl) (fun _ _ => rfl) fun _ => rfl)
  rw [built_of_applied walk listed (by rw [station]; rfl) (by simp [station]), ← whole,
    ← filterMap_arranging initializer?_elsewhere, visited, List.filterMap_append,
    List.filterMap_append, late, List.filterMap_map]
  rfl

/-- However far a run gets, its participants are arranged. -/
theorem arranged_of_walk (walk : Walk (itinerary given found) visits course) :
    application.Arranged visits where
  listenersBuilt := listenersBuilt_of_walk walk
  audience _ among _ _ _ := audience_of_walk walk among
  initializersBuilt := initializersBuilt_of_walk walk
  applied := applied_of_walk walk
  allApplied := allApplied_of_walk walk

/-- The bus of an application whose listeners are its own ones, which stand by precedence. -/
theorem makeBus_of_sorted {application : Application} (given : List String)
    (undeclared : application.catalog.applicationListeners.entries = [])
    (sorted : application.listeners.Pairwise fun first second =>
      first.order.precedes second.order = true) :
    application.makeBus given = (do
      let runListeners ← StepM.check PluginError.toLaunchError <|
        application.catalog.runListenersFor {
          application := application.name, arguments := given, listeners := application.listeners }
      return { listeners := runListeners, startup := application.startup }) := by
  have declared : application.catalog.applicationListenersFor = pure (Except.ok []) := by
    have built : byPrecedence ApplicationListener.order [] = [] :=
      byPrecedence_of_pairwise List.Pairwise.nil
    rw [Catalog.applicationListenersFor, Catalog.gather, Declarations.instantiate,
      Declarations.labelled, undeclared, List.map_nil]
    exact congrArg (fun built => (pure (Except.ok built) : Plan (Except PluginError _))) built
  have own : byPrecedence ApplicationListener.order (application.listeners ++ []) =
      application.listeners := by
    rw [List.append_nil, byPrecedence_of_pairwise sorted]
  rw [makeBus, declared]
  conv_rhs => rw [← own]
  rfl

/-- How a run tells its application listeners about events, calling them itself at a depth. -/
structure Delivers (depth : Nat) (execution : Execution Outcome) : Prop where
  /-- The publishing listener that the catalog builds has the audience that it was made for. -/
  publisher : ∀ name arguments listener,
    .passed ⟨.factory name (.runListener .eventPublishing arguments), .runListener listener⟩ ∈
      execution.visits → listener = .eventPublishing arguments.listeners
  /-- A notice tells the hearers in order, up to the first that fails. -/
  noticed : ∀ performed ∈ execution.record, ∀ audience notice answer,
    performed.reply = ⟨.tell (.eventPublishing audience) notice, answer⟩ →
    ∃ lines, Asked depth (ApplicationListener.hears (notice.event performed.before))
        (fun _ own => own) (notice.hearers audience performed.before) answer lines ∧
      Writes depth lines performed.before performed.after
  /-- The environment is shown to the audience in order, up to the first that fails. -/
  shown : ∀ performed ∈ execution.record, ∀ audience store environment answer,
    performed.reply = ⟨.showEnvironment (.eventPublishing audience) store environment, answer⟩ →
    ∃ lines, Asked depth
        (ApplicationListener.hears (.environmentPrepared environment.activeProfiles))
        (fun _ own => own) audience (answer.map Prod.fst) lines ∧
      Writes depth lines performed.before performed.after
  /-- The failure of the run is told in order, too. -/
  failure : ∀ performed ∈ execution.record, ∀ audience container failure answer,
    performed.reply = ⟨.tellFailed (.eventPublishing audience) container failure, answer⟩ →
    ∃ lines, FailureTold depth audience container failure performed.before answer lines ∧
      Writes depth lines performed.before performed.after
  /-- Once the container is loaded, the audience stands among its listeners in this order. -/
  attached : ∀ earlier performed later, execution.record = earlier ++ performed :: later →
    ∀ audience container,
      performed.reply.errand = .tell (.eventPublishing audience) (.contextLoaded container) →
      container.index < performed.before.containers.length →
      ∀ other ∈ later, (performed.before.container container).listeners ++ audience <+:
        (other.before.container container).listeners

/-- In every run each publishing listener of the catalog delivers what it is told to its audience.
-/
theorem delivers (behaviour : Behaviour) (limit depth : Nat) (application : Application)
    (given : List String) (world : World) :
    Delivers depth (application.execution (behaviour.invoker (limit + 1) depth) given world) := by
  let invoke := behaviour.invoker (limit + 1) depth
  have chain := chain_execution invoke application given world
  refine ⟨?_, ?_, ?_, ?_, ?_⟩
  · intro name arguments listener passed
    obtain ⟨performed, recorded, visited⟩ := Execution.performed_of_visit passed
    have builds := (chain.ran performed recorded).built_runListener visited
    change (Except.ok (Except.ok (RunListener.eventPublishing arguments.listeners)), _) = _
      at builds
    cases (Prod.mk.inj builds).1
    rfl
  · intro performed recorded audience notice answer replied
    have ran : (notice.tell invoke (.eventPublishing audience)).result performed.before =
        (answer, performed.after) := (chain.ran performed recorded).replied replied
    obtain ⟨lines, told⟩ :=
      RunListener.asks_tell behaviour limit depth audience notice performed.before
    rw [ran] at told
    exact ⟨lines, told⟩
  · intro performed recorded audience store environment answer replied
    have ran : (RunListener.environmentPrepared invoke store environment
        (.eventPublishing audience)).result performed.before = (answer, performed.after) :=
      (chain.ran performed recorded).replied replied
    obtain ⟨lines, told⟩ := RunListener.asks_environmentPrepared behaviour limit depth audience
      store environment performed.before
    rw [ran] at told
    exact ⟨lines, told⟩
  · intro performed recorded audience container failure answer replied
    have ran : (RunListener.publishFailure invoke container failure audience).result
        performed.before = (answer, performed.after) :=
      (chain.ran performed recorded).replied replied
    obtain ⟨lines, told⟩ := RunListener.publishFailure_told behaviour limit depth audience container
      failure performed.before
    rw [ran] at told
    exact ⟨lines, told⟩
  · rintro earlier ⟨before, ⟨errand, answer⟩, reached⟩ later record audience container loads made
      other after
    rw [record] at chain
    obtain ⟨between, -, rfl, carried, onward⟩ := chain.split
    obtain ⟨start, rest, rfl⟩ := List.append_of_mem after
    obtain ⟨_, onward, rfl, -⟩ := onward.split
    -- Between the moment at which the listener is attached and the other one, listeners are only
    -- added to the container.
    have running := (ListenersStay.commanding
      (behaviour.listenersStay container (limit + 1) depth)).toRunFraming
    have stays : ListenersStay container reached other.before :=
      onward.respects running.toFraming fun _ _ => running.respects_errand _
    obtain rfl : errand = .tell (.eventPublishing audience) (.contextLoaded container) := loads
    have loaded : ((Notice.contextLoaded container).tell invoke (.eventPublishing audience)).result
        before = (answer, reached) := carried
    have attached := RunListener.attaches behaviour (limit + 1) depth audience container made
    rw [loaded] at attached
    exact attached.trans stays

end Application

namespace Catalog

/-- Whatever is declared, the first factory of each name counts, at its place. Asking for a
capability calls these factories in order, each once, up to the first that fails, and hands out what
they have built by precedence if none does; every capability of a catalog is asked for so. Sorting
what is sorted in part makes no difference, and so every run arranges its application listeners and
context initializers as one sort of the own ones and the declared ones does. In that order the
listeners are told about events, by the publishing listener and by a container to which they are
attached. -/
theorem builds_and_arranges :
    (∀ {Factory Plugin : Type} (given : List (String × Factory)) (capability : String)
      (build : Factory → Act (Except Failure Plugin)) (order : Plugin → Order) (world : World),
      (Declarations.declareAll given).Keeps given ∧
      ∃ attempted last,
        Declarations.Attempts capability build world (Declarations.declareAll given).entries
          attempted last ∧
        ((Declarations.declareAll given).instantiate capability build order).result world =
          (attempted.map (Except.map (byPrecedence order)), last) ∧
        ∀ built, attempted = .ok (.ok built) → Ranked order built (byPrecedence order built)) ∧
    (∀ (invoke : Invoker) (catalog : Catalog), catalog.Instantiated invoke) ∧
    (∀ {Plugin : Type} (order : Plugin → Order) (own declared : List Plugin),
      byPrecedence order (own ++ byPrecedence order declared) =
        byPrecedence order (own ++ declared)) ∧
    ∀ (behaviour : Behaviour) (limit depth : Nat) (application : Application)
      (given : List String) (world : World),
      let execution := application.execution (behaviour.invoker (limit + 1) depth) given world
      application.Arranged execution.visits ∧ Application.Delivers depth execution := by
  refine ⟨?_, instantiated, byPrecedence_append_byPrecedence, ?_⟩
  · intro Factory Plugin given capability build order world
    exact ⟨Declarations.declareAll_keeps given, _, _, Declarations.buildAll_attempts ..,
      Declarations.instantiate_result .., fun built _ => byPrecedence_ranked order built⟩
  · intro behaviour limit depth application given world execution
    obtain ⟨found, walk⟩ := application.walk_of_path
      (Plan.path_execution (behaviour.invoker (limit + 1) depth) (application.plan given) world)
    exact ⟨Application.arranged_of_walk walk,
      Application.delivers behaviour limit depth application given world⟩

/-- Factories that build their ranks, one of them declared under a name that is taken. -/
def rankFactories : List (String × Order) :=
  [("last", none), ("first", some (-2147483648)), ("last", some 3), ("second", some 7)]

/-- Three factories of different rank, one of whose names is declared twice. -/
theorem builds_and_arranges_ranks :
    (Declarations.declareAll rankFactories).names = ["last", "first", "second"] ∧
    ((Declarations.declareAll rankFactories).instantiate "Rank"
        (fun rank => (return .ok rank : Act (Except Failure Order))) id).result {} =
      (.ok (.ok [some (-2147483648), some 7, none]), {}) := by
  obtain ⟨keeps, attempted, last, attempts, builds, -⟩ := builds_and_arranges.1 rankFactories "Rank"
    (fun rank => (return .ok rank : Act (Except Failure Order))) id {}
  have entries : (Declarations.declareAll rankFactories).entries =
      [("last", none), ("first", some (-2147483648)), ("second", some 7)] := by decide
  have sorted : byPrecedence id [none, some (-2147483648), some 7] =
      [some (-2147483648), some 7, none] :=
    byPrecedence_eq_of_ranks (by decide) (by decide)
  refine ⟨keeps.names.trans (by decide), ?_⟩
  rw [builds, ← sorted]
  rw [entries] at attempts
  generalize ({} : World) = start at attempts ⊢
  cases attempts with
  | built ran =>
    cases ran with
    | cons built ran =>
      cases built
      cases ran with
      | cons built ran =>
        cases built
        cases ran with
        | cons built ran =>
          cases built
          cases ran
          rfl
  | failed _ _ fails => cases fails
  | broken _ _ breaks => cases breaks

end Catalog

end Launchpad
