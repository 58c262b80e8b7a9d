import Launchpad.Proofs.Container.Registry

/-!
# Loading sources

A source stands for configurations, and a configuration registers beans: three loops, one inside the
other, that stop at the first bean that is refused. While a container does not allow overriding, a
bean that is accepted is put behind the others, so a loading only adds to what the container holds.
`Adds` says what was added, and every loop adds to what the one before it has added.
-/

namespace Launchpad

/-- What a configuration does that registers beans one after the other, and hands on the failure of
the first that is refused. -/
def Program.registering (ref : ContainerRef) : List (String × Bean) → Program (Except Failure Unit)
  | [] => .done (.ok ())
  | (name, bean) :: rest => .perform (.registerBean ref name bean) fun
    | .error failure => .done (.error failure)
    | .ok () => registering ref rest

/-- The configurations of the sources only register beans, which each of them offers. -/
def SourceLoader.OnlyRegisters (loader : SourceLoader) (behaviour : Behaviour) (ref : ContainerRef)
    (offers : Configuration → List (String × Bean)) (sources : List Source) : Prop :=
  ∀ source ∈ sources, ∀ configurations, loader.resolve source = .ok configurations →
    ∀ configuration ∈ configurations,
      behaviour (.configure configuration.participant ref) =
        Program.registering ref (offers configuration)

/-- The beans that a source offers: those of its configurations, one after the other. -/
def SourceLoader.offered (loader : SourceLoader) (offers : Configuration → List (String × Bean))
    (source : Source) : List (String × Bean) :=
  match loader.resolve source with
  | .ok configurations => configurations.flatMap offers
  | .error _ => []

/-- Beans and names of sources were added to a container behind those that it had, and nothing else
about it changed. -/
structure Adds (ref : ContainerRef) (before : World) (beans : List (String × Bean))
    (names : List String) (after : World) : Prop where
  made : ref.index < after.containers.length
  container : after.container ref = { before.container ref with
    beans := (before.container ref).beans ++ beans
    sources := (before.container ref).sources ++ names }
  /-- Each of the beans is found under its name. -/
  found : ∀ entry ∈ beans, (after.container ref).beans.lookup entry.1 = some entry.2

namespace Adds

variable {ref : ContainerRef} {before between after : World} {beans more : List (String × Bean)}
  {names others : List String}

/-- Nothing is added. -/
theorem refl (made : ref.index < before.containers.length) : Adds ref before [] [] before where
  made := made
  container := by simp
  found _ among := nomatch among

/-- A bean that was there before is still there. -/
theorem kept (adds : Adds ref before beans names after) {name : String} {bean : Bean}
    (there : (before.container ref).beans.lookup name = some bean) :
    (after.container ref).beans.lookup name = some bean := by
  rw [adds.container]
  simp [List.lookup_append, there]

/-- What is added first stands before what is added afterwards. -/
theorem trans (start : Adds ref before beans names between)
    (rest : Adds ref between more others after) :
    Adds ref before (beans ++ more) (names ++ others) after where
  made := rest.made
  container := by
    rw [rest.container, start.container]
    simp
  found entry among := by
    rcases List.mem_append.1 among with earlier | later
    · exact rest.kept (start.found entry earlier)
    · exact rest.found entry later

/-- What goes on besides does not matter. -/
theorem of_containers {first last : World} (adds : Adds ref before beans names after)
    (begins : before.containers = first.containers) (ends : last.containers = after.containers) :
    Adds ref first beans names last := by
  have here := World.container_congr ends ref
  have there := World.container_congr begins ref
  obtain ⟨made, container, found⟩ := adds
  refine ⟨?_, ?_, ?_⟩
  · rwa [ends]
  · rw [here, container, there]
  · rwa [here]

/-- A container that refuses to override goes on refusing. -/
theorem strict (adds : Adds ref before beans names after)
    (strict : (before.container ref).allowOverriding = false) :
    (after.container ref).allowOverriding = false := by
  rwa [adds.container]

end Adds

/-- Beans were offered to a container one after the other: it has accepted them all, or those before
the first that it refused. -/
inductive Offered (ref : ContainerRef) (before : World) (offers : List (String × Bean)) :
    Except Failure Unit → World → Prop where
  | accepted {after} (adds : Adds ref before offers [] after) :
      Offered ref before offers (.ok ()) after
  | refused {taken name bean rest fault after} (split : offers = taken ++ (name, bean) :: rest)
      (adds : Adds ref before taken [] after)
      (rejected : (after.container ref).rejection? name = some fault) :
      Offered ref before offers (.error (.container fault)) after

namespace Offered

variable {ref : ContainerRef} {before between after : World} {offers more : List (String × Bean)}
  {answer : Except Failure Unit}

/-- Offers go on behind those that were accepted. -/
theorem append (adds : Adds ref before offers [] between)
    (rest : Offered ref between more answer after) :
    Offered ref before (offers ++ more) answer after := by
  cases rest with
  | accepted more => exact .accepted (adds.trans more)
  | refused split more rejected =>
    subst split
    exact .refused (List.append_assoc ..).symm (adds.trans more) rejected

/-- Once an offer is refused, nothing more is offered. -/
theorem stop {failure : Failure} (offered : Offered ref before offers (.error failure) after)
    (more : List (String × Bean)) : Offered ref before (offers ++ more) (.error failure) after := by
  cases offered with
  | refused split adds rejected =>
    subst split
    exact .refused (by rw [List.append_assoc, List.cons_append]) adds rejected

/-- Only the containers of the worlds at both ends matter. -/
theorem of_containers {first last : World} (offered : Offered ref before offers answer after)
    (begins : before.containers = first.containers) (ends : last.containers = after.containers) :
    Offered ref first offers answer last := by
  have here := World.container_congr ends ref
  cases offered with
  | accepted adds => exact .accepted (adds.of_containers begins ends)
  | refused split adds rejected =>
    exact .refused split (adds.of_containers begins ends) (here ▸ rejected)

end Offered

/-! ## One loop inside the other -/

namespace Container

/-- A bean under a new name is put behind the others. -/
theorem putBean_of_absent {name : String} (bean : Bean) {beans : List (String × Bean)}
    (absent : name ∉ beans.map Prod.fst) : putBean name bean beans = beans ++ [(name, bean)] := by
  induction beans with
  | nil => rfl
  | cons entry rest ih =>
    obtain ⟨different, others⟩ := not_or.1 (mt List.mem_cons.2 absent)
    rw [putBean, if_neg (Ne.symm different), ih others, List.cons_append]

/-- While overriding is not allowed, only a name that is not taken is accepted. -/
theorem absent_of_accepted {container : Container} {name : String}
    (strict : container.allowOverriding = false) (accepted : container.rejection? name = none) :
    name ∉ container.beans.map Prod.fst := by
  intro known
  have taken : container.hasBean name = true := by simpa [hasBean, beanNames] using known
  unfold rejection? at accepted
  split at accepted
  · cases accepted
  · rw [taken, strict] at accepted
    cases accepted

/-- While overriding is not allowed, a bean that is accepted is added. -/
theorem adds_of_accepted {ref : ContainerRef} {world : World} {name : String} (bean : Bean)
    (made : ref.index < world.containers.length)
    (strict : (world.container ref).allowOverriding = false)
    (accepted : (world.container ref).rejection? name = none) :
    Adds ref world [(name, bean)] [] (putIn ref name bean world) := by
  have absent := absent_of_accepted strict accepted
  refine ⟨made_putIn made name bean, ?_, ?_⟩
  · rw [container_putIn made, putBean_of_absent bean absent, List.append_nil]
  · intro entry among
    obtain rfl := List.mem_singleton.1 among
    rw [container_putIn made, lookup_putBean, if_pos rfl]

end Container

section

variable {ref : ContainerRef} {before : World} (made : ref.index < before.containers.length)
  (strict : (before.container ref).allowOverriding = false)

include made strict

/-- A configuration that only registers beans offers them. -/
theorem Program.registering_offers (invoke : Invoker) (offers : List (String × Bean)) :
    ∃ answer after, ((registering ref offers).carryOut invoke).result before = (.ok answer, after) ∧
      Offered ref before offers answer after := by
  induction offers generalizing before with
  | nil => exact ⟨.ok (), before, rfl, .accepted (.refl made)⟩
  | cons offer rest ih =>
    obtain ⟨name, bean⟩ := offer
    cases rejected : (before.container ref).rejection? name with
    | some fault =>
      have refuses : ((Command.registerBean ref name bean).carryOut invoke).result before =
          (.ok (.error (.container fault)), before) := by
        rw [Command.result_registerBean, rejected]
      refine ⟨.error (.container fault), before, ?_, ?_⟩
      · exact Act.result_bind_ok_iff.2 ⟨_, before, refuses, rfl⟩
      · exact .refused (List.nil_append _).symm (.refl made) rejected
    | none =>
      have adds := Container.adds_of_accepted bean made strict rejected
      have accepts : ((Command.registerBean ref name bean).carryOut invoke).result before =
          (.ok (.ok ()), Container.putIn ref name bean before) := by
        rw [Command.result_registerBean, rejected]
      obtain ⟨answer, after, ran, offered⟩ := ih adds.made (adds.strict strict)
      refine ⟨answer, after, ?_, .append adds offered⟩
      exact Act.result_bind_ok_iff.2 ⟨_, _, accepts, ran⟩

variable {behaviour : Behaviour} {loader : SourceLoader}
  {offers : Configuration → List (String × Bean)} (limit depth : Nat)

/-- A call to such a configuration comes to its end. -/
theorem Configuration.offers_of_call {configuration : Configuration}
    (registers : behaviour (.configure configuration.participant ref) =
      Program.registering ref (offers configuration)) :
    ∃ answer after,
      (behaviour.invoker (limit + 1) depth (.configure configuration.participant ref)).result
        before = (.ok answer, after) ∧ Offered ref before (offers configuration) answer after := by
  let noted := before.note (.called depth (.configure configuration.participant ref))
  have there : ref.index < noted.containers.length := made
  obtain ⟨answer, after, ran, offered⟩ := Program.registering_offers there strict
    (behaviour.invoker limit (depth + 1)) (offers configuration)
  rw [← registers] at ran
  let answered := after.note (.answered depth
    (Call.failure? (.configure configuration.participant ref) answer))
  refine ⟨answer, answered, ?_, offered.of_containers rfl rfl⟩
  refine Act.result_bind_ok_iff.2 ⟨(), noted, rfl, ?_⟩
  refine Act.result_bind_ok_iff.2 ⟨answer, after, ran, ?_⟩
  exact Act.result_bind_ok_iff.2 ⟨(), answered, rfl, rfl⟩

/-- Configurations offer their beans one after the other. -/
theorem Configuration.offers_of_calls {configurations : List Configuration}
    (registers : ∀ configuration ∈ configurations,
      behaviour (.configure configuration.participant ref) =
        Program.registering ref (offers configuration)) :
    ∃ answer after,
      (untilFailure (fun configuration : Configuration => behaviour.invoker (limit + 1) depth
        (.configure configuration.participant ref)) configurations).result before =
          (.ok answer, after) ∧
            Offered ref before (configurations.flatMap offers) answer after := by
  induction configurations generalizing before with
  | nil => exact ⟨.ok (), before, rfl, .accepted (.refl made)⟩
  | cons configuration rest ih =>
    obtain ⟨answer, between, called, offered⟩ :=
      Configuration.offers_of_call made strict limit depth
      (registers configuration List.mem_cons_self)
    rw [List.flatMap_cons]
    cases answer with
    | error failure =>
      exact ⟨.error failure, between, Act.result_bind_ok_iff.2 ⟨_, between, called, rfl⟩,
        offered.stop _⟩
    | ok =>
      cases offered with
      | accepted adds =>
        obtain ⟨answer, after, ran, more⟩ := ih adds.made (adds.strict strict) fun other among =>
          registers other (List.mem_cons_of_mem _ among)
        exact ⟨answer, after, Act.result_bind_ok_iff.2 ⟨_, between, called, ran⟩,
          .append adds more⟩

end

/-- A source that fails: nobody knows it, or the container refuses one of the beans that it
offers. -/
inductive SourceLoader.Fails (loader : SourceLoader) (offers : Configuration → List (String × Bean))
    (container : Container) (source : Source) :
    (taken : List (String × Bean)) → Failure → Prop where
  | unknown {failure} (unresolved : loader.resolve source = .error failure) :
      Fails loader offers container source [] failure
  | refused {taken name bean rest fault}
      (split : loader.offered offers source = taken ++ (name, bean) :: rest)
      (rejected : container.rejection? name = some fault) :
      Fails loader offers container source taken (.container fault)

/-- Sources were loaded one after the other: all of them, or those before the first that fails. -/
inductive SourceLoader.Loads (loader : SourceLoader) (offers : Configuration → List (String × Bean))
    (ref : ContainerRef) (before : World) (sources : List Source) :
    Except Failure Unit → World → Prop where
  | loaded {after}
      (known : ∀ source ∈ sources, ∃ configurations, loader.resolve source = .ok configurations)
      (adds : Adds ref before (sources.flatMap (loader.offered offers)) (sources.map Source.name)
        after) : Loads loader offers ref before sources (.ok ()) after
  | failed {done source rest taken failure after} (split : sources = done ++ source :: rest)
      (adds : Adds ref before (done.flatMap (loader.offered offers) ++ taken) (done.map Source.name)
        after)
      (fails : loader.Fails offers (after.container ref) source taken failure) :
      Loads loader offers ref before sources (.error failure) after

namespace SourceLoader

variable {loader : SourceLoader} {offers : Configuration → List (String × Bean)}
  {ref : ContainerRef} {before between after : World} {source : Source} {sources : List Source}
  {answer : Except Failure Unit}

namespace Loads

/-- The sources behind one that was loaded. -/
theorem cons {configurations : List Configuration}
    (known : loader.resolve source = .ok configurations)
    (adds : Adds ref before (loader.offered offers source) [source.name] between)
    (rest : loader.Loads offers ref between sources answer after) :
    loader.Loads offers ref before (source :: sources) answer after := by
  cases rest with
  | loaded others more =>
    refine .loaded ?_ (adds.trans more)
    intro other among
    rcases List.mem_cons.1 among with rfl | among
    · exact ⟨configurations, known⟩
    · exact others other among
  | @failed done failing rest taken failure after split more fails =>
    subst split
    refine .failed (List.cons_append ..).symm ?_ fails
    rw [List.flatMap_cons, List.append_assoc]
    exact adds.trans more

/-- No bean that was there before is replaced. -/
theorem kept (loads : loader.Loads offers ref before sources answer after) {name : String}
    {bean : Bean} (there : (before.container ref).beans.lookup name = some bean) :
    (after.container ref).beans.lookup name = some bean := by
  cases loads with
  | loaded known adds => exact adds.kept there
  | failed split adds fails => exact adds.kept there

/-- Once every source is loaded, every bean is found that one of their configurations has
registered. -/
theorem present (loads : loader.Loads offers ref before sources (.ok ()) after)
    (among : source ∈ sources) {configurations : List Configuration}
    (resolves : loader.resolve source = .ok configurations) {configuration : Configuration}
    (here : configuration ∈ configurations) {entry : String × Bean}
    (offer : entry ∈ offers configuration) :
    (after.container ref).beans.lookup entry.1 = some entry.2 := by
  cases loads with
  | loaded known adds =>
    apply adds.found
    refine List.mem_flatMap.2 ⟨source, among, ?_⟩
    rw [offered, resolves]
    exact List.mem_flatMap.2 ⟨configuration, here, offer⟩

end Loads

section

variable {behaviour : Behaviour} (limit depth : Nat) (made : ref.index < before.containers.length)
  (strict : (before.container ref).allowOverriding = false)

include made strict

/-- A source is loaded and recorded, or fails and is not recorded. -/
theorem loads_source (source : Source)
    (registers : ∀ configurations, loader.resolve source = .ok configurations →
      ∀ configuration ∈ configurations,
        behaviour (.configure configuration.participant ref) =
          Program.registering ref (offers configuration)) :
    ∃ answer after,
      (Container.loadSource (behaviour.invoker (limit + 1) depth) loader ref source).result before =
        (.ok answer, after) ∧
      match answer with
      | .ok () => (∃ configurations, loader.resolve source = .ok configurations) ∧
          Adds ref before (loader.offered offers source) [source.name] after
      | .error failure => ∃ taken, Adds ref before taken [] after ∧
          loader.Fails offers (after.container ref) source taken failure := by
  unfold Container.loadSource
  cases resolves : loader.resolve source with
  | error failure =>
    exact ⟨.error failure, before, rfl, [], .refl made, .unknown resolves⟩
  | ok configurations =>
    have same : loader.offered offers source = configurations.flatMap offers := by
      rw [offered, resolves]
    obtain ⟨answer, after, called, offered⟩ :=
      Configuration.offers_of_calls made strict limit depth (registers configurations resolves)
    cases offered with
    | accepted adds =>
      have records : Adds ref after [] [source.name]
          (after.modifyContainer ref (·.registerSource source.name)) := by
        refine ⟨by simpa [World.modifyContainer] using adds.made, ?_, fun _ among => nomatch among⟩
        rw [World.container_modifyContainer_self _ _ _ adds.made, List.append_nil]
        rfl
      refine ⟨.ok (), _, Act.result_bind_ok_iff.2 ⟨_, after, called, rfl⟩, ⟨configurations, rfl⟩,
        ?_⟩
      have whole := adds.trans records
      rwa [List.append_nil, ← same] at whole
    | @refused taken name bean rest fault after split adds rejected =>
      exact ⟨.error (.container fault), after, Act.result_bind_ok_iff.2 ⟨_, after, called, rfl⟩,
        taken, adds, .refused (same.trans split) rejected⟩

/-- A loading comes to its end: it has loaded all sources, or those before the first that fails. -/
theorem loads_sources (registers : loader.OnlyRegisters behaviour ref offers sources) :
    ∃ answer after,
      (Container.load (behaviour.invoker (limit + 1) depth) (.sources loader) ref sources).result
        before = (.ok answer, after) ∧ loader.Loads offers ref before sources answer after := by
  induction sources generalizing before with
  | nil => exact ⟨.ok (), before, rfl, .loaded (fun _ among => nomatch among) (.refl made)⟩
  | cons source rest ih =>
    obtain ⟨answer, between, loaded, outcome⟩ :=
      loads_source limit depth made strict source (registers source List.mem_cons_self)
    cases answer with
    | error failure =>
      obtain ⟨taken, adds, fails⟩ := outcome
      exact ⟨.error failure, between, Act.result_bind_ok_iff.2 ⟨_, between, loaded, rfl⟩,
        .failed (List.nil_append _).symm adds fails⟩
    | ok =>
      obtain ⟨⟨configurations, known⟩, adds⟩ := outcome
      obtain ⟨answer, after, ran, more⟩ := ih adds.made (adds.strict strict) fun other among =>
        registers other (List.mem_cons_of_mem _ among)
      exact ⟨answer, after, Act.result_bind_ok_iff.2 ⟨_, between, loaded, ran⟩,
        .cons known adds more⟩

end

end SourceLoader

/-- What the beans of a container are: those that were accepted, each under its name, whatever was
refused in between. While overriding is not allowed, a loading whose configurations only register
beans replaces none. If it succeeds, it has recorded all sources, and every bean is found that one
of their configurations registers; if it fails at a source, it has recorded those before it, and has
kept every bean before the one that was refused. -/
theorem Container.registers_and_loads (behaviour : Behaviour) (limit depth : Nat)
    (ref : ContainerRef) :
    (∀ {world last : World} {exchanges : List Exchange}, ref.index < world.containers.length →
      (world.container ref).beans = [] →
      Exchanges (behaviour.invoker limit depth) world exchanges last →
      (∀ exchange ∈ exchanges, exchange.command.registers ref) → Registers ref exchanges last) ∧
    ∀ {loader : SourceLoader} {offers : Configuration → List (String × Bean)}
      {sources : List Source} {before : World}, ref.index < before.containers.length →
      (before.container ref).allowOverriding = false →
      loader.OnlyRegisters behaviour ref offers sources →
      ∃ answer after,
        (load (behaviour.invoker (limit + 1) depth) (.sources loader) ref sources).result before =
          (.ok answer, after) ∧
        loader.Loads offers ref before sources answer after ∧
        (∀ name bean, (before.container ref).beans.lookup name = some bean →
          (after.container ref).beans.lookup name = some bean) ∧
        (answer = .ok () → ∀ source ∈ sources, ∀ configurations,
          loader.resolve source = .ok configurations → ∀ configuration ∈ configurations,
            ∀ entry ∈ offers configuration,
              (after.container ref).beans.lookup entry.1 = some entry.2) := by
  constructor
  · intro world last exchanges there new sequence each
    exact sequence.registers there new each
  · intro loader offers sources before made strict registers
    obtain ⟨answer, after, ran, loads⟩ :=
      SourceLoader.loads_sources limit depth made strict registers
    refine ⟨answer, after, ran, loads, fun name bean there => loads.kept there, ?_⟩
    rintro rfl source among configurations resolves configuration here entry offer
    exact loads.present among resolves here offer

/-- The beans of two configurations, of which the second takes a name of the first. -/
def shelfOffers (configuration : Configuration) : List (String × Bean) :=
  if configuration.name = "core" then
    [("clock", .value (.text "utc")), ("starter", .exitCodeGenerator 0)]
  else
    [("port", .value (.number "u16" 8080)), ("clock", .value (.text "local")),
      ("late", .exitCodeGenerator 1)]

/-- Configurations that only register beans, and a close callback that registers another. -/
def stocksShelf : Behaviour
  | .configure participant ref =>
    Program.registering ref (shelfOffers { name := participant.name, participant })
  | .containerClosed _ =>
    .perform (.registerBean ⟨0⟩ "late" (.exitCodeGenerator 1)) fun _ => .done ()
  | _ => .panic "unexpected call"

/-- A new container with a close callback. -/
def emptyShelf : World :=
  { containers := [{
      id := "shelf"
      kind := .standalone
      closeCallbacks := [.custom { name := "callback" }] }] }

/-- A new container that does not allow overriding. -/
def strictShelf : World :=
  { containers := [{ id := "shelf", kind := .standalone, allowOverriding := false }] }

/-- Registers beans, of which one overrides another, one is refused as its name is taken, and one is
refused as the container is closed. -/
def shelfCommands : List Command := [
  .registerBean ⟨0⟩ "clock" (.value (.text "utc")),
  .registerBean ⟨0⟩ "port" (.exitCodeGenerator 3),
  .registerBean ⟨0⟩ "clock" (.exitCodeGenerator 2),
  .setAllowOverriding ⟨0⟩ false,
  .registerBean ⟨0⟩ "port" (.value (.text "80")),
  .close ⟨0⟩,
  .registerBean ⟨0⟩ "more" (.exitCodeGenerator 4)]

/-- A loader that knows one package. -/
def shelfLoader : SourceLoader :=
  { packages := [("app", { name := "web", participant := { name := "web" } })] }

/-- A configuration, a package that nobody knows, a package whose configuration takes a name again,
and a resource. -/
def shelfSources : List Source := [
  .component { name := "core", participant := { name := "core" } }, .package "none", .package "app",
  .resource "classpath:beans"]

/-- The beans that a sequence of operations leaves, and sources whose loading ends at a name that is
taken. -/
theorem Container.registers_and_loads_shelf :
    (∃ exchanges last, Exchanges (stocksShelf.invoker 2 0) emptyShelf exchanges last ∧
      exchanges.map Exchange.command = shelfCommands ∧ Registers ⟨0⟩ exchanges last ∧
      (last.container ⟨0⟩).beans =
        [("clock", .exitCodeGenerator 2), ("port", .exitCodeGenerator 3)]) ∧
    ∃ answer after,
      (load (stocksShelf.invoker 2 0) (.sources shelfLoader) ⟨0⟩ shelfSources).result strictShelf =
        (.ok answer, after) ∧
      shelfLoader.Loads shelfOffers ⟨0⟩ strictShelf shelfSources answer after ∧
      answer = .error (.container (.duplicateBean "clock")) ∧
      (after.container ⟨0⟩).sources = ["core", "none"] ∧
      (after.container ⟨0⟩).beanNames = ["clock", "starter", "port"] ∧
      (after.container ⟨0⟩).beans.lookup "clock" = some (.value (.text "utc")) := by
  obtain ⟨registers, -⟩ := Container.registers_and_loads stocksShelf 2 0 ⟨0⟩
  obtain ⟨-, loads⟩ := Container.registers_and_loads stocksShelf 1 0 ⟨0⟩
  constructor
  · obtain ⟨sequence, commands⟩ := Exchanges.of_perform?
      (rfl : Exchanges.perform? (stocksShelf.invoker 2 0) shelfCommands emptyShelf = some (_, _))
    refine ⟨_, _, sequence, commands, registers (by decide) rfl sequence ?_, rfl⟩
    intro exchange among
    have command := List.mem_map_of_mem (f := Exchange.command) among
    rw [commands] at command
    simp only [shelfCommands, List.mem_cons, List.not_mem_nil, or_false] at command
    rcases command with same | same | same | same | same | same | same <;> rw [same] <;> rfl
  · have only : shelfLoader.OnlyRegisters stocksShelf ⟨0⟩ shelfOffers shelfSources := by
      intro source among configurations resolves configuration here
      simp only [shelfSources, List.mem_cons, List.not_mem_nil, or_false] at among
      rcases among with rfl | rfl | rfl | rfl <;> cases resolves
      · cases List.mem_singleton.1 here
        rfl
      · cases here
      · cases List.mem_singleton.1 here
        rfl
    have there : 0 < strictShelf.containers.length := by decide
    obtain ⟨answer, after, ran, outcome, -⟩ := loads there rfl only
    refine ⟨answer, after, ran, outcome, ?_⟩
    cases ran
    exact ⟨rfl, rfl, rfl, rfl⟩

end Launchpad
