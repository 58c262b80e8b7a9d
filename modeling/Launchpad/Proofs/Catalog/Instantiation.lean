import Launchpad.Launch.Instances
import Launchpad.Proofs.Bootstrap.Bookkeeping
import Launchpad.Proofs.Catalog.Precedence

/-!
# What a catalog declares and builds

Of the factories that are declared under one name the first counts, at the place of its declaration.
Asking for a capability calls the factories in that order, each once, up to the first that fails; if
all of them build something, the instances are handed out by precedence. What holds of the factories
of one capability holds of all: a run asks for each of them in the same way.
-/

namespace Launchpad

namespace Declarations

variable {Factory Plugin : Type}

/-- Declares factories under names, one after the other. -/
def declareAll (given : List (String × Factory)) : Declarations Factory :=
  given.foldl (fun declared entry => declared.declare entry.1 entry.2) {}

/-- Declarations hold the first factory of every name that is given, in the order in which the names
are given first. -/
structure Keeps (given : List (String × Factory)) (declared : Declarations Factory) : Prop where
  names : declared.names = (given.map Prod.fst).eraseDups
  first : ∀ name, declared.entries.lookup name = given.lookup name

/-- Another declaration changes nothing if its name is declared, and is the last one otherwise. -/
theorem Keeps.declare {given : List (String × Factory)} {declared : Declarations Factory}
    (keeps : declared.Keeps given) (name : String) (factory : Factory) :
    (declared.declare name factory).Keeps (given ++ [(name, factory)]) := by
  constructor
  · rw [names_declare, List.map_append, List.map_singleton, eraseDups_append_singleton, keeps.names]
    simp only [List.mem_eraseDups]
  · intro asked
    rw [List.lookup_append, ← keeps.first, Declarations.declare]
    split
    · rename_i known
      by_cases same : asked = name
      · subst same
        obtain ⟨entry, among, rfl⟩ := List.mem_map.1 (List.contains_iff_mem.1 known)
        have there := List.lookup_isSome_iff.2 ⟨entry, among, beq_self_eq_true _⟩
        obtain ⟨found, holds⟩ := Option.isSome_iff_exists.1 there
        rw [holds]
        rfl
      · have other : (asked == name) = false := by simpa using same
        simp [List.lookup_cons, other]
    · rw [List.lookup_append]

/-- Declaring entries one after the other keeps the first factory under each name. -/
theorem declareAll_keeps (given : List (String × Factory)) : (declareAll given).Keeps given := by
  induction given using List.reverseRecOn with
  | nil => exact ⟨rfl, fun _ => rfl⟩
  | append_singleton earlier entry ih =>
    rw [declareAll, List.foldl_append]
    exact ih.declare entry.1 entry.2

/-- Factories that are called one after the other and build something, and what they have built. -/
inductive Builds (build : Factory → Act (Except Failure Plugin)) :
    World → List (String × Factory) → List Plugin → World → Prop where
  | nil {world} : Builds build world [] [] world
  | cons {world between last name factory entries plugin plugins}
      (built : (build factory).result world = (.ok (.ok plugin), between))
      (rest : Builds build between entries plugins last) :
      Builds build world ((name, factory) :: entries) (plugin :: plugins) last

/-- What comes of calling factories one after the other: either all of them build something, or one
of them fails, or does not come to its end, and those behind it are not called. -/
inductive Attempts (capability : String) (build : Factory → Act (Except Failure Plugin))
    (world : World) (entries : List (String × Factory)) :
    Except Abort (Except PluginError (List Plugin)) → World → Prop where
  | built {plugins last} (builds : Builds build world entries plugins last) :
      Attempts capability build world entries (.ok (.ok plugins)) last
  | failed {earlier later name factory plugins between cause last}
      (split : entries = earlier ++ (name, factory) :: later)
      (builds : Builds build world earlier plugins between)
      (fails : (build factory).result between = (.ok (.error cause), last)) :
      Attempts capability build world entries (.ok (.error { capability, name, cause })) last
  | broken {earlier later name factory plugins between abort last}
      (split : entries = earlier ++ (name, factory) :: later)
      (builds : Builds build world earlier plugins between)
      (breaks : (build factory).result between = (.error abort, last)) :
      Attempts capability build world entries (.error abort) last

variable {capability : String} {build : Factory → Act (Except Failure Plugin)}

/-- A factory that builds something is followed by the others. -/
theorem Attempts.cons {world between last : World} {name : String} {factory : Factory}
    {entries : List (String × Factory)} {plugin : Plugin}
    {attempted : Except Abort (Except PluginError (List Plugin))}
    (built : (build factory).result world = (.ok (.ok plugin), between))
    (rest : Attempts capability build between entries attempted last) :
    Attempts capability build world ((name, factory) :: entries)
      (attempted.map (Except.map (plugin :: ·))) last := by
  cases rest with
  | built builds => exact .built (.cons built builds)
  | failed split builds fails => exact .failed (congrArg _ split) (.cons built builds) fails
  | broken split builds breaks => exact .broken (congrArg _ split) (.cons built builds) breaks

/-- Building attempts the factories in order, up to the first that fails. -/
theorem buildAll_attempts (capability : String) (build : Factory → Act (Except Failure Plugin))
    (entries : List (String × Factory)) (world : World) :
    Attempts capability build world entries ((buildAll capability build entries).result world).1
      ((buildAll capability build entries).result world).2 := by
  induction entries generalizing world with
  | nil => exact .built .nil
  | cons entry rest ih =>
    obtain ⟨name, factory⟩ := entry
    rw [buildAll, Act.result_bind]
    cases called : (build factory).result world with
    | mk answer between =>
      obtain abort | cause | plugin := answer
      · exact .broken rfl .nil called
      · exact .failed rfl .nil called
      · dsimp only
        rw [Act.result_bind]
        have others : Attempts capability build world ((name, factory) :: rest) _ _ :=
          .cons called (ih between)
        generalize (buildAll capability build rest).result between = attempted at others ⊢
        obtain ⟨abort | error | plugins, last⟩ := attempted <;> exact others

/-- The instances of the factories are handed out by precedence, if all of them build one. -/
theorem instantiate_result (declared : Declarations Factory) (order : Plugin → Order)
    (world : World) :
    (declared.instantiate capability build order).result world =
      (((buildAll capability build declared.entries).result world).1.map
        (Except.map (byPrecedence order)),
        ((buildAll capability build declared.entries).result world).2) := by
  rw [instantiate, Act.result_bind]
  rcases (buildAll capability build declared.entries).result world with
    ⟨abort | error | plugins, last⟩ <;> rfl

end Declarations

namespace Catalog

variable {Factory Plugin : Type} {capability : String}

/-- What a plan does about the factories of a capability is instantiating them. -/
theorem carryOut_gather (invoke : Invoker) (declared : Declarations Factory)
    {plan : String → Factory → Plan (Except Failure Plugin)}
    {build : Factory → Act (Except Failure Plugin)} (order : Plugin → Order)
    (calls : ∀ name factory, (plan name factory).carryOut invoke = build factory) :
    (gather declared capability plan order).carryOut invoke =
      declared.instantiate capability build order := by
  have all (entries : List (String × Factory)) :
      (Declarations.buildAll capability (fun entry => plan entry.1 entry.2)
        (entries.map fun entry => (entry.1, entry))).carryOut invoke =
      Declarations.buildAll capability build entries := by
    induction entries with
    | nil => rfl
    | cons entry rest ih =>
      rw [List.map_cons, Declarations.buildAll, Declarations.buildAll, Plan.carryOut_bind, calls]
      refine congrArg _ (funext fun built => ?_)
      cases built with
      | error cause => rfl
      | ok plugin =>
        dsimp only
        rw [Plan.carryOut_bind, ih]
        refine congrArg _ (funext fun others => ?_)
        cases others <;> rfl
  rw [gather, Declarations.instantiate, Declarations.instantiate, Plan.carryOut_bind,
    Declarations.labelled, all]
  refine congrArg _ (funext fun built => ?_)
  cases built <;> rfl

/-- A run that calls a factory carries out its construction. -/
theorem carryOut_build (invoke : Invoker) (name : String) (construction : Construction) :
    (Plan.ask (.build name construction)).carryOut invoke = construction.carryOut invoke :=
  Plan.carryOut_ask invoke _

/-- Every capability of a catalog is asked for in the same way: its own factories are instantiated,
with its own name and by the ranks of what they build. -/
structure Instantiated (invoke : Invoker) (catalog : Catalog) : Prop where
  runListeners : ∀ arguments, catalog.buildRunListeners invoke arguments =
    catalog.runListeners.instantiate "RunListener"
      (fun factory => (Construction.runListener factory arguments).carryOut invoke)
      RunListener.order
  reporters : ∀ container, catalog.buildReporters invoke container =
    catalog.reporters.instantiate "ExceptionReporter"
      (fun factory => invoke (.buildReporter factory container)) ExceptionReporter.order
  bootstrapInitializers : catalog.buildBootstrapInitializers invoke =
    catalog.bootstrapInitializers.instantiate "BootstrapRegistryInitializer"
      (fun factory => invoke (.buildBootstrapInitializer factory)) fun _ => none
  contextInitializers : catalog.buildContextInitializers invoke =
    catalog.contextInitializers.instantiate "ContextInitializer"
      (fun factory => invoke (.buildContextInitializer factory)) ContextInitializer.order
  applicationListeners : catalog.buildApplicationListeners invoke =
    catalog.applicationListeners.instantiate "ApplicationListener"
      (fun factory => invoke (.buildApplicationListener factory)) ApplicationListener.order

/-- Every capability of every catalog is asked for in that way. -/
theorem instantiated (invoke : Invoker) (catalog : Catalog) : catalog.Instantiated invoke where
  runListeners _ := carryOut_gather invoke _ _ fun _ _ => carryOut_build invoke _ _
  reporters _ := carryOut_gather invoke _ _ fun _ _ => Plan.carryOut_ask invoke _
  bootstrapInitializers := carryOut_gather invoke _ _ fun _ _ => carryOut_build invoke _ _
  contextInitializers := carryOut_gather invoke _ _ fun _ _ => carryOut_build invoke _ _
  applicationListeners := carryOut_gather invoke _ _ fun _ _ => carryOut_build invoke _ _

end Catalog

end Launchpad
