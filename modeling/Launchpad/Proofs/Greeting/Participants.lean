import Launchpad.Greeting.CommandLine
import Launchpad.Proofs.Operation.Yielding

/-!
# What the participants of the greeting application do

Each call to one of them, evaluated. The launch stamp is registered in the bootstrap store and
handed to the container when the store closes, the configuration contributes the runners and the
mapper, and the runners add their lines to the transcript; all other calls only log.
-/

namespace Launchpad.Greeting

/-- Calls are answered by the participants of the greeting application. -/
def Answered (invoke : Invoker) : Prop :=
  ∀ (call : Call) before (answer : call.Answer) after,
    (∀ inner, Program.Yields inner (behaviour call) before answer after) →
      (invoke call).Yields before answer after

/-- The participants of the greeting answer as they are written, as long as one call is left. -/
theorem answered_invoker (limit depth : Nat) : Answered (behaviour.invoker (limit + 1) depth) :=
  fun _ _ _ _ yields => Behaviour.yields_invoker (yields _)

/-- The bootstrap store with the launch stamp. -/
def stamped (identity : Nat) : BootstrapStore :=
  { entries := [{
      type := launchStampType
      supply := .existing ⟨identity, .sealed launchStampType⟩
      scope := .singleton }]
    closeActions := [.listener launchStamp] }

/-- The bootstrap store once it was closed. -/
def spent (identity : Nat) : BootstrapStore :=
  { entries := [{
      type := launchStampType
      supply := .existing ⟨identity, .sealed launchStampType⟩
      scope := .singleton
      kept := some ⟨identity, .sealed launchStampType⟩ }]
    closed := true }

/-- The world in which one more instance was made. -/
def counted (world : World) : World := { world with nextInstance := world.nextInstance + 1 }

/-- The world with one more line in the transcript. -/
def writing (text : String) (world : World) : World :=
  { world with
    memory := (transcript,
      .list (((world.memory.lookup transcript).getD .nothing).items ++ [.text text])) ::
        world.memory.filter (·.1 ≠ transcript) }

/-- A line that is written comes after those in the transcript. -/
@[simp] theorem linesOf_writing (text : String) (world : World) :
    linesOf (writing text world) = linesOf world ++ [text] := by
  simp [linesOf, writing, Datum.asText, Datum.asText?]

/-- The transcript is what is remembered of it. -/
theorem linesOf_congr {before after : World} (same : after.memory = before.memory) :
    linesOf after = linesOf before := by
  rw [linesOf, linesOf, same]

variable {invoke inner : Invoker} {before : World}

/-- A call that only has an answer. -/
theorem Answered.answers (answered : Answered invoke) {call : Call} {answer : call.Answer}
    (done : behaviour call = .done answer) : (invoke call).Yields before answer before := by
  refine answered call before answer before fun inner => ?_
  rw [done]
  exact .done answer

/-- A call that logs before it answers. -/
theorem Answered.logs (answered : Answered invoke) {call : Call} {answer : call.Answer}
    {message : String}
    {fields : List (String × String)}
    (logs : behaviour call = .perform (.log .info message fields) fun _ => .done answer) :
    (invoke call).Yields before answer before := by
  refine answered call before answer before fun inner => ?_
  rw [logs]
  exact .perform (.log _ _ _) (.done answer)

/-- The bootstrap initializer registers a launch stamp, the next instance, with a new store. -/
theorem Answered.stampLaunch (answered : Answered invoke) (participant : Participant) :
    (invoke (.applyBootstrapInitializer participant ⟨before.stores.length⟩)).Yields
      (before.keeping {}) (.ok ())
      ((counted before).keeping (stamped before.nextInstance)) := by
  generalize numbered : counted before = counting
  have length : before.stores.length = counting.stores.length := by
    rw [← numbered]
    rfl
  refine answered _ _ _ _ fun inner => ?_
  have makes : (Command.carryOut inner (.makeInstance (.sealed launchStampType))).Yields
      (before.keeping {}) ⟨before.nextInstance, .sealed launchStampType⟩ (counting.keeping {}) := by
    rw [← numbered]
    exact BootstrapStore.yields_makeInstance _
  generalize registers : ({ (stamped before.nextInstance) with closeActions := [] } :
    BootstrapStore) = registered
  have inserted : (({} : BootstrapStore).insert launchStampType
      { supply := .existing ⟨before.nextInstance, .sealed launchStampType⟩ } false) =
      .ok (true, registered) := by
    rw [← registers]
    rfl
  have register : (BootstrapStore.register ⟨counting.stores.length⟩ launchStampType
      { supply := .existing ⟨before.nextInstance, .sealed launchStampType⟩ } false).Yields
      (counting.keeping {}) (.ok true) (counting.keeping registered) := by
    rw [← World.modifyStore_keeping counting {} fun _ => registered]
    exact BootstrapStore.yields_register (by rw [World.store_keeping]; exact inserted)
  have listen : (BootstrapStore.listen ⟨counting.stores.length⟩ launchStamp).Yields
      (counting.keeping registered) (.ok ()) (counting.keeping (stamped before.nextInstance)) := by
    rw [← World.modifyStore_keeping counting registered fun _ => stamped before.nextInstance]
    refine BootstrapStore.yields_listen ?_
    rw [World.store_keeping, ← registers]
    rfl
  rw [length]
  exact .perform makes (.perform (register.bind (.pure _))
    (.perform (listen.bind (.pure _)) (.done _)))

/-- The container with beans registered in order. -/
def furnished (entries : List (String × Bean)) (container : Container) :
    Except ContainerFault Container :=
  entries.foldlM (fun held entry => held.registerBean entry.1 entry.2) container

/-- A bean whose name is free is registered with the newest container. -/
theorem yields_registerBean {container registered : Container} {name : String} {bean : Bean}
    (accepted : container.registerBean name bean = .ok registered) :
    (Container.register ⟨before.containers.length⟩ name bean).Yields (before.holding container)
      (.ok ()) (before.holding registered) := by
  rw [← World.modifyContainer_holding before container fun _ => registered]
  exact Container.yields_register (by rw [World.container_holding]; exact accepted)

/-- Beans whose names are free are registered with the newest container, one after the other. -/
theorem yields_registerAll {entries : List (String × Bean)} {container registered : Container}
    (accepted : furnished entries container = .ok registered) :
    Program.Yields inner (registerAll ⟨before.containers.length⟩ entries)
      (before.holding container) (.ok ()) (before.holding registered) := by
  induction entries generalizing container with
  | nil =>
    cases accepted
    exact .done _
  | cons entry rest ih =>
    rw [furnished, List.foldlM_cons] at accepted
    cases first : container.registerBean entry.1 entry.2 with
    | error fault =>
      rw [first] at accepted
      cases accepted
    | ok between =>
      rw [first] at accepted
      exact .perform ((yields_registerBean first).bind (.pure _)) (ih accepted)

/-- The launch stamp becomes a bean of the container. -/
theorem Answered.handsOver (answered : Answered invoke) (participant : Participant) (identity : Nat)
    {container registered : Container}
    (accepted : container.registerBean launchStampBean (.value (.sealed launchStampType)) =
      .ok registered) :
    (invoke
        (.bootstrapClosing participant ⟨before.stores.length⟩ ⟨before.containers.length⟩)).Yields
      ((before.keeping { stamped identity with closed := true, closeActions := [] }).holding
        container)
      (.ok ()) ((before.keeping (spent identity)).holding registered) := by
  refine answered _ _ _ _ fun inner => ?_
  generalize closing : { stamped identity with closed := true, closeActions := [] } = store
  have kept : (World.holding (before.keeping store) container).modifyStore ⟨before.stores.length⟩
      (·.keep launchStampType ⟨identity, .sealed launchStampType⟩) =
        (before.keeping (spent identity)).holding container := by
    have spends : store.keep launchStampType ⟨identity, .sealed launchStampType⟩ =
        spent identity := by
      rw [← closing]
      rfl
    rw [← spends]
    exact congrArg (World.holding · container) (World.modifyStore_keeping before store _)
  have found : (World.store (World.holding (before.keeping store) container)
      ⟨before.stores.length⟩) = store := World.store_keeping before store
  have reads : (BootstrapStore.read inner ⟨before.stores.length⟩ launchStampType).Yields
      ((before.keeping store).holding container) (.ok ⟨identity, .sealed launchStampType⟩)
      ((before.keeping (spent identity)).holding container) := by
    rw [← kept]
    refine BootstrapStore.yields_read (by rw [found, ← closing]; rfl) rfl rfl rfl ?_
    rw [kept]
    exact congrArg (BootstrapStore.kept? · launchStampType) (World.store_keeping before _)
  exact .perform (reads.bind (.pure _)) (.perform (.container _) (.perform (.log _ _ _)
    (.perform ((yields_registerBean accepted).bind (.pure _)) (.done _))))

/-- The configuration registers its beans. -/
theorem Answered.configures (answered : Answered invoke) (participant : Participant)
    {container registered : Container} (accepted : furnished beans container = .ok registered) :
    (invoke (.configure participant ⟨before.containers.length⟩)).Yields (before.holding container)
      (.ok ()) (before.holding registered) :=
  answered _ _ _ _ fun _ => yields_registerAll accepted

/-- The phases that concern a container are at most logged. -/
theorem Answered.audits (answered : Answered invoke) (participant : Participant)
    (phase : LifecyclePhase)
    (container : ContainerRef) :
    (invoke (.containerPhase participant phase container)).Yields before (.ok ()) before := by
  refine answered _ _ _ _ fun inner => ?_
  cases phase with
  | contextLoaded | running => exact .perform (.container _) (.perform (.log _ _ _) (.done _))
  | _ => exact .perform (.container _) (.done _)

/-- The lines of the transcript as they are remembered. -/
def remembered (world : World) : Datum := (world.memory.lookup transcript).getD .nothing

/-- The transcript is remembered, and looking at it changes nothing. -/
theorem yields_recall :
    (Command.carryOut inner (.memory transcript)).Yields before (remembered before) before :=
  .look fun world alike => by rw [alike.memory]

/-- A line is written by remembering it behind the others. -/
theorem yields_write (text : String) :
    (Command.carryOut inner (.remember transcript
      (.list ((remembered before).items ++ [.text text])))).Yields before ()
        (writing text before) :=
  .modify fun world alike => { alike with memory := by rw [alike.memory]; rfl }

/-- A greeting that can be produced goes into the transcript. -/
theorem Answered.greets (answered : Answered invoke) (participant : Participant)
    {arguments : Arguments} {text : String} (produced : line arguments = .ok text) :
    (invoke (.runApplication participant arguments)).Yields before (.ok ())
      (writing text before) := by
  refine answered _ _ _ _ fun inner => ?_
  change Program.Yields inner (greet arguments) before (.ok ()) (writing text before)
  rw [greet, produced]
  exact .perform (.log _ _ _) (.perform yields_recall (.perform (yields_write text) (.done _)))

/-- A greeting that cannot be produced is the failure of its runner. -/
theorem Answered.greets_nobody (answered : Answered invoke) (participant : Participant)
    {arguments : Arguments} {failure : Failure} (refused : line arguments = .error failure) :
    (invoke (.runApplication participant arguments)).Yields before (.error failure) before := by
  have program : behaviour (.runApplication participant arguments) = .done (.error failure) := by
    change greet arguments = _
    rw [greet, refused]
    rfl
  exact answered.answers program

/-- The lines that the echo runner adds. -/
def echoing (given : List String) (world : World) : World :=
  match echo given with
  | some text => writing text world
  | none => world

/-- Echoing adds the echo, if there is one, to the transcript. -/
theorem linesOf_echoing (given : List String) (world : World) :
    linesOf (echoing given world) = linesOf world ++ (echo given).toList := by
  unfold echoing
  cases echo given with
  | none => exact (List.append_nil _).symm
  | some text => exact linesOf_writing text world

/-- The echo runner succeeds with every list of arguments. -/
theorem Answered.echoes (answered : Answered invoke) (participant : Participant)
    (given : List String) :
    (invoke (.runCommandLine participant given)).Yields before (.ok ()) (echoing given before) := by
  unfold echoing
  cases found : echo given with
  | none =>
    refine answered.answers ?_
    simp only [behaviour, found]
    rfl
  | some text =>
    refine answered _ _ _ _ fun inner => ?_
    simp only [behaviour, found]
    exact .perform yields_recall (.perform (yields_write text) (.done _))

/-- A greeting fault is claimed, and nothing else is. -/
theorem Answered.reports (answered : Answered invoke) (participant : Participant)
    (failure : Failure) :
    (invoke (.report participant failure)).Yields before (find? failure).isSome before := by
  cases found : find? failure with
  | none =>
    refine answered.answers ?_
    change reportGreeting failure = _
    rw [reportGreeting, found]
    rfl
  | some fault =>
    refine answered _ _ _ _ fun inner => ?_
    have program : behaviour (.report participant failure) =
        .perform (.log .error ("Cannot greet: " ++ fault.message) []) fun _ => .done true := by
      change reportGreeting failure = _
      rw [reportGreeting, found]
      rfl
    rw [program]
    exact .perform (.log _ _ _) (.done true)

end Launchpad.Greeting
