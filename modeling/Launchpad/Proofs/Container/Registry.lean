import Launchpad.Proofs.Catalog.Precedence
import Launchpad.Proofs.Container.Sealing

/-!
# The beans of a container

Beans are registered one after the other, while the policy may change and the container may be
closed in between. `Container.rejection?` says which registrations are refused; those that are
accepted are all that the beans of a container depend on, and `Container.Holds` says how.
-/

namespace Launchpad

/-- The value that a bean is, if it is one. -/
def Bean.value? : Bean → Option Value
  | value held => some held
  | _ => none

namespace Container

/-- The fault with which a container refuses a bean of a name, unless it accepts it. -/
def rejection? (container : Container) (name : String) : Option ContainerFault :=
  if container.isClosed then some .closed
  else if container.hasBean name && !container.allowOverriding then some (.duplicateBean name)
  else none

/-- A registration is refused and changes nothing, or puts the bean under its name. -/
theorem registerBean_eq (container : Container) (name : String) (bean : Bean) :
    container.registerBean name bean =
      match container.rejection? name with
      | some fault => .error fault
      | none => .ok { container with beans := putBean name bean container.beans } := by
  unfold registerBean rejection?
  split
  · rfl
  · split <;> rfl

/-- What a container holds of the beans that were registered with it, in this order. -/
structure Holds (container : Container) (registered : List (String × Bean)) : Prop where
  /-- The names are distinct. -/
  distinct : container.beanNames.Nodup
  /-- They stand in the order in which they were first registered. -/
  names : container.beanNames = (registered.map Prod.fst).eraseDups
  /-- A name maps to the bean that was last registered under it, of whatever kind. -/
  beans : ∀ name, container.beans.lookup name = registered.reverse.lookup name
  /-- That bean is handed out as a value if it is one. -/
  values : ∀ name,
    container.singleton? name = (registered.reverse.lookup name).bind Bean.value?

/-- Among distinct names, a value is found under a name exactly if the bean of that name is one. -/
theorem singleton?_of_nodup {container : Container} (distinct : container.beanNames.Nodup)
    (name : String) :
    container.singleton? name = (container.beans.lookup name).bind Bean.value? := by
  unfold singleton?
  unfold beanNames at distinct
  generalize container.beans = beans at distinct ⊢
  induction beans with
  | nil => rfl
  | cons entry rest ih =>
    obtain ⟨held, bean⟩ := entry
    obtain ⟨absent, others⟩ := List.nodup_cons.1 distinct
    have later := ih others
    by_cases same : held = name
    · subst same
      have nothing : rest.lookup held = none := by
        rw [List.lookup_eq_none_iff]
        rintro ⟨other, entry⟩ among
        have different : held ≠ other := by
          rintro rfl
          exact absent (List.mem_map.2 ⟨_, among, rfl⟩)
        simpa using different
      rw [nothing] at later
      cases bean <;> simp [Bean.value?, later]
    · have differs : (name == held) = false := by simpa using Ne.symm same
      cases bean <;> simp [same, differs, List.lookup_cons, later]

namespace Holds

variable {container changed : Container} {registered : List (String × Bean)}

/-- A container without beans holds what was registered before anything was. -/
theorem empty (new : container.beans = []) : container.Holds [] where
  distinct := by simp [beanNames, new]
  names := by simp [beanNames, new]
  beans name := by simp [new]
  values name := by simp [singleton?, new]

/-- Only the beans of a container matter. -/
theorem of_beans (holds : container.Holds registered) (same : changed.beans = container.beans) :
    changed.Holds registered := by
  obtain ⟨distinct, names, beans, values⟩ := holds
  refine ⟨?_, ?_, ?_, ?_⟩
  · rwa [beanNames, same]
  · rwa [beanNames, same]
  · rwa [same]
  · unfold singleton? at values ⊢
    rwa [same]

/-- A bean that is put under its name is registered last. -/
theorem put (holds : container.Holds registered) {name : String} {bean : Bean}
    (puts : changed.beans = putBean name bean container.beans) :
    changed.Holds (registered ++ [(name, bean)]) := by
  have known : name ∈ container.beans.map Prod.fst ↔ name ∈ registered.map Prod.fst := by
    have names := holds.names
    rw [beanNames] at names
    rw [names, List.mem_eraseDups]
  have names : changed.beanNames = ((registered ++ [(name, bean)]).map Prod.fst).eraseDups := by
    have before := holds.names
    unfold beanNames at before ⊢
    rw [puts, map_fst_putBean, List.map_append, List.map_singleton, eraseDups_append_singleton,
      ← before]
    exact if_congr known rfl rfl
  have distinct : changed.beanNames.Nodup := by
    have before := holds.distinct
    unfold beanNames at before ⊢
    rw [puts, map_fst_putBean]
    split
    · exact before
    · rename_i absent
      refine List.nodup_append.2 ⟨before, by simp, ?_⟩
      rintro other among _ here rfl
      exact absent (List.mem_singleton.1 here ▸ among)
  have beans : ∀ other,
      changed.beans.lookup other = (registered ++ [(name, bean)]).reverse.lookup other := by
    intro other
    rw [puts, lookup_putBean, holds.beans, List.reverse_append, List.reverse_singleton,
      List.singleton_append, List.lookup_cons]
    cases same : other == name <;> simp_all
  refine ⟨distinct, names, beans, ?_⟩
  intro other
  rw [singleton?_of_nodup distinct, beans]

end Holds

end Container

/-! ## Registering, with changes of the policy and closes in between -/

/-- A command that registers a bean, changes whether a name may be taken again, or closes the
container. -/
def Command.registers (ref : ContainerRef) : Command → Prop
  | registerBean held .. | setAllowOverriding held _ | close held => held = ref
  | _ => False

/-- The bean that an exchange registers under a name, if it is accepted. -/
def Exchange.registered? : Exchange → Option (String × Bean)
  | ⟨.registerBean _ name bean, _, .ok (), _⟩ => some (name, bean)
  | _ => none

/-- What registrations with a container come to. -/
structure Registers (ref : ContainerRef) (exchanges : List Exchange) (last : World) : Prop where
  /-- The container holds what was accepted. -/
  holds : (last.container ref).Holds (exchanges.filterMap Exchange.registered?)
  /-- A registration that is refused changes nothing, and the others are accepted. -/
  answers : ∀ found name bean answer left,
    ⟨.registerBean ref name bean, found, answer, left⟩ ∈ exchanges →
    match (found.container ref).rejection? name with
    | some fault => answer = .error (.container fault) ∧ left = found
    | none => answer = .ok ()

namespace Container

variable {ref : ContainerRef} {world : World}

/-- The world in which a container has put a bean under its name. -/
def putIn (ref : ContainerRef) (name : String) (bean : Bean) (world : World) : World :=
  world.modifyContainer ref fun _ =>
    { world.container ref with beans := putBean name bean (world.container ref).beans }

/-- A bean that is put into a container is among its beans, and nothing else about it changes. -/
theorem container_putIn (there : ref.index < world.containers.length) (name : String)
    (bean : Bean) :
    (putIn ref name bean world).container ref =
      { world.container ref with beans := putBean name bean (world.container ref).beans } :=
  World.container_modifyContainer_self world ref _ there

/-- Putting a bean in takes no container away. -/
theorem made_putIn (there : ref.index < world.containers.length) (name : String) (bean : Bean) :
    ref.index < (putIn ref name bean world).containers.length := by
  simpa [putIn, World.modifyContainer] using there

/-- A registration is refused and changes nothing, or puts the bean under its name. -/
theorem result_register (ref : ContainerRef) (name : String) (bean : Bean) (world : World) :
    (register ref name bean).result world =
      match (world.container ref).rejection? name with
      | some fault => (.ok (.error fault), world)
      | none => (.ok (.ok ()), putIn ref name bean world) := by
  have looks : (Act.container ref).result world = (.ok (world.container ref), world) := rfl
  rw [register, Act.result_bind, looks]
  dsimp only
  rw [registerBean_eq]
  cases (world.container ref).rejection? name <;> rfl

/-- A close leaves the beans as they are, whatever those do who are called in the course of it. -/
theorem beans_of_close {invoke : Invoker} {answer : Except Failure Unit} {last : World}
    (participants : ∀ call, Act.Keeps (StaysClosed ref) (invoke call))
    (there : ref.index < world.containers.length)
    (ran : (close invoke ref).result world = (.ok answer, last)) :
    ref.index < last.containers.length ∧
      (last.container ref).beans = (world.container ref).beans := by
  have framing := StaysClosed.framing ref
  have once := closeOnce_of_close ran
  have made : ref.index < (world.modifyContainer ref countClose).containers.length := by
    simpa [World.modifyContainer] using there
  have counted : ((world.modifyContainer ref countClose).container ref).beans =
      (world.container ref).beans := by
    rw [World.container_modifyContainer_self _ _ _ there]
    rfl
  generalize world.modifyContainer ref countClose = counting at made counted once
  cases closed : (counting.container ref).isClosed with
  | true =>
    rw [closeOnce_of_closed closed] at once
    cases once
    exact ⟨made, counted⟩
  | false =>
    obtain ⟨announced, unwound, announces, unwinds, logs⟩ := sections_of_closeOnce closed once
    have shut := World.container_modifyContainer_self counting ref
      (fun _ => (counting.container ref).shut) made
    have first := keeps_announceClose framing participants ref _ _ () announced announces
    have callback (held : CloseCallback) :
        Act.Keeps (StaysClosed ref) (runCallback invoke ref held) :=
      keeps_runCallback framing participants (fun _ _ => StaysClosed.of_containers rfl) held
    have second := Act.Keeps.forEach framing callback _ announced () unwound unwinds
    have third := Act.Keeps.log framing _ _ _ unwound () last logs
    have stays := (first.trans second).trans third
    obtain ⟨closed, beans⟩ := stays (by rw [shut]; rfl)
    rw [beans, shut]
    exact ⟨World.made_of_isClosed closed, counted⟩

end Container

/-- Registering is a command that fails as the container refuses it. -/
theorem Command.result_registerBean (invoke : Invoker) (ref : ContainerRef) (name : String)
    (bean : Bean) (world : World) :
    ((Command.registerBean ref name bean).carryOut invoke).result world =
      match (world.container ref).rejection? name with
      | some fault => (.ok (.error (.container fault)), world)
      | none => (.ok (.ok ()), Container.putIn ref name bean world) := by
  rw [carryOut, Act.result_bind, Container.result_register]
  cases (world.container ref).rejection? name <;> rfl

/-- One more command that registers beans. -/
theorem Command.registers_step {behaviour : Behaviour} {limit depth : Nat} {ref : ContainerRef}
    {found left : World} {command : Command} {answer : command.Answer}
    {registered : List (String × Bean)} (registers : command.registers ref)
    (there : ref.index < found.containers.length) (holds : (found.container ref).Holds registered)
    (ran : (command.carryOut (behaviour.invoker limit depth)).result found = (.ok answer, left)) :
    ref.index < left.containers.length ∧
    (left.container ref).Holds
      (registered ++ [⟨command, found, answer, left⟩].filterMap Exchange.registered?) := by
  cases command <;> cases registers
  case registerBean name bean =>
    rw [Command.result_registerBean] at ran
    cases rejected : (found.container ref).rejection? name with
    | some fault =>
      rw [rejected] at ran
      cases ran
      exact ⟨there, (List.append_nil registered).symm ▸ holds⟩
    | none =>
      rw [rejected] at ran
      cases ran
      refine ⟨Container.made_putIn there name bean, holds.put ?_⟩
      rw [Container.container_putIn there]
  case setAllowOverriding allow =>
    cases ran
    refine ⟨by simpa [World.modifyContainer] using there, ?_⟩
    rw [World.container_modifyContainer_self _ _ _ there]
    exact (List.append_nil registered).symm ▸ holds.of_beans rfl
  case close =>
    have participants := fun call =>
      Act.Keeps.of_respects (behaviour.staysClosed ref limit depth call)
    obtain ⟨made, same⟩ := Container.beans_of_close participants there ran
    exact ⟨made, (List.append_nil registered).symm ▸ holds.of_beans same⟩

/-- Whatever is registered with a new container, and however the policy changes and the container is
closed in between, it holds what was accepted, and what is refused changes nothing. -/
theorem Exchanges.registers {behaviour : Behaviour} {limit depth : Nat} {ref : ContainerRef}
    {world last : World} {exchanges : List Exchange} (there : ref.index < world.containers.length)
    (new : (world.container ref).beans = [])
    (sequence : Exchanges (behaviour.invoker limit depth) world exchanges last)
    (each : ∀ exchange ∈ exchanges, exchange.command.registers ref) :
    Registers ref exchanges last := by
  refine ⟨?_, ?_⟩
  · suffices whole : ref.index < last.containers.length ∧
        (last.container ref).Holds (exchanges.filterMap Exchange.registered?) from whole.2
    induction sequence with
    | nil => exact ⟨there, .empty new⟩
    | @snoc earlier found command answer left prior ran ih =>
      obtain ⟨made, holds⟩ := ih fun exchange among => each exchange (List.mem_append_left _ among)
      have step := Command.registers_step (each _ (List.mem_append_right _ List.mem_cons_self)) made
        holds ran
      rwa [List.filterMap_append]
  · intro found name bean answer left among
    have ran := (sequence.at_exchange among).2
    dsimp only at ran
    rw [Command.result_registerBean] at ran
    cases rejected : (found.container ref).rejection? name with
    | some fault =>
      rw [rejected] at ran
      cases ran
      exact ⟨rfl, rfl⟩
    | none =>
      rw [rejected] at ran
      cases ran
      rfl

end Launchpad
