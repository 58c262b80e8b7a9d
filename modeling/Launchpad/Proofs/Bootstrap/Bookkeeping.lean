import Launchpad.Proofs.Bootstrap.Account
import Launchpad.Proofs.Bootstrap.Recording

/-!
# A chronicle accounts for the store

Whatever a participant does, and however deep the calls are nested, its chronicle accounts for the
store: operation by operation, command by command, and so for whole programs.
-/

namespace Launchpad

open BootstrapStore (Course Deed Doing Idle)

variable {α β : Type}

/-! ## The close of a store as an operation -/

/-- A plan after another is carried out after it. -/
theorem Plan.carryOut_bind (invoke : Invoker) (plan : Plan α) (next : α → Plan β) :
    (plan >>= next).carryOut invoke =
      plan.carryOut invoke >>= fun answer => (next answer).carryOut invoke := by
  induction plan with
  | done answer => exact (pure_bind answer fun answer => (next answer).carryOut invoke).symm
  | perform errand goesOn ih =>
    change (errand.carryOut invoke >>= fun answer => (goesOn answer >>= next).carryOut invoke) =
      (errand.carryOut invoke >>= fun answer => (goesOn answer).carryOut invoke) >>= _
    rw [bind_assoc]
    exact congrArg _ (funext ih)

/-- A plan of one errand is that errand. -/
theorem Plan.carryOut_ask (invoke : Invoker) (errand : Errand) :
    (Plan.ask errand).carryOut invoke = errand.carryOut invoke :=
  bind_pure (errand.carryOut invoke)

/-- A loop of plans is carried out as the loop of what each of them carries out. -/
theorem Plan.carryOut_untilFailure {ε : Type} (invoke : Invoker) {call : α → Plan (Except ε Unit)}
    {act : α → Act (Except ε Unit)} (same : ∀ item, (call item).carryOut invoke = act item)
    (items : List α) : (untilFailure call items).carryOut invoke = untilFailure act items := by
  induction items with
  | nil => rfl
  | cons item rest ih =>
    rw [untilFailure, untilFailure, Plan.carryOut_bind, same]
    refine congrArg _ (funext fun answer => ?_)
    cases answer with
    | error failure => rfl
    | ok => exact ih

namespace BootstrapStore

/-- The end of a close, once its close actions have run. -/
def settle : Except Failure Unit → Act (Except BootstrapError Unit)
  | .ok () => return .ok ()
  | .error failure => do
    Act.log .warn "Bootstrap close listener failed" [("error", failure.message)]
    return .error (BootstrapFault.closeListener.dueTo failure)

/-- A close is the beginning of one, and if that succeeds, the turns of what was taken. -/
theorem carryOut_close (invoke : Invoker) (store : StoreRef) (container : ContainerRef) :
    (close store container).carryOut invoke = begin store >>= fun begun =>
      match begun with
      | .error fault => return .error { fault }
      | .ok actions => untilFailure (runAction invoke store container) actions >>= settle := by
  rw [close, Plan.carryOut_bind, Plan.carryOut_ask]
  refine congrArg _ (funext fun begun => ?_)
  cases begun with
  | error fault => rfl
  | ok actions =>
    dsimp only
    rw [Plan.carryOut_bind, Plan.carryOut_untilFailure invoke fun action =>
      Plan.carryOut_ask invoke (.runCloseAction store container action)]
    refine congrArg _ (funext fun ended => ?_)
    cases ended with
    | ok => rfl
    | error failure =>
      change (Plan.ask _ >>= fun _ => _).carryOut invoke = _
      rw [Plan.carryOut_bind, Plan.carryOut_ask]
      rfl

end BootstrapStore

variable {ref : StoreRef} {world : World} {invoke : Invoker} {chronicler : Recorder Deed}
  {depth : Nat}

namespace BootstrapStore

/-! ## Registrations -/

/-- Registering a supplier changes the store by its insertion, or not at all. -/
theorem register_result (world : World) (other : StoreRef) (type : String)
    (supplier : InstanceSupplier) (ifAbsent : Bool) :
    (register other type supplier ifAbsent).result world =
      match (world.store other).insert type supplier ifAbsent with
      | .error fault => (.ok (.error { fault }), world)
      | .ok (accepted, left) => (.ok (.ok accepted), world.modifyStore other fun _ => left) := by
  change (match (world.store other).insert type supplier ifAbsent with
    | .error fault => return .error { fault }
    | .ok (accepted, left) => do
      Act.modifyStore other fun _ => left
      return .ok accepted : Act (Except BootstrapError Bool)).result world = _
  rcases (world.store other).insert type supplier ifAbsent with _ | ⟨_, _⟩ <;> rfl

/-- Adding a listener changes the store by it, or not at all. -/
theorem listen_result (world : World) (other : StoreRef) (participant : Participant) :
    (listen other participant).result world =
      match (world.store other).addCloseListener participant with
      | .error fault => (.ok (.error { fault }), world)
      | .ok left => (.ok (.ok ()), world.modifyStore other fun _ => left) := by
  change (match (world.store other).addCloseListener participant with
    | .error fault => return .error { fault }
    | .ok left => do
      Act.modifyStore other fun _ => left
      return .ok () : Act (Except BootstrapError Unit)).result world = _
  cases (world.store other).addCloseListener participant <;> rfl

/-- Beginning a close takes what is to be done, or fails and changes nothing. -/
theorem begin_result (world : World) (other : StoreRef) :
    (begin other).result world =
      match (world.store other).beginClose with
      | .error fault => (.ok (.error fault), world)
      | .ok (actions, left) => (.ok (.ok actions), world.modifyStore other fun _ => left) := by
  change (match (world.store other).beginClose with
    | .error fault => return .error fault
    | .ok (actions, left) => do
      Act.modifyStore other fun _ => left
      return .ok actions : Act (Except BootstrapFault (List CloseAction))).result world = _
  rcases (world.store other).beginClose with _ | ⟨_, _⟩ <;> rfl

/-- An operation that is a single section of a store. -/
theorem accounts_section (made : world.HasStore ref) {other : StoreRef} {act : Act α} {answer : α}
    {left : BootstrapStore} {doing : α → Doing}
    (ran : act.result world = (.ok answer, world) ∧ left = world.store other ∨
      act.result world = (.ok answer, world.modifyStore other fun _ => left))
    (proper : Deed.Proper ref ⟨world.store other, doing answer, left⟩)
    (begins : Deed.begins ⟨world.store other, doing answer, left⟩ = false)
    (turn : Deed.turn? ⟨world.store other, doing answer, left⟩ = none)
    (call : Deed.call? ⟨world.store other, doing answer, left⟩ = none) :
    Accounts ref world (if other = ref then act.deed ref world doing else [])
      (act.result world) := by
  rw [Act.deed, Act.onward]
  split
  · rename_i here
    subst here
    obtain ⟨ran, rfl⟩ | ran := ran
    · rw [ran]
      exact .of_deed (.of_deed proper rfl rfl made fun _ => ⟨call, rfl⟩) begins turn
    · have kept := World.store_modifyStore_self world other (fun _ => left) made
      rw [ran]
      dsimp only
      rw [kept]
      exact .of_deed (.of_deed proper rfl kept.symm (hasStore_modifyStore made _ _)
        fun _ => ⟨call, rfl⟩) begins turn
  · rename_i different
    refine .of_undisturbed made ?_
    obtain ⟨ran, -⟩ | ran := ran
    · rw [ran]
      exact (Undisturbed.framing ref).refl world
    · rw [ran]
      exact undisturbed_modifyStore different world _

/-- A registration is accounted for by one deed of the store it is made with. -/
theorem accounts_register (made : world.HasStore ref) (other : StoreRef) (type : String)
    (supplier : InstanceSupplier) (ifAbsent : Bool) :
    Accounts ref world
      (if other = ref then
        (register other type supplier ifAbsent).deed ref world (.registered type supplier ifAbsent)
      else []) ((register other type supplier ifAbsent).result world) := by
  have ran := register_result world other type supplier ifAbsent
  cases inserted : (world.store other).insert type supplier ifAbsent with
  | error fault =>
    rw [inserted] at ran
    exact accounts_section made (.inl ⟨ran, rfl⟩) (.notRegistered inserted) rfl rfl rfl
  | ok answer =>
    rw [inserted] at ran
    exact accounts_section made (.inr ran) (.registered inserted) rfl rfl rfl

/-- A close listener is accounted for by one deed of the store it is added to. -/
theorem accounts_listen (made : world.HasStore ref) (other : StoreRef) (participant : Participant) :
    Accounts ref world
      (if other = ref then (listen other participant).deed ref world (.listened participant)
      else []) ((listen other participant).result world) := by
  have ran := listen_result world other participant
  cases added : (world.store other).addCloseListener participant with
  | error fault =>
    rw [added] at ran
    exact accounts_section made (.inl ⟨ran, rfl⟩) (.notListened added) rfl rfl rfl
  | ok left =>
    rw [added] at ran
    exact accounts_section made (.inr ran) (.listened added) rfl rfl rfl

/-! ## Gets -/

section

variable (participants : ∀ call world, world.HasStore ref →
  Accounts ref (world.note (.called depth call)) (chronicler call world)
    ((invoke call).result world))

include participants

/-- Taking an instance from its supply is accounted for by the deeds of the supplier. -/
theorem accounts_take (made : world.HasStore ref) (other : StoreRef) (supply : Supply) :
    Accounts ref world (supply.deeds chronicler ref other world)
      ((take invoke other supply).result world) := by
  cases supply with
  | existing held => exact .refl made _
  | custom participant =>
    refine (Accounts.of_call (participants _ world made)).bind_undisturbed fun supplied => ?_
    have framing := Undisturbed.framing ref
    cases supplied with
    | error failure => exact .of_pure framing.framing _
    | ok value =>
      exact .bind framing.framing (.of_stores framing (fun _ => rfl) fun _ => rfl) fun _ =>
        .of_pure framing.framing _

omit participants in
/-- The end of a get changes nothing but its own store. -/
theorem conclude_keeps (ref other : StoreRef) (world : World) (type : String) (scope : Scope)
    (supplied : Except Failure BootstrapInstance) :
    ((conclude other type scope supplied).result world).2.calls = world.calls ∧
      (world.HasStore ref → ((conclude other type scope supplied).result world).2.HasStore ref) ∧
      (other ≠ ref →
        Undisturbed ref world ((conclude other type scope supplied).result world).2) := by
  have same : Undisturbed ref world world := (Undisturbed.framing ref).refl world
  cases supplied with
  | error failure => exact ⟨rfl, id, fun _ => same⟩
  | ok value =>
    cases scope with
    | prototype => exact ⟨rfl, id, fun _ => same⟩
    | singleton =>
      exact ⟨rfl, fun made => hasStore_modifyStore made _ _, fun different =>
        undisturbed_modifyStore different world _⟩

/-- A read is accounted for by its own deed and those of the supplier it asks. -/
theorem accounts_read (made : world.HasStore ref) (other : StoreRef) (type : String) :
    Accounts ref world (readDeeds invoke chronicler ref other type world)
      ((read invoke other type).result world) := by
  have result : (read invoke other type).result world = _ := read_result world type
  rw [readDeeds]
  dsimp only
  cases found : (world.store other).find? type with
  | none =>
    rw [found] at result
    exact accounts_section made (.inl ⟨result, rfl⟩) (.got (.unregistered found)) rfl rfl rfl
  | some entry =>
    dsimp only
    cases kept : entry.kept with
    | some held =>
      rw [found] at result
      simp only [kept] at result
      have held : (world.store other).kept? type = some held := by
        rw [kept?, found]
        exact kept
      exact accounts_section made (.inl ⟨result, rfl⟩) (.got (.kept held)) rfl rfl rfl
    | none =>
      rw [found] at result
      simp only [kept] at result
      have taken := accounts_take participants made other entry.supply
      rw [result]
      refine taken.bind fun supplied between reached made => ?_
      rw [reached] at taken
      obtain ⟨calls, stays, aside⟩ :=
        conclude_keeps ref other between type entry.scope supplied
      split
      · rename_i here
        subst here
        have known : (between.store other).scope? type = some entry.scope :=
          taken.proceeds.endures.grows.scope? (by rw [scope?, found]; rfl)
        obtain ⟨answer, later, concludes, step, -⟩ := conclude_result known supplied
        rw [Act.result_bind, reached] at result
        rw [Act.onward, result.trans concludes, concludes]
        rw [concludes] at calls stays
        exact .of_deed (.of_deed (.got step) rfl rfl (stays made) fun _ => ⟨rfl, calls⟩) rfl rfl
      · rename_i different
        exact .of_undisturbed made (aside different)

/-! ## Closes -/

omit participants in
/-- Handing over calls the participant with the instance that is kept for the type, if there is one.
-/
theorem runAction_handOver (invoke : Invoker) (world : World) (other : StoreRef)
    (container : ContainerRef) (type : String) (participant : Participant) :
    (runAction invoke other container (.handOver type participant)).result world =
      match (world.store other).kept? type with
      | some held => (invoke (.handOver participant held container)).result world
      | none => (.ok (.ok ()), world) := by
  change Act.result (match (world.store other).kept? type with
    | some held => invoke (.handOver participant held container)
    | none => return .ok () : Act (Except Failure Unit)) world = _
  cases (world.store other).kept? type <;> rfl

/-- A close action makes one call, unless there is nothing to hand over. -/
theorem runAction_cases (made : world.HasStore ref) (other : StoreRef) (container : ContainerRef)
    (action : CloseAction) :
    action.callOn (world.store other) other container = none ∧
        (runAction invoke other container action).result world = (.ok (.ok ()), world) ∨
      ∃ call, action.callOn (world.store other) other container = some call ∧
        Accounts ref (world.note (.called depth call)) (chronicler call world)
          ((runAction invoke other container action).result world) := by
  cases action with
  | handOver type participant =>
    rw [CloseAction.callOn, runAction_handOver]
    cases (world.store other).kept? type with
    | none => exact .inl ⟨rfl, rfl⟩
    | some held => exact .inr ⟨_, rfl, participants _ world made⟩
  | listener participant => exact .inr ⟨_, rfl, participants _ world made⟩

/-- An action of the close of another store is accounted for by what its participant does. -/
theorem accounts_action_of_ne (made : world.HasStore ref) {other : StoreRef}
    (different : other ≠ ref) (container : ContainerRef) (action : CloseAction) :
    Accounts ref world (actionDeeds invoke chronicler ref other container action world)
      ((runAction invoke other container action).result world) := by
  rw [actionDeeds, if_neg different, turn]
  obtain ⟨calls, passes⟩ | ⟨call, calls, nested⟩ :=
    runAction_cases participants made other container action
  · rw [calls, passes]
    exact .refl made _
  · rw [calls, Option.toList_some, List.flatMap_singleton, List.map_singleton,
      List.singleton_append]
    exact .of_call nested

/-- An action of a close is accounted for by its turn and by what its participant does in it. -/
theorem recounts_action (made : world.HasStore ref) (container : ContainerRef)
    (action : CloseAction) :
    Recounts ref world (actionDeeds invoke chronicler ref ref container action world)
      ((runAction invoke ref container action).result world) := by
  have proper : (turn invoke ref container action world).call = none →
      (turn invoke ref container action world).ending = some (.ok ()) := by
    intro passes
    obtain ⟨-, passed⟩ | ⟨call, calls, -⟩ := runAction_cases participants made ref container action
    · rw [turn, Act.answer?, passed]
      rfl
    · rw [turn, calls] at passes
      cases passes
  rw [actionDeeds, if_pos rfl]
  obtain ⟨calls, passes⟩ | ⟨call, calls, nested⟩ :=
    runAction_cases participants made ref container action
  · have here : (turn invoke ref container action world).call = none := calls
    rw [passes, here]
    exact .of_deed (.turned rfl proper) rfl rfl made fun _ => ⟨calls, rfl⟩
  · have here : (turn invoke ref container action world).call = some call := calls
    rw [here, Option.toList_some, List.flatMap_singleton, List.singleton_append]
    exact nested.toRecounts.of_call (.turned rfl proper) rfl rfl calls

/-- Once the store is closed, a close action has its turn and leads to no other. -/
theorem turns_of_action (made : world.HasStore ref) (closed : (world.store ref).closed = true)
    (container : ContainerRef) (action : CloseAction) :
    (actionDeeds invoke chronicler ref ref container action world).filterMap Deed.turn? =
        [turn invoke ref container action world] ∧
      ∀ deed ∈ actionDeeds invoke chronicler ref ref container action world,
        deed.begins = false := by
  rw [actionDeeds, if_pos rfl]
  have nested : Idle ((turn invoke ref container action world).call.toList.flatMap fun call =>
      chronicler call world) := by
    intro deed among
    obtain ⟨call, -, among⟩ := List.mem_flatMap.1 among
    exact (participants call world made).idle closed deed among
  refine ⟨?_, fun deed among => (List.mem_append.1 among).elim (fun among => ?_) fun among =>
    (nested deed among).1⟩
  · rw [List.filterMap_append, nested.turns]
    rfl
  · rw [List.mem_singleton.1 among]
    rfl

/-- The turns of a close are accounted for one after the other, up to the first that fails. -/
theorem recounts_turns (made : world.HasStore ref) (container : ContainerRef)
    (actions : List CloseAction) :
    Recounts ref world (turnDeeds invoke chronicler ref ref container actions world)
      ((untilFailure (runAction invoke ref container) actions).result world) := by
  induction actions generalizing world with
  | nil => exact .of_undisturbed made ((Undisturbed.framing ref).refl world)
  | cons action rest ih =>
    refine (recounts_action participants made container action).bind fun ended later _ made => ?_
    cases ended with
    | error => exact .of_undisturbed made ((Undisturbed.framing ref).refl later)
    | ok => exact ih made

/-- The turns of the close of another store are accounted for by what the participants do in them.
-/
theorem accounts_turns_of_ne (made : world.HasStore ref) {other : StoreRef}
    (different : other ≠ ref) (container : ContainerRef) (actions : List CloseAction) :
    Accounts ref world (turnDeeds invoke chronicler ref other container actions world)
      ((untilFailure (runAction invoke other container) actions).result world) := by
  induction actions generalizing world with
  | nil => exact .refl made _
  | cons action rest ih =>
    refine (accounts_action_of_ne participants made different container action).bind
      fun ended later _ made => ?_
    cases ended with
    | error => exact .refl made _
    | ok => exact ih made

/-- The turns after a store was closed are those of the close actions that were taken. -/
theorem course_of_turns (made : world.HasStore ref) (closed : (world.store ref).closed = true)
    (container : ContainerRef) (actions : List CloseAction) :
    Course container actions
        ((turnDeeds invoke chronicler ref ref container actions world).filterMap Deed.turn?)
        (((untilFailure (runAction invoke ref container) actions) >>= settle).answer? world) ∧
      ∀ deed ∈ turnDeeds invoke chronicler ref ref container actions world,
        deed.begins = false := by
  induction actions generalizing world with
  | nil => exact ⟨.finished, fun _ among => absurd among List.not_mem_nil⟩
  | cons action rest ih =>
    obtain ⟨turns, begins⟩ := turns_of_action participants made closed container action
    have recounts := recounts_action participants made container action
    have ending : (turn invoke ref container action world).ending =
      ((runAction invoke ref container action).result world).1.toOption := rfl
    rw [turnDeeds, List.filterMap_append, turns, Act.onward, untilFailure, bind_assoc, Act.answer?,
      Act.result_bind]
    cases reached : (runAction invoke ref container action).result world with
    | mk answer later =>
      rw [reached] at recounts ending
      have closed := (recounts.proceeds.endures.sealed closed).closed
      cases answer with
      | error abort =>
        dsimp only
        rw [List.append_nil]
        exact ⟨.unfinished rfl ending, begins⟩
      | ok ended =>
        cases ended with
        | error failure =>
          dsimp only
          rw [List.append_nil]
          exact ⟨.failed rfl ending, begins⟩
        | ok =>
          obtain ⟨course, further⟩ := ih recounts.made closed
          exact ⟨.succeeded rfl ending course, fun deed among =>
            (List.mem_append.1 among).elim (begins deed) (further deed)⟩

omit participants in
/-- Answering what a close ended with leaves every store alone. -/
theorem undisturbed_settle (ref : StoreRef) (ended : Except Failure Unit) :
    Act.Respects (Undisturbed ref) (settle ended) := by
  have framing := (Undisturbed.framing ref).framing
  cases ended with
  | ok => exact .of_pure framing _
  | error failure => exact .bind framing (.log framing _ _ _) fun _ => .of_pure framing _

/-- The close of another store is accounted for by what its participants do. -/
theorem accounts_close_of_ne (made : world.HasStore ref) {other : StoreRef}
    (different : other ≠ ref) (container : ContainerRef) :
    Accounts ref world (closeDeeds invoke chronicler ref other container world)
      (((close other container).carryOut invoke).result world) := by
  rw [closeDeeds, if_neg different, carryOut_close]
  have begun : Accounts ref world [] ((begin other).result world) := by
    refine .of_undisturbed made ?_
    rw [begin_result]
    split
    · exact (Undisturbed.framing ref).refl world
    · exact undisturbed_modifyStore different world _
  refine begun.bind fun begun later _ made => ?_
  cases begun with
  | error fault => exact .refl made _
  | ok actions =>
    exact (accounts_turns_of_ne participants made different container actions).bind_undisturbed
      (undisturbed_settle ref)

/-- The close of the store of the chronicle. -/
theorem accounts_close (made : world.HasStore ref) (container : ContainerRef) :
    Accounts ref world (closeDeeds invoke chronicler ref ref container world)
      (((close ref container).carryOut invoke).result world) := by
  have begins := begin_result world ref
  have ends := carryOut_close invoke ref container
  cases begun : (world.store ref).beginClose with
  -- A close that cannot begin is a single deed that changes nothing; one that begins is a deed and
  -- the turns of what it took.
  | error fault =>
    rw [begun] at begins
    have refused : ((close ref container).carryOut invoke).result world =
        (.ok (.error { fault }), world) := by
      rw [ends, Act.result_bind, begins]
      rfl
    rw [closeDeeds, if_pos rfl, Act.deed, Act.onward, Act.onward, begins, Act.answer?, refused]
    exact .of_deed (.of_deed (.notClosed begun) rfl rfl made fun _ => ⟨rfl, rfl⟩) rfl rfl
  | ok answer =>
    obtain ⟨actions, left⟩ := answer
    rw [begun] at begins
    obtain ⟨isOpen, shut, -⟩ := closed_of_beginClose begun
    have kept := World.store_modifyStore_self world ref (fun _ => left) made
    have there : (world.modifyStore ref fun _ => left).HasStore ref := hasStore_modifyStore made _ _
    have closed : ((world.modifyStore ref fun _ => left).store ref).closed = true := by
      rw [kept]
      exact shut
    have goesOn : ((close ref container).carryOut invoke).result world =
        (untilFailure (runAction invoke ref container) actions >>= settle).result
          (world.modifyStore ref fun _ => left) := by
      rw [ends, Act.result_bind, begins]
    obtain ⟨course, once⟩ := course_of_turns participants there closed container actions
    have turns := recounts_turns participants there container actions
    rw [closeDeeds, if_pos rfl, Act.deed, Act.onward, Act.onward, begins, Act.answer?, goesOn]
    refine ⟨?_, ?_, fun already => ?_⟩
    · have first : Recounts ref world [⟨world.store ref, .closed container (.ok actions)
          ((untilFailure (runAction invoke ref container) actions >>= settle).answer?
            (world.modifyStore ref fun _ => left)),
          (world.modifyStore ref fun _ => left).store ref⟩]
          (.ok (), world.modifyStore ref fun _ => left) := by
        refine .of_deed ?_ rfl rfl there fun _ => ⟨rfl, rfl⟩
        rw [kept]
        exact .closed begun
      exact first.append (turns.bind_undisturbed (undisturbed_settle ref))
    · exact .closing .nil course once
    · rw [isOpen] at already
      cases already

end

end BootstrapStore

/-! ## Programs -/

section

variable (participants : ∀ call world, world.HasStore ref →
  Accounts ref (world.note (.called depth call)) (chronicler call world)
    ((invoke call).result world))

include participants

/-- What lasts does, whatever a participant does. -/
theorem lasts_call (call : Call) : Act.Respects (Lasts ref) (invoke call) := fun world made =>
  have accounts := participants call world made
  ⟨accounts.made, accounts.proceeds.endures⟩

omit participants in
/-- What is done elsewhere is a single deed. -/
theorem Accounts.elsewhere {act : Act α} (made : world.HasStore ref)
    (lasts : Act.Respects (Lasts ref) act) :
    Accounts ref world [⟨world.store ref, .elsewhere, (act.result world).2.store ref⟩]
      (act.result world) :=
  have lasting := lasts world made
  .of_deed (.of_deed (.elsewhere lasting.2) rfl rfl lasting.1 fun followed => by
    cases followed) rfl rfl

/-- Every command is accounted for by its deeds. -/
theorem Command.accounts (command : Command) (made : world.HasStore ref) :
    Accounts ref world (command.deeds invoke chronicler ref world)
      ((command.carryOut invoke).result world) := by
  have framing := Undisturbed.framing ref
  have pure : ∀ {β : Type} (answer : β), Act.Respects (Undisturbed ref) (pure answer : Act β) :=
    fun answer => .of_pure framing.framing answer
  cases command with
  | register other type supplier ifAbsent =>
    exact (BootstrapStore.accounts_register made other type supplier ifAbsent).bind_undisturbed
      fun _ => pure _
  | listen other participant =>
    exact (BootstrapStore.accounts_listen made other participant).bind_undisturbed fun _ => pure _
  | read other type =>
    exact (BootstrapStore.accounts_read participants made other type).bind_undisturbed
      fun _ => pure _
  | readOr other type value =>
    refine Accounts.bind_undisturbed ?_ fun _ => pure _
    refine (BootstrapStore.accounts_read participants made other type).bind_undisturbed
      fun answer => ?_
    split
    · exact .bind framing.framing (.of_stores framing (fun _ => rfl) fun _ => rfl) fun _ => pure _
    · exact pure _
  | closeStore other held =>
    refine Accounts.bind_undisturbed ?_ fun _ => pure _
    by_cases here : other = ref
    · subst here
      exact BootstrapStore.accounts_close participants made held
    · exact BootstrapStore.accounts_close_of_ne participants made here held
  | mapFailure mapper failure => exact .of_call (participants _ world made)
  | publish | refresh | close | onClose | load | callRunner | resolveExitCode | exit
  | registerContainer | trigger | attemptTrigger | render | run =>
    have lasts := lasts_call participants
    exact .elsewhere made (Command.respects_of_busy ((Lasts.framing ref).running lasts) rfl rfl)
  | _ => exact .of_undisturbed made (Command.respects_of_quiet framing rfl rfl world)

/-- Every program is accounted for by the deeds of its commands. -/
theorem Program.accounts (program : Program α) (made : world.HasStore ref) :
    Accounts ref world (program.deeds invoke chronicler ref world)
      ((program.carryOut invoke).result world) := by
  induction program generalizing world with
  | done answer => exact .refl made answer
  | panic message => exact .of_undisturbed made ((Undisturbed.framing ref).refl world)
  | perform command next ih =>
    exact (Command.accounts participants command made).bind fun answer _ _ made => ih answer made

end

/-- Whatever participants do, what a call does to a store and to whom it hands instances is in the
chronicle of the call, however deep the calls are nested. -/
theorem Behaviour.accounts (behaviour : Behaviour) (ref : StoreRef) (limit depth : Nat)
    (call : Call) (world : World) (made : world.HasStore ref) :
    Accounts ref (world.note (.called depth call)) (behaviour.chronicler ref limit depth call world)
      ((behaviour.invoker limit depth call).result world) := by
  induction limit generalizing depth call world with
  | zero => exact ⟨⟨made, .nil ref _, fun _ ended => by cases ended⟩, .idle .nil, fun _ => .nil⟩
  | succ limit ih =>
    have there : (world.note (.called depth call)).HasStore ref := made
    have answered : ∀ answer : call.Answer, Act.Respects (Undisturbed ref) (do
        Behaviour.note (.answered depth (call.failure? answer))
        return answer) := by
      intro answer world
      refine ⟨id, rfl, ?_⟩
      change (world.note _).calls = world.calls
      rw [World.calls_note]
      exact List.append_nil _
    exact (Program.accounts (ih (depth + 1)) (behaviour call) there).bind_undisturbed answered

end Launchpad
