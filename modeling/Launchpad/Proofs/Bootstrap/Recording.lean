import Launchpad.Proofs.Bootstrap.Conduct

/-!
# A history is what happens to the store

Whatever a participant does, the events of its history are a course of gets that leads from the
store that it finds to the store that it leaves. If it comes to its end, every get has as many
answers as supplier calls, and the supplier calls in the history are those in the record of calls.
-/

namespace Launchpad

open BootstrapStore (Event Origin Passes Step)

variable {α β : Type}

namespace BootstrapStore.Event

/-- Whether an event is a call of the supplier of a type. -/
def calls (type : String) : Event → Bool
  | called other _ => other = type
  | _ => false

/-- Whether an event is the end of a get for which the supplier of a type was called. -/
def returns (type : String) : Event → Bool
  | got other .supplier _ => other = type
  | _ => false

/-- The participant that an event calls. -/
def supplier? : Event → Option Participant
  | called _ (.custom participant) => some participant
  | _ => none

/-- Every supplier call is answered. -/
def Balanced (events : List Event) : Prop :=
  ∀ type, events.countP (calls type) = events.countP (returns type)

/-- Supplier calls that are all answered, followed by such calls. -/
theorem Balanced.append {first second : List Event} (start : Balanced first)
    (rest : Balanced second) : Balanced (first ++ second) := fun type => by
  rw [List.countP_append, List.countP_append, start type, rest type]

end BootstrapStore.Event

/-- The supplier of a store that a line in the record of calls is about. -/
def JournalEntry.supplier? (ref : StoreRef) : JournalEntry → Option Participant
  | called _ (.supply participant store) => if store = ref then some participant else none
  | _ => none

/-- The suppliers of a store that were called, in order. -/
def World.suppliers (ref : StoreRef) (world : World) : List Participant :=
  world.journal.toList.filterMap (JournalEntry.supplier? ref)

/-- One entry of the journal adds at most one supplier to those that a store called. -/
theorem World.suppliers_note (world : World) (entry : JournalEntry) (ref : StoreRef) :
    (world.note entry).suppliers ref = world.suppliers ref ++ (entry.supplier? ref).toList := by
  unfold suppliers note
  cases here : entry.supplier? ref <;> simp [List.filterMap_append, here]

/-- Events are what an operation does to a store. -/
structure Tracks (ref : StoreRef) (before : World) (events : List Event)
    (result : Except Abort α × World) : Prop where
  passes : Passes (before.store ref) events (result.2.store ref)
  balanced : ∀ answer, result.1 = .ok answer → Event.Balanced events
  suppliers : ∀ answer, result.1 = .ok answer → .elsewhere ∉ events →
    result.2.suppliers ref = before.suppliers ref ++ events.filterMap Event.supplier?

/-- A store only settles, and no supplier of it is called. -/
structure Calm (ref : StoreRef) (before after : World) : Prop where
  settles : (before.store ref).Settles (after.store ref)
  suppliers : after.suppliers ref = before.suppliers ref

/-- A store grows. -/
def Thrives (ref : StoreRef) (before after : World) : Prop :=
  (before.store ref).Grows (after.store ref)

/-- When one store of a world settles, every store of the world does, the others by staying as they
are. -/
theorem settles_modifyStore (world : World) (ref other : StoreRef) {after : BootstrapStore}
    (settles : (world.store other).Settles after) :
    (world.store ref).Settles ((world.modifyStore other fun _ => after).store ref) := by
  rw [World.store_modifyStore]
  split
  · rename_i here
    rw [here.1]
    exact settles
  · exact .refl _

/-- Records, new stores and the sections of a store other than the end of a get are calm. -/
theorem Calm.framing (ref : StoreRef) : RegistryFraming (Calm ref) where
  refl world := ⟨.refl _, rfl⟩
  trans start rest := ⟨start.settles.trans rest.settles, rest.suppliers.trans start.suppliers⟩
  aside {before after} stores journal := by
    constructor
    · rw [World.store, World.store, stores]
      exact .refl _
    · rw [World.suppliers, World.suppliers, journal]
  make world := ⟨by rw [World.store_of_added]; exact .refl _, rfl⟩
  advance world other after advances :=
    ⟨settles_modifyStore world ref other advances.settles, rfl⟩

/-- Records, new stores and the sections of a store other than the end of a get let stores grow. -/
theorem Thrives.framing (ref : StoreRef) : RegistryFraming (Thrives ref) where
  refl world := .refl _
  trans start rest := start.trans rest
  aside {before after} stores _ := by
    rw [Thrives, World.store, World.store, stores]
    exact .refl _
  make world := by
    rw [Thrives, World.store_of_added]
    exact .refl _
  advance world other after advances :=
    .of_settles (settles_modifyStore world ref other advances.settles)

namespace Tracks

variable {ref : StoreRef} {world : World} {events : List Event}

/-- What leaves the store and its suppliers alone adds no event to a history. -/
theorem of_calm {result : Except Abort α × World} (calm : Calm ref world result.2) :
    Tracks ref world [] result where
  passes := .nil calm.settles
  balanced _ _ _ := rfl
  suppliers _ _ _ := by rw [calm.suppliers, List.filterMap_nil, List.append_nil]

/-- Of what is not followed event by event the history says that something happened elsewhere. -/
theorem of_thrives {result : Except Abort α × World} (thrives : Thrives ref world result.2) :
    Tracks ref world [.elsewhere] result where
  passes := .of_step (.elsewhere thrives)
  balanced _ _ _ := rfl
  suppliers _ _ followed := absurd List.mem_cons_self followed

/-- What is broken off has no answer, so only the passage of the store matters. -/
theorem of_broken {before between : World} {abort : Abort}
    (passes : Passes (before.store ref) events (between.store ref)) :
    Tracks ref before events ((.error abort, between) : Except Abort α × World) :=
  ⟨passes, nofun, nofun⟩

theorem refl (answer : α) (world : World) : Tracks ref world [] (.ok answer, world) :=
  .of_calm ((Calm.framing ref).refl world)

/-- A store that is tracked only ever gains registrations and instances. -/
theorem thrives {result : Except Abort α × World} (tracks : Tracks ref world events result) :
    Thrives ref world result.2 := tracks.passes.grows

/-- Putting the answer differently changes nothing that is tracked. -/
theorem map {act : Act α} {before : World} (tracks : Tracks ref before events (act.result world))
    (change : α → β) : Tracks ref before events ((do return change (← act)).result world) := by
  rw [Act.result_bind]
  cases reached : act.result world with
  | mk answer between =>
    rw [reached] at tracks
    cases answer with
    | error abort => exact .of_broken tracks.passes
    | ok value =>
      exact ⟨tracks.passes, fun _ _ => tracks.balanced value rfl,
        fun _ _ => tracks.suppliers value rfl⟩

/-- The history of one operation, and of the other in the world that the first has left, is that of
both. -/
theorem bind {act : Act α} {next : α → Act β} {before : World} {rest : α → World → List Event}
    (first : Tracks ref before events (act.result world))
    (second : ∀ answer later, act.result world = (.ok answer, later) →
      Tracks ref later (rest answer later) ((next answer).result later)) :
    Tracks ref before (events ++ act.onward world rest) ((act >>= next).result world) := by
  rw [Act.result_bind, Act.onward]
  cases reached : act.result world with
  | mk answer between =>
    rw [reached] at first
    cases answer with
    | error abort =>
      rw [List.append_nil]
      exact .of_broken first.passes
    | ok value =>
      have second := second value between reached
      refine ⟨first.passes.trans second.passes, fun answer ended => ?_,
        fun answer ended followed => ?_⟩
      · exact (first.balanced value rfl).append (second.balanced answer ended)
      · rw [List.mem_append, not_or] at followed
        rw [second.suppliers answer ended followed.2, first.suppliers value rfl followed.1,
          List.append_assoc, List.filterMap_append]

/-- One operation after the other, of which the second is quiet. -/
theorem bind_calm {act : Act α} {next : α → Act β} {before : World}
    (first : Tracks ref before events (act.result world))
    (calm : ∀ answer, Act.Respects (Calm ref) (next answer)) :
    Tracks ref before events ((act >>= next).result world) := by
  have both := first.bind (fun answer later _ => of_calm (calm answer later))
  rwa [Act.onward_nil, List.append_nil] at both

/-- Noting a call that is none of a supplier of the store is not an event. -/
theorem of_note {entry : JournalEntry} {result : Except Abort α × World}
    (other : entry.supplier? ref = none)
    (tracks : Tracks ref (world.note entry) events result) : Tracks ref world events result where
  passes := tracks.passes
  balanced := tracks.balanced
  suppliers answer ended followed := by
    rw [tracks.suppliers answer ended followed, World.suppliers_note, other]
    simp

end Tracks

section

variable {invoke : Invoker} {scribe : Recorder Event} {ref : StoreRef} {depth : Nat}

/-- The record of calls once a supplier is called. -/
def Supply.note (depth : Nat) (ref : StoreRef) (world : World) : Supply → World
  | .existing _ => world
  | .custom participant => world.note (.called depth (.supply participant ref))

/-- Noting the call of a supplier in the journal changes no store. -/
theorem Supply.store_note (depth : Nat) (other : StoreRef) (world : World) (supply : Supply) :
    (supply.note depth other world).store ref = world.store ref := by
  cases supply <;> rfl

/-- A supplier call in the record of calls is one in the history. -/
theorem Supply.suppliers_note (supply : Supply) (type : String) (world : World) :
    (supply.note depth ref world).suppliers ref =
      world.suppliers ref ++ (Event.called type supply).supplier?.toList := by
  cases supply with
  | existing => exact (List.append_nil _).symm
  | custom participant =>
    rw [note, World.suppliers_note]
    simp [JournalEntry.supplier?, Event.supplier?]

/-- A supplier call of another store is none of this one. -/
theorem Supply.suppliers_note_of_ne {other : StoreRef} (different : other ≠ ref) (supply : Supply)
    (world : World) : (supply.note depth other world).suppliers ref = world.suppliers ref := by
  cases supply with
  | existing => rfl
  | custom participant =>
    rw [note, World.suppliers_note]
    simp [JournalEntry.supplier?, different]

namespace BootstrapStore

/-- How a get ends once its supplier has answered. -/
def conclude (ref : StoreRef) (type : String) (scope : Scope) :
    Except Failure BootstrapInstance → Act (Except BootstrapError BootstrapInstance)
  | .error failure => return .error ((BootstrapFault.supplier type).dueTo failure)
  | .ok made =>
    match scope with
    | .prototype => return .ok made
    | .singleton => do
      Act.modifyStore ref (·.keep type made)
      return .ok (((← Act.store ref).kept? type).getD made)

/-- A get finds no entry, or what the entry keeps, or it calls the supplier of the entry. -/
theorem read_result (world : World) (type : String) :
    (read invoke ref type).result world =
      match (world.store ref).find? type with
      | none => (.ok (.error { fault := .notRegistered type }), world)
      | some entry =>
        match entry.kept with
        | some held => (.ok (.ok held), world)
        | none =>
          (take invoke ref entry.supply >>= conclude ref type entry.scope).result world := by
  change ((match (world.store ref).find? type with
    | none => return .error { fault := .notRegistered type }
    | some entry =>
      match entry.kept with
      | some held => return .ok held
      | none => do
        match ← take invoke ref entry.supply with
        | .error failure => return .error ((BootstrapFault.supplier type).dueTo failure)
        | .ok made =>
          match entry.scope with
          | .prototype => return .ok made
          | .singleton =>
            Act.modifyStore ref (·.keep type made)
            return .ok (((← Act.store ref).kept? type).getD made) :
      Act (Except BootstrapError BootstrapInstance)).result world) = _
  cases (world.store ref).find? type with
  | none => rfl
  | some entry =>
    dsimp only
    cases entry.kept with
    | some held => rfl
    | none =>
      dsimp only
      rw [Act.result_bind, Act.result_bind]
      generalize (take invoke ref entry.supply).result world = reached
      obtain ⟨abort | failure | made, between⟩ := reached
      · rfl
      · rfl
      · rfl

/-- A get that had its supplier called comes to its end. -/
theorem conclude_result {world : World} {type : String} {scope : Scope}
    (known : (world.store ref).scope? type = some scope)
    (supplied : Except Failure BootstrapInstance) :
    ∃ answer later, (conclude ref type scope supplied).result world = (.ok answer, later) ∧
      Step (world.store ref) (.got type .supplier answer) (later.store ref) ∧
      later.suppliers ref = world.suppliers ref := by
  have registered : (world.store ref).isRegistered type = true := by
    rw [scope?] at known
    rw [isRegistered, ← Option.isSome_map, known]
    rfl
  cases supplied with
  | error failure => exact ⟨_, world, rfl, .failed registered, rfl⟩
  | ok made =>
    cases scope with
    | prototype => exact ⟨_, world, rfl, .made known, rfl⟩
    | singleton =>
      have there : ref.index < world.stores.length := Nat.lt_of_not_le fun unmade => by
        rw [World.store, List.getElem?_eq_none unmade] at registered
        cases registered
      refine ⟨_, world.modifyStore ref (·.keep type made), rfl, ?_, rfl⟩
      change Step _ (.got type .supplier
        (.ok ((((world.modifyStore ref (·.keep type made)).store ref).kept? type).getD made))) _
      rw [World.store_modifyStore_self _ _ _ there]
      refine .shared known ?_
      rw [kept?_keep made registered]
      rfl

section

variable (participants : ∀ call world,
  Tracks ref (world.note (.called depth call)) (scribe call world) ((invoke call).result world))

include participants

/-- Taking an instance from its supply is tracked by the supply's own history, the nested calls of
the supplier included. -/
theorem tracks_take (other : StoreRef) (supply : Supply) (world : World) :
    Tracks ref (supply.note depth other world) (supply.history scribe other world)
      ((take invoke other supply).result world) := by
  cases supply with
  | existing held => exact .refl _ world
  | custom participant =>
    refine (participants _ world).bind_calm fun supplied => ?_
    have framing := (Calm.framing ref).toStoreFraming
    cases supplied with
    | error failure => exact .of_pure framing.framing _
    | ok value =>
      exact .bind framing.framing (.of_stores framing (fun _ => rfl) fun _ => rfl) fun _ =>
        .of_pure framing.framing _

/-- A get from another store is tracked by what its supplier does. -/
theorem tracks_read_of_ne {other : StoreRef} (different : other ≠ ref) (type : String)
    (world : World) :
    Tracks ref world (readHistory invoke scribe ref other type world)
      ((read invoke other type).result world) := by
  rw [read_result, readHistory]
  simp only [if_neg different, List.nil_append, List.append_nil]
  cases (world.store other).find? type with
  | none => exact .refl _ world
  | some entry =>
    dsimp only
    cases entry.kept with
    | some held => exact .refl _ world
    | none =>
      have taken := tracks_take participants other entry.supply world
      have quiet : ∀ supplied,
          Act.Respects (Calm ref) (conclude other type entry.scope supplied) := by
        intro supplied
        have framing := (Calm.framing ref).toStoreFraming
        cases supplied with
        | error failure => exact .of_pure framing.framing _
        | ok made =>
          cases entry.scope with
          | prototype => exact .of_pure framing.framing _
          | singleton =>
            refine .bind framing.framing (fun world => ?_) fun _ =>
              .look framing.framing (fun _ => rfl) fun _ => .of_pure framing.framing _
            refine ⟨?_, rfl⟩
            rw [Act.result_modifyStore, World.store_modifyStore,
              if_neg fun both => different both.1.symm]
            exact .refl _
      have concluded := taken.bind_calm quiet
      refine ⟨?_, concluded.balanced, fun answer ended followed => ?_⟩
      · rw [← Supply.store_note depth other world entry.supply]
        exact concluded.passes
      · rw [concluded.suppliers answer ended followed, Supply.suppliers_note_of_ne different]

/-- A get from the store of the history that calls the supplier. -/
theorem tracks_read_of_unkept {type : String} {world : World} {entry : BootstrapEntry}
    (found : (world.store ref).find? type = some entry) (unkept : entry.kept = none) :
    Tracks ref world
      (.called type entry.supply :: (entry.supply.history scribe ref world ++
        (read invoke ref type).onward world fun answer _ => [.got type .supplier answer]))
      ((read invoke ref type).result world) := by
  have result : (read invoke ref type).result world = _ := read_result world type
  rw [found] at result
  simp only [unkept] at result
  rw [Act.result_bind] at result
  have taken := tracks_take participants ref entry.supply world
  have called : Passes (world.store ref) [.called type entry.supply] (world.store ref) :=
    .of_step (.called found unkept)
  rw [Act.onward]
  cases reached : (take invoke ref entry.supply).result world with
  | mk supplied between =>
    rw [reached] at result taken
    have first := taken.passes
    rw [Supply.store_note] at first
    cases supplied with
    | error abort =>
      rw [result, List.append_nil]
      exact .of_broken (called.trans first)
    | ok supplied =>
      have known : (between.store ref).scope? type = some entry.scope :=
        first.grows.scope? (by rw [scope?, found]; rfl)
      -- The scope is looked up again after the call, and is the same whatever the supplier did in
      -- the meantime.
      obtain ⟨answer, later, concludes, step, suppliers⟩ := conclude_result known supplied
      replace result := result.trans concludes
      rw [result]
      refine ⟨called.trans (first.trans (.of_step step)), fun _ _ other => ?_,
        fun _ _ followed => ?_⟩
      · have nested := taken.balanced supplied rfl other
        by_cases same : type = other <;>
          simp [Event.calls, Event.returns, nested, same]
      · have among : .elsewhere ∉ entry.supply.history scribe ref world := fun among =>
          followed (List.mem_cons_of_mem _ (List.mem_append_left _ among))
        have nested := taken.suppliers supplied rfl among
        rw [Supply.suppliers_note entry.supply type] at nested
        have here : [Event.called type entry.supply].filterMap Event.supplier? =
            (Event.called type entry.supply).supplier?.toList := by
          cases entry.supply <;> rfl
        have ends : [Event.got type .supplier answer].filterMap Event.supplier? = [] := rfl
        rw [suppliers, nested, ← List.singleton_append, List.filterMap_append, here,
          List.filterMap_append, ends, List.append_nil, List.append_assoc]

/-- A get from the store of the history is tracked, whether or not the instance is kept. -/
theorem tracks_read (type : String) (world : World) :
    Tracks ref world (readHistory invoke scribe ref ref type world)
      ((read invoke ref type).result world) := by
  have result : (read invoke ref type).result world = _ := read_result world type
  rw [readHistory]
  cases found : (world.store ref).find? type with
  | none =>
    rw [found] at result
    simp only [if_true]
    rw [Act.onward, result]
    exact ⟨.of_step (.unregistered found), fun _ _ _ => rfl, fun _ _ _ => (List.append_nil _).symm⟩
  | some entry =>
    cases kept : entry.kept with
    | none =>
      simp only [if_true, kept]
      exact tracks_read_of_unkept participants found kept
    | some held =>
      rw [found] at result
      simp only [kept] at result
      simp only [if_true, kept]
      rw [Act.onward, result]
      have kept : (world.store ref).kept? type = some held := by
        rw [kept?, found]
        exact kept
      exact ⟨.of_step (.kept kept), fun _ _ _ => rfl, fun _ _ _ => (List.append_nil _).symm⟩

/-- A get from any store is tracked. -/
theorem tracks_readFrom (other : StoreRef) (type : String) (world : World) :
    Tracks ref world (readHistory invoke scribe ref other type world)
      ((read invoke other type).result world) := by
  by_cases same : other = ref
  · subst same
    exact tracks_read participants type world
  · exact tracks_read_of_ne participants same type world

/-- Reading a type, with a value to fall back on, is tracked by the history of the read. -/
theorem tracks_readOr (other : StoreRef) (type : String) (value : Value) (world : World) :
    Tracks ref world (readHistory invoke scribe ref other type world)
      ((readOr invoke other type value).result world) := by
  refine (tracks_readFrom participants other type world).bind_calm fun answer => ?_
  have framing := (Calm.framing ref).toStoreFraming
  split
  · exact .bind framing.framing (.of_stores framing (fun _ => rfl) fun _ => rfl) fun _ =>
      .of_pure framing.framing _
  · exact .of_pure framing.framing _

end

end BootstrapStore

section

variable (participants : ∀ call world,
  Tracks ref (world.note (.called depth call)) (scribe call world) ((invoke call).result world))

include participants

/-- A call that is none of a supplier of the store is tracked by what the participant does. -/
theorem tracks_call {call : Call} (other : (JournalEntry.called depth call).supplier? ref = none)
    (world : World) : Tracks ref world (scribe call world) ((invoke call).result world) :=
  (participants call world).of_note other

/-- Whatever a participant does, the store grows. -/
theorem thrives_call (call : Call) : Act.Respects (Thrives ref) (invoke call) :=
  fun world => (participants call world).thrives

/-- An action that a closing store runs is tracked by what it conducts. -/
theorem BootstrapStore.tracks_runAction (store : StoreRef) (container : ContainerRef)
    (action : CloseAction) (world : World) :
    Tracks ref world ((action.conduct world store container).history scribe world)
      ((runAction invoke store container action).result world) := by
  cases action with
  | handOver type participant =>
    change Tracks ref world _ ((match (world.store store).kept? type with
      | some held => invoke (.handOver participant held container)
      | none => return .ok () : Act (Except Failure Unit)).result world)
    rw [CloseAction.conduct]
    cases (world.store store).kept? type with
    | some held => exact tracks_call participants rfl world
    | none => exact .refl _ world
  | listener participant => exact tracks_call participants rfl world

/-- Every errand is tracked by what it conducts. -/
theorem Errand.tracks (errand : Errand) (world : World) :
    Tracks ref world ((errand.conduct world).history scribe world)
      ((errand.carryOut invoke).result world) := by
  cases errand with
  | beginCloseStore store =>
    exact .of_calm (BootstrapStore.respects_begin (Calm.framing ref) store world)
  | log level message fields =>
    exact .of_calm (Act.Respects.log (Calm.framing ref).framing level message fields world)
  | runCloseAction store container action =>
    exact BootstrapStore.tracks_runAction participants store container action world
  | _ =>
    exact .of_thrives
      (((Thrives.framing ref).running (thrives_call participants)).respects_errand _ world)

/-- Every plan is tracked by the histories of its errands, one after the other. -/
theorem Plan.tracks (plan : Plan α) (world : World) :
    Tracks ref world (plan.history invoke scribe world) ((plan.carryOut invoke).result world) := by
  induction plan generalizing world with
  | done answer => exact .refl answer world
  | perform errand next ih =>
    exact (Errand.tracks participants errand world).bind fun answer later _ => ih answer later

/-- A command that calls participants in the course of something else. -/
theorem Command.thrives_of_busy {command : Command} (busy : command.conduct = .busy) :
    Act.Respects (Thrives ref) (command.carryOut invoke) := by
  cases reads : command.isRead with
  | false =>
    exact Command.respects_of_busy ((Thrives.framing ref).running (thrives_call participants)) busy
      reads
  | true =>
    cases command with
    | read other type =>
      exact fun world =>
        ((BootstrapStore.tracks_readFrom participants other type world).map _).thrives
    | readOr other type value =>
      exact fun world =>
        ((BootstrapStore.tracks_readOr participants other type value world).map _).thrives
    | _ => cases reads

omit participants in
/-- A command that calls nobody is calm. -/
theorem Command.calm_of_quiet {command : Command} (quiet : command.conduct = .quiet) :
    Act.Respects (Calm ref) (command.carryOut invoke) := by
  have framing := Calm.framing ref
  cases registers : command.isRegistration with
  | false => exact Command.respects_of_quiet framing.toStoreFraming quiet registers
  | true =>
    cases command with
    | register other type supplier ifAbsent =>
      exact .bind framing.framing
        (BootstrapStore.respects_register framing other type supplier ifAbsent) fun _ =>
          .of_pure framing.framing _
    | listen other participant =>
      exact .bind framing.framing (BootstrapStore.respects_listen framing other participant)
        fun _ => .of_pure framing.framing _
    | _ => cases registers

/-- The history of a command is what it does to the store. -/
theorem Command.tracks (command : Command) (world : World) :
    Tracks ref world (command.history invoke scribe ref world)
      ((command.carryOut invoke).result world) := by
  cases command with
  | read other type =>
    exact (BootstrapStore.tracks_readFrom participants other type world).map _
  | readOr other type value =>
    exact (BootstrapStore.tracks_readOr participants other type value world).map _
  | closeStore other held =>
    exact (Plan.tracks participants (BootstrapStore.close other held) world).map _
  | mapFailure mapper failure => exact tracks_call participants rfl world
  | publish | refresh | close | onClose | load | callRunner | resolveExitCode | exit
  | registerContainer | trigger | attemptTrigger | render | run =>
    exact .of_thrives (Command.thrives_of_busy participants rfl world)
  | _ => exact .of_calm (Command.calm_of_quiet rfl world)

/-- The history of a program is what it does to the store. -/
theorem Program.tracks (program : Program α) (world : World) :
    Tracks ref world (program.history invoke scribe ref world)
      ((program.carryOut invoke).result world) := by
  induction program generalizing world with
  | done answer => exact .refl answer world
  | panic message => exact .of_calm ((Calm.framing ref).refl world)
  | perform command next ih =>
    exact (Command.tracks participants command world).bind fun answer later _ => ih answer later

end

/-- A line in the record of calls that is about no supplier. -/
theorem calm_note {ref : StoreRef} {entry : JournalEntry} (other : entry.supplier? ref = none)
    (answer : α) : Act.Respects (Calm ref) (do
      Behaviour.note entry
      return answer) := by
  refine fun world => ⟨.refl _, ?_⟩
  change (world.note entry).suppliers ref = world.suppliers ref
  rw [World.suppliers_note, other]
  simp

/-- Whatever participants do, what a call does to a store is in the history that its scribe writes,
however deep the calls are nested. -/
theorem Behaviour.tracks (behaviour : Behaviour) (ref : StoreRef) (limit depth : Nat) (call : Call)
    (world : World) :
    Tracks ref (world.note (.called depth call)) (behaviour.scribe ref limit depth call world)
      ((behaviour.invoker limit depth call).result world) := by
  induction limit generalizing depth call world with
  | zero => exact ⟨.nil (.refl _), nofun, nofun⟩
  | succ limit ih =>
    have answered : ∀ answer : call.Answer,
        (JournalEntry.answered depth (call.failure? answer)).supplier? ref = none := fun _ => rfl
    exact (Program.tracks (ih (depth + 1)) (behaviour call)
      (world.note (.called depth call))).bind_calm fun answer => calm_note (answered answer) answer

end

/-! ## Participants that use nothing but stores -/

/-- Whether the calls to participants in the course of a command are followed. -/
def Command.isFollowed : Command → Bool
  | read .. | readOr .. | closeStore .. => true
  | command =>
    match command.conduct with
    | .busy => false
    | _ => true

/-- A program whose commands are followed. -/
def Program.Followed : Program α → Prop
  | done _ => True
  | panic _ => True
  | perform command next => command.isFollowed = true ∧ ∀ answer, (next answer).Followed

/-- A plan of errands that are followed. -/
def Plan.Followed : Plan α → Prop
  | done _ => True
  | perform errand next =>
    (∀ world, errand.conduct world ≠ .busy) ∧ ∀ answer, (next answer).Followed

namespace Plan.Followed

/-- A plan whose parts are all followed is followed. -/
theorem bind {plan : Plan α} {next : α → Plan β} (first : plan.Followed)
    (rest : ∀ answer, (next answer).Followed) : (plan >>= next).Followed := by
  induction plan with
  | done answer => exact rest answer
  | perform errand goesOn ih => exact ⟨first.1, fun answer => ih answer (first.2 answer)⟩

/-- An errand that makes at most one call is followed. -/
theorem ask {errand : Errand} (followed : ∀ world, errand.conduct world ≠ .busy) :
    (Plan.ask errand).Followed := ⟨followed, fun _ => trivial⟩

/-- A loop over calls that are followed is followed. -/
theorem untilFailure {ε : Type} {call : α → Plan (Except ε Unit)}
    (each : ∀ item, (call item).Followed) (items : List α) :
    (Launchpad.untilFailure call items).Followed := by
  induction items with
  | nil => trivial
  | cons item rest ih =>
    refine (each item).bind fun answer => ?_
    cases answer with
    | error => trivial
    | ok => exact ih

end Plan.Followed

/-- The close of a store is followed. -/
theorem BootstrapStore.followed_close (store : StoreRef) (container : ContainerRef) :
    (BootstrapStore.close store container).Followed := by
  have action : ∀ action : CloseAction, ∀ world,
      (Errand.runCloseAction store container action).conduct world ≠ .busy := by
    intro action world
    cases action with
    | handOver type participant =>
      rw [Errand.conduct, CloseAction.conduct]
      split <;> nofun
    | listener participant => nofun
  refine .bind (.ask fun _ => nofun) fun begun => ?_
  cases begun with
  | error fault => trivial
  | ok actions =>
    refine .bind (.untilFailure (fun each => .ask (action each)) actions) fun ended => ?_
    cases ended with
    | ok => trivial
    | error failure => exact .bind (.ask fun _ => nofun) fun _ => trivial

section

variable {invoke : Invoker} {scribe : Recorder Event} {ref : StoreRef}

/-- An operation that goes on to what is followed leaves no gap in the history. -/
theorem not_elsewhere_onward {act : Act α} {world : World} {rest : α → World → List Event}
    (followed : ∀ answer later, .elsewhere ∉ rest answer later) :
    .elsewhere ∉ act.onward world rest := by
  rw [Act.onward]
  split
  · exact followed _ _
  · exact List.not_mem_nil

variable (followed : ∀ call world, .elsewhere ∉ scribe call world)

include followed

/-- What makes at most one call leaves no gap in the history. -/
theorem Conduct.not_elsewhere {conduct : Conduct} (idle : conduct ≠ .busy) (world : World) :
    .elsewhere ∉ conduct.history scribe world := by
  cases conduct with
  | quiet => exact List.not_mem_nil
  | calls call => exact followed call world
  | busy => exact absurd rfl idle

/-- A plan that is followed leaves no gap in the history. -/
theorem Plan.not_elsewhere {plan : Plan α} (planned : plan.Followed) (world : World) :
    .elsewhere ∉ plan.history invoke scribe world := by
  induction plan generalizing world with
  | done answer => exact List.not_mem_nil
  | perform errand next ih =>
    rw [Plan.history, List.mem_append, not_or]
    exact ⟨Conduct.not_elsewhere followed (planned.1 world) world,
      not_elsewhere_onward fun answer later => ih answer (planned.2 answer) later⟩

/-- A read leaves no gap in the history. -/
theorem BootstrapStore.not_elsewhere_of_read (other : StoreRef) (type : String) (world : World) :
    .elsewhere ∉ readHistory invoke scribe ref other type world := by
  have ends : ∀ origin, Event.elsewhere ∉ (if other = ref then
      (read invoke other type).onward world fun answer _ => [.got type origin answer] else []) := by
    intro origin
    split
    · exact not_elsewhere_onward fun _ _ => by simp
    · exact List.not_mem_nil
  have supplies : ∀ supply : Supply, .elsewhere ∉ supply.history scribe other world := by
    intro supply
    cases supply with
    | existing => exact List.not_mem_nil
    | custom participant => exact followed _ world
  rw [readHistory]
  dsimp only
  split
  · exact ends .nowhere
  · split
    · exact ends .store
    · rw [List.mem_append, List.mem_append, not_or, not_or]
      refine ⟨⟨?_, supplies _⟩, ends .supplier⟩
      split <;> simp

/-- A command that is followed leaves no gap in the history. -/
theorem Command.not_elsewhere {command : Command} (commanded : command.isFollowed = true)
    (world : World) : .elsewhere ∉ command.history invoke scribe ref world := by
  cases command with
  | read other type | readOr other type =>
    exact BootstrapStore.not_elsewhere_of_read followed other type world
  | closeStore other held =>
    exact Plan.not_elsewhere followed (BootstrapStore.followed_close other held) world
  | mapFailure mapper failure => exact followed _ world
  | publish | refresh | close | onClose | load | callRunner | resolveExitCode | exit
  | registerContainer | trigger | attemptTrigger | render | run => cases commanded
  | _ => exact List.not_mem_nil

/-- A program that is followed leaves no gap in the history. -/
theorem Program.not_elsewhere {program : Program α} (programmed : program.Followed)
    (world : World) :
    .elsewhere ∉ program.history invoke scribe ref world := by
  induction program generalizing world with
  | done | panic => exact List.not_mem_nil
  | perform command next ih =>
    rw [Program.history, List.mem_append, not_or]
    exact ⟨Command.not_elsewhere followed programmed.1 world,
      not_elsewhere_onward fun answer later => ih answer (programmed.2 answer) later⟩

end

/-- If all participants use nothing but stores, everything is followed. -/
theorem Behaviour.not_elsewhere {behaviour : Behaviour}
    (followed : ∀ call, (behaviour call).Followed) (ref : StoreRef) (limit depth : Nat)
    (call : Call) (world : World) : .elsewhere ∉ behaviour.scribe ref limit depth call world := by
  induction limit generalizing depth call world with
  | zero => exact List.not_mem_nil
  | succ limit ih => exact Program.not_elsewhere (ih (depth + 1)) (followed call) _

end Launchpad
