import Launchpad.Proofs.Bootstrap.Closure
import Launchpad.Proofs.Bootstrap.Sharing

/-!
# Instances that are handed over

A type may be registered with a participant that its instance is handed to when the store is closed.
What the participant gets follows from the gets that ended before its turn, in the course of the
same close or earlier: a store keeps the instance of a shared type that was got first, and nothing
of a type that is not shared. So the participant of a shared type is called exactly if an instance
was got by then, and the participant of a type that is not shared never is.
-/

namespace Launchpad

open BootstrapStore (Deed Turn Unbroken)

variable {α : Type}

namespace BootstrapStore

/-! ## What gets leave in a store -/

/-- The instance of a type that was got, as far as a deed tells: by a get that ends, or while deeds
were not followed, after which it is kept. -/
def Deed.gets? (type : String) (deed : Deed) : Option BootstrapInstance :=
  match deed.doing with
  | .got other _ (.ok held) => if other = type then some held else none
  | .elsewhere => deed.left.kept? type
  | _ => none

/-- The instance of a type that was got first. -/
def firstGot (type : String) (deeds : List Deed) : Option BootstrapInstance :=
  deeds.findSome? (Deed.gets? type)

variable {before after : BootstrapStore} {deeds : List Deed} {deed : Deed} {ref : StoreRef}
  {type : String} {container : ContainerRef} {actions : List CloseAction} {turns : List Turn}
  {ending : Option (Except BootstrapError Unit)}

/-- The end of a get keeps what it answers, unless something is kept already. -/
theorem Step.kept?_after {other : String} {origin : Origin}
    {answer : Except BootstrapError BootstrapInstance}
    (step : Step before (.got other origin answer) after)
    (shared : after.scope? type ≠ some .prototype) :
    after.kept? type =
      (before.kept? type).or (Deed.gets? type ⟨before, .got other origin answer, after⟩) := by
  unfold Deed.gets?
  cases step with
  | unregistered | failed => exact (Option.or_none).symm
  | kept kept =>
    dsimp only
    split
    · rename_i here
      rw [← here, kept, Option.some_or]
    · exact (Option.or_none).symm
  | made prototype =>
    dsimp only
    split
    · rename_i here
      subst here
      exact absurd prototype shared
    · exact (Option.or_none).symm
  | @shared _ made held singleton kept =>
    dsimp only
    split
    · rename_i here
      subst here
      have registered : before.isRegistered other = true := by
        rw [isRegistered, ← Option.isSome_map, ← scope?, singleton]
        rfl
      rw [kept]
      rw [BootstrapStore.kept?_keep made registered] at kept
      cases known : before.kept? other with
      | none => rfl
      | some earlier =>
        rw [known, Option.getD_some] at kept
        exact kept.symm
    · rename_i different
      rw [kept?_keep_of_ne different, Option.or_none]

/-- What a deed leaves of a type that is not registered as one that is not shared. -/
theorem Deed.Proper.kept?_left (proper : deed.Proper ref)
    (shared : deed.left.scope? type ≠ some .prototype) :
    deed.left.kept? type = (deed.found.kept? type).or (deed.gets? type) := by
  have settled : ∀ {found left : BootstrapStore}, found.Settles left →
      left.kept? type = (found.kept? type).or none := by
    intro found left settles
    rw [settles.kept?, Option.or_none]
  cases proper with
  | registered inserted => exact settled (.of_insert inserted)
  | listened added => exact settled (.of_addCloseListener added)
  | closed begun => exact settled (.of_beginClose begun)
  | got step => exact step.kept?_after shared
  | @elsewhere found left endures =>
    change left.kept? type = (found.kept? type).or (left.kept? type)
    cases known : found.kept? type with
    | none => rfl
    | some held => exact endures.grows.kept? known
  | _ => exact (Option.or_none).symm

/-- What is kept after proper deeds is what was kept before, or else the instance that was got
first. -/
theorem Proceeds.kept?_after (proceeds : Proceeds ref before deeds after)
    (shared : after.scope? type ≠ some .prototype) :
    after.kept? type = (before.kept? type).or (firstGot type deeds) := by
  induction deeds generalizing before with
  | nil =>
    obtain rfl : after = before := proceeds.linked
    exact (Option.or_none).symm
  | cons deed rest ih =>
    obtain ⟨rfl, proper, onward⟩ := proceeds.uncons
    have here := proper.kept?_left fun prototype =>
      shared (onward.endures.grows.scope? prototype)
    rw [ih onward, here, Option.or_assoc, firstGot, firstGot, List.findSome?_cons]
    cases deed.gets? type <;> rfl

/-! ## The place of a close action -/

/-- Two deeds among others are one and the same, or one comes after the other. -/
theorem Deed.same_or_after {first second rest others : List Deed} {one other : Deed}
    (same : first ++ one :: rest = second ++ other :: others) :
    (first = second ∧ one = other ∧ rest = others) ∨
      (∃ between, second = first ++ one :: between ∧ rest = between ++ other :: others) ∨
      ∃ between, first = second ++ other :: between ∧ others = between ++ one :: rest := by
  obtain ⟨between, rfl, tail⟩ | ⟨between, rfl, tail⟩ := List.append_eq_append_iff.1 same
  · cases between with
    | nil =>
      rw [List.nil_append, List.cons.injEq] at tail
      exact .inl ⟨(List.append_nil _).symm, tail⟩
    | cons _ between =>
      rw [List.cons_append, List.cons.injEq] at tail
      obtain ⟨rfl, rfl⟩ := tail
      exact .inr (.inl ⟨between, rfl, rfl⟩)
  · cases between with
    | nil =>
      rw [List.nil_append, List.cons.injEq] at tail
      exact .inl ⟨List.append_nil _, tail.1.symm, tail.2.symm⟩
    | cons _ between =>
      rw [List.cons_append, List.cons.injEq] at tail
      obtain ⟨rfl, rfl⟩ := tail
      exact .inr (.inr ⟨between, rfl, rfl⟩)

namespace Course

/-- The turns are those of the first close actions. -/
theorem actions_prefix (course : Course container actions turns ending) :
    turns.map Turn.action <+: actions := by
  induction course with
  | finished => exact List.prefix_rfl
  | succeeded _ _ _ ih => exact List.cons_prefix_cons.2 ⟨rfl, ih⟩
  | failed | unfinished => exact List.cons_prefix_cons.2 ⟨rfl, List.nil_prefix⟩

/-- Every turn of a close is about the container that is closing. -/
theorem container_eq (course : Course container actions turns ending) {turn : Turn}
    (among : turn ∈ turns) : turn.container = container := by
  induction course with
  | finished => cases among
  | succeeded given _ _ ih =>
    obtain rfl | among := List.mem_cons.1 among
    · exact given
    · exact ih among
  | failed given | unfinished given => exact List.mem_singleton.1 among ▸ given

/-- A turn is that of the close action in its place. -/
theorem action_eq (course : Course container actions turns ending) {place : Nat} {turn : Turn}
    (here : turns[place]? = some turn) : actions[place]? = some turn.action := by
  obtain ⟨rest, rfl⟩ := course.actions_prefix
  have taken : (turns.map Turn.action)[place]? = some turn.action := by
    rw [List.getElem?_map, here, Option.map_some]
  rw [List.getElem?_append_left (List.getElem?_eq_some_iff.1 taken).1, taken]

end Course

/-- The turns after the begin of a close are those of the close actions that it took. -/
theorem Regular.course {earlier later : List Deed} {found left : BootstrapStore}
    (regular :
      Regular (earlier ++ ⟨found, .closed container (.ok actions) ending, left⟩ :: later)) :
    Course container actions (later.filterMap Deed.turn?) ending := by
  generalize split : earlier ++ ⟨found, .closed container (.ok actions) ending, left⟩ :: later =
    deeds at regular
  cases regular with
  | idle idle =>
    subst split
    cases (idle _ (List.mem_append_right _ List.mem_cons_self)).1
  | closing before course once =>
    obtain ⟨-, same, rfl⟩ | ⟨between, rfl, -⟩ | ⟨between, -, rfl⟩ :=
      Deed.same_or_after split
    · cases same
      exact course
    · cases (before _ (List.mem_append_right _ List.mem_cons_self)).1
    · cases once _ (List.mem_append_right _ List.mem_cons_self)

/-- An instance of a type is handed over in one turn at most. -/
theorem Proceeds.handsOver_once (proceeds : Proceeds ref before deeds after)
    (matched : before.Matched) (regular : Regular deeds) (type : String) :
    (deeds.filterMap Deed.turn?).countP (fun turn => turn.action.handsOver type) ≤ 1 := by
  cases regular with
  | idle idle =>
    rw [idle.turns]
    exact Nat.zero_le _
  | closing first course =>
    obtain ⟨start, proper, -⟩ := proceeds.at_deed
    have bounded := start.endures.matched matched type
    cases proper with
    | closed begun =>
      obtain ⟨-, -, rfl⟩ := closed_of_beginClose begun
      rw [List.filterMap_append, first.turns, List.nil_append,
        List.filterMap_cons_none (show Deed.turn? _ = none from rfl)]
      have counted := course.actions_prefix.sublist.countP_le (p := CloseAction.handsOver type)
      rw [List.countP_map] at counted
      exact Nat.le_trans counted (Nat.le_trans bounded (Bool.toNat_le _))

/-- A close that takes the close actions comes after every registration that is accepted, and takes
the close action of each in its place. -/
theorem Proceeds.action_in_place {earlier later first rest : List Deed}
    {found left closing shut : BootstrapStore} {supplier : InstanceSupplier} {ifAbsent : Bool}
    {participant : Participant} (proceeds : Proceeds ref {} deeds after)
    (registered : deeds =
      earlier ++ ⟨found, .registered type supplier ifAbsent (.ok true), left⟩ :: later)
    (closed : deeds = first ++ ⟨closing, .closed container (.ok actions) ending, shut⟩ :: rest)
    (handed : supplier.onClose = some participant) :
    actions[(earlier.flatMap Deed.added).length]? = some (.handOver type participant) := by
  obtain ⟨start, proper, onward⟩ := (closed ▸ proceeds).at_deed
  cases proper with
  | closed begun =>
    obtain ⟨isOpen, shut, rfl⟩ := closed_of_beginClose begun
    obtain ⟨-, same, -⟩ | ⟨between, rfl, -⟩ | ⟨between, -, rfl⟩ :=
      Deed.same_or_after (registered ▸ closed)
    · cases same
    · have added : Deed.added ⟨found, .registered type supplier ifAbsent (.ok true), left⟩ =
          (supplier.onClose.map (CloseAction.handOver type)).toList := rfl
      rw [start.closeActions_after isOpen, List.flatMap_append, List.flatMap_cons, added, handed,
        List.nil_append, List.getElem?_append_right (Nat.le_refl _), Nat.sub_self]
      rfl
    · have barred := onward.barred shut (List.mem_append_right _ List.mem_cons_self)
      cases barred

/-! ## The laws of a handover -/

/-- The laws of a type that was registered with a participant for its instance: `place` is the
number of close actions that were added before. -/
structure HandsOver (type : String) (scope : Scope) (participant : Participant) (place : Nat)
    (deeds : List Deed) : Prop where
  /-- A close has the participant's close action in its place. If it reaches the place, the close
  action has its turn there, with the container. -/
  placed : ∀ earlier found container actions ending left later,
    deeds = earlier ++ ⟨found, .closed container (.ok actions) ending, left⟩ :: later →
    actions[place]? = some (.handOver type participant) ∧
      ∀ turn, (later.filterMap Deed.turn?)[place]? = some turn →
        turn.action = .handOver type participant ∧ turn.container = container
  /-- There is no other turn for the type. -/
  once : (deeds.filterMap Deed.turn?).countP (fun turn => turn.action.handsOver type) ≤ 1
  /-- In the turn of a shared type, the participant is called with the instance that was got first,
  and with the container, if an instance was got by then. Otherwise it is not called. -/
  shared : scope = .singleton → ∀ earlier found turn left later,
    deeds = earlier ++ ⟨found, .turned turn, left⟩ :: later →
    turn.action = .handOver type participant →
    turn.call = (firstGot type earlier).map (.handOver participant · turn.container)
  /-- In the turn of a type that is not shared, the participant is not called. -/
  prototype : scope = .prototype → ∀ found turn left, ⟨found, .turned turn, left⟩ ∈ deeds →
    turn.action = .handOver type participant → turn.call = none
  /-- A turn without a call succeeds at once and leaves the store as it is. -/
  passed : ∀ found turn left, ⟨found, .turned turn, left⟩ ∈ deeds → turn.call = none →
    turn.ending = some (.ok ()) ∧ left = found

/-- What a type was registered with decides how its instance is handed over. -/
theorem Proceeds.handsOver_of_registered {earlier later : List Deed} {found left : BootstrapStore}
    {supplier : InstanceSupplier} {ifAbsent : Bool} {participant : Participant}
    (proceeds : Proceeds ref {} deeds after) (regular : Regular deeds)
    (registered : deeds =
      earlier ++ ⟨found, .registered type supplier ifAbsent (.ok true), left⟩ :: later)
    (handed : supplier.onClose = some participant) :
    HandsOver type supplier.scope participant (earlier.flatMap Deed.added).length deeds := by
  have known : after.scope? type = some supplier.scope := by
    obtain ⟨-, proper, onward⟩ := (registered ▸ proceeds).at_deed
    cases proper with
    | registered inserted =>
      exact onward.endures.grows.scope? (scope?_of_provision? (provision?_of_insert inserted).2.1)
  refine ⟨?_, proceeds.handsOver_once matched_empty regular type, ?_, ?_, ?_⟩
  · intro first closing container actions ending shut rest closed
    have here := proceeds.action_in_place registered closed handed
    refine ⟨here, fun turn reached => ?_⟩
    have course := (closed ▸ regular).course
    rw [course.action_eq reached, Option.some.injEq] at here
    exact ⟨here, course.container_eq (List.mem_of_getElem? reached)⟩
  · intro singleton first store turn left rest turned action
    subst turned
    have lasts := proceeds.endures_from (List.mem_append_right _ List.mem_cons_self)
    obtain ⟨start, proper, -⟩ := proceeds.at_deed
    -- The scope never changes, so what is registered for the type is not a prototype at the turn
    -- either.
    have shared : store.scope? type ≠ some .prototype := by
      intro prototype
      rw [lasts.grows.scope? prototype, singleton] at known
      cases known
    cases proper with
    | turned call =>
      have kept : store.kept? type = firstGot type first := start.kept?_after shared
      rw [call, action, CloseAction.callOn, kept]
  · intro prototype store turn left among action
    have sound := proceeds.endures.grows.sound sound_empty
    have unkept : store.kept? type = none := by
      cases kept : store.kept? type with
      | none => rfl
      | some held =>
        have lasts := (proceeds.endures_from among).grows.kept? kept
        rw [sound.unkept (prototype ▸ known)] at lasts
        cases lasts
    cases proceeds.proper _ among with
    | turned call => rw [call, action, CloseAction.callOn, unkept, Option.map_none]
  · intro store turn left among silent
    cases proceeds.proper _ among with
    | turned call passed => exact ⟨passed silent, rfl⟩

end BootstrapStore

/-- Whatever a participant does with a new store, and whatever the suppliers and close actions do
that it leads to, an instance is handed over of each type that was registered with a participant for
it, as far as one was got. If the participant comes to its end and no deed is missing, the calls are
those in the record of calls; if all participants use nothing but stores, no deed is missing. -/
theorem Program.hands_over (behaviour : Behaviour) (limit depth : Nat) (program : Program α)
    (ref : StoreRef) (world : World) (made : world.HasStore ref) (fresh : world.store ref = {}) :
    let invoke := behaviour.invoker limit depth
    let deeds := program.deeds invoke (behaviour.chronicler ref limit depth) ref world
    let result := (program.carryOut invoke).run.run world
    (∀ earlier found type supplier ifAbsent left later participant,
      deeds = earlier ++ ⟨found, .registered type supplier ifAbsent (.ok true), left⟩ :: later →
      supplier.onClose = some participant →
      BootstrapStore.HandsOver type supplier.scope participant
        (earlier.flatMap Deed.added).length deeds) ∧
    (∀ answer, result.1 = .ok answer → Unbroken deeds →
      result.2.calls = world.calls ++ deeds.filterMap Deed.call?) ∧
    (program.Followed → (∀ call, (behaviour call).Followed) → Unbroken deeds) := by
  have accounts := Program.accounts (behaviour.accounts ref limit depth) program made
  refine ⟨?_, accounts.calls, fun programmed followed => ?_⟩
  · intro earlier found type supplier ifAbsent left later participant registered handed
    exact (fresh ▸ accounts.proceeds).handsOver_of_registered accounts.regular registered handed
  · exact Program.unbroken (Behaviour.unbroken followed ref limit depth) programmed world

/-- A close listener that gets a type of which no instance was made yet. -/
def getsWhileClosing : Behaviour
  | .bootstrapClosing _ store _ => .perform (.read store "Config") fun _ => .done (.ok ())
  | .supply _ _ => .done (.ok (.text "made"))
  | .handOver _ _ _ => .done (.ok ())
  | _ => .panic "unexpected call"

/-- Adds a close listener, registers a type with a participant to hand its instance to, and closes
the store. -/
def closesUnread : Program Unit :=
  .perform (.listen ⟨0⟩ { name := "listener" }) fun _ =>
    .perform (.register ⟨0⟩ "Config"
        { supply := .custom { name := "supplier" }, onClose := some { name := "heir" } } false)
      fun _ => .perform (.closeStore ⟨0⟩ ⟨0⟩) fun _ => .done ()

/-- A listener that is closing the store gets a type that nobody got before: the instance is made
then, and still handed over afterwards. -/
theorem hands_over_got_while_closing :
    ∃ deeds last, (closesUnread.carryOut (getsWhileClosing.invoker 3 0)).run.run
        { stores := [{}] } = (.ok (), last) ∧
      BootstrapStore.HandsOver "Config" .singleton { name := "heir" } 1 deeds ∧
      last.calls = deeds.filterMap Deed.call? ∧
      last.calls = [.bootstrapClosing { name := "listener" } ⟨0⟩ ⟨0⟩,
        .supply { name := "supplier" } ⟨0⟩,
        .handOver { name := "heir" } ⟨0, .text "made"⟩ ⟨0⟩] := by
  obtain ⟨handed, calls, followed⟩ := closesUnread.hands_over getsWhileClosing 3 0 ⟨0⟩
    { stores := [{}] } Nat.one_pos rfl
  have answers : ((closesUnread.carryOut (getsWhileClosing.invoker 3 0)).run.run
      { stores := [{}] }).1 = .ok () := rfl
  have all : ∀ call, (getsWhileClosing call).Followed := by
    intro call
    cases call with
    | bootstrapClosing => exact ⟨rfl, fun _ => trivial⟩
    | _ => trivial
  have unbroken := followed ⟨rfl, fun _ => ⟨rfl, fun _ => ⟨rfl, fun _ => trivial⟩⟩⟩ all
  exact ⟨_, _, Prod.ext answers rfl,
    handed [_] _ "Config" _ false _ _ { name := "heir" } rfl rfl, calls () answers unbroken, rfl⟩

/-- Registers a type that is not shared with a participant to hand an instance to, gets an instance,
and closes the store. -/
def closesPrototype : Program (Except Failure BootstrapInstance × Except Failure Unit) :=
  .perform (.register ⟨0⟩ "Copy"
      { supply := .custom { name := "supplier" }, scope := .prototype,
        onClose := some { name := "heir" } } false)
    fun _ => .perform (.read ⟨0⟩ "Copy") fun got =>
      .perform (.closeStore ⟨0⟩ ⟨0⟩) fun closed => .done (got, closed)

/-- An instance was got of a type that is not shared, and the close reaches the place of the
participant that is to be handed one, which is not called all the same. -/
theorem close_passes_over_prototype :
    ∃ last, (closesPrototype.carryOut (getsWhileClosing.invoker 2 0)).run.run { stores := [{}] } =
        (.ok (.ok ⟨0, .text "made"⟩, .ok ()), last) ∧
      last.calls = [.supply { name := "supplier" } ⟨0⟩] :=
  ⟨_, rfl, rfl⟩

end Launchpad
