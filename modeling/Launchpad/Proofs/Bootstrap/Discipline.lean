import Launchpad.Proofs.Bootstrap.Passage
import Launchpad.Call

/-!
# The discipline of a store

What happens to a store is a list of deeds, each with what it finds and what it leaves:
registrations, gets, closes, and the turns of close actions, however one leads to the other. A deed
is proper if the sections of the store lead from what it finds to what it leaves. The laws of a
whole list follow from that and from what lasts: a type stays registered as it is, and a store stays
closed.
-/

namespace Launchpad

/-- The call that a close action makes when it has its turn. -/
def CloseAction.callOn (held : BootstrapStore) (store : StoreRef) (container : ContainerRef) :
    CloseAction → Option Call
  | handOver type participant =>
    (held.kept? type).map fun made => .handOver participant made container
  | listener participant => some (.bootstrapClosing participant store container)

/-- Whether a close action hands over the instance of a type. -/
def CloseAction.handsOver (type : String) : CloseAction → Bool
  | handOver other _ => other = type
  | listener _ => false

namespace BootstrapStore

/-! ## What lasts -/

/-- Where the instances of a registered type come from, and how long they are used. -/
def provision? (store : BootstrapStore) (type : String) : Option (Supply × Scope) :=
  (store.find? type).map fun entry => (entry.supply, entry.scope)

/-- A store that is closed: it stays so, and nothing is registered with it. -/
structure Sealed (before after : BootstrapStore) : Prop where
  closed : after.closed = true
  closeActions : after.closeActions = before.closeActions
  types : ∀ type, after.isRegistered type = before.isRegistered type

/-- Instances are handed over of registered types only, and once for each of them. -/
def Matched (store : BootstrapStore) : Prop :=
  ∀ type, store.closeActions.countP (CloseAction.handsOver type) ≤ (store.isRegistered type).toNat

/-- What lasts whatever happens. -/
structure Endures (before after : BootstrapStore) : Prop where
  grows : before.Grows after
  matched : before.Matched → after.Matched
  sealed : before.closed = true → before.Sealed after
  /-- As long as a store is open, close actions are only added, and at the end. -/
  closeActions : after.closed = false → before.closeActions <+: after.closeActions

/-! ## Deeds -/

/-- The turn of a close action. -/
structure Turn where
  action : CloseAction
  container : ContainerRef
  /-- The call that is made. An instance that was never made is not handed over. -/
  call : Option Call
  /-- How the turn ends, if it does. -/
  ending : Option (Except Failure Unit)

/-- What is done to a store. -/
inductive Doing where
  | registered (type : String) (supplier : InstanceSupplier) (ifAbsent : Bool)
      (answer : Except BootstrapError Bool)
  | listened (participant : Participant) (answer : Except BootstrapError Unit)
  /-- A get ends. -/
  | got (type : String) (origin : Origin) (answer : Except BootstrapError BootstrapInstance)
  /-- A close begins: the close actions that it takes, or why it takes none, and how the close ends,
  if it does. -/
  | closed (container : ContainerRef) (begun : Except BootstrapFault (List CloseAction))
      (ending : Option (Except BootstrapError Unit))
  | turned (turn : Turn)
  /-- A participant is called other than by a close action of the store. -/
  | called (call : Call)
  /-- Participants do something else, during which deeds are not followed. -/
  | elsewhere

/-- Something that is done to a store, and what it finds and leaves there. -/
structure Deed where
  found : BootstrapStore
  doing : Doing
  left : BootstrapStore

namespace Deed

/-- Whether a deed is the accepted registration of a type. -/
def accepts (type : String) (deed : Deed) : Bool :=
  match deed.doing with
  | .registered other _ _ (.ok true) => other = type
  | _ => false

/-- Whether a deed is a registration that was not accepted. -/
def isRejected (deed : Deed) : Bool :=
  match deed.doing with
  | .registered _ _ _ (.ok true) | .listened _ (.ok ()) => false
  | .registered .. | .listened .. => true
  | _ => false

/-- The close actions that a deed adds. -/
def added (deed : Deed) : List CloseAction :=
  match deed.doing with
  | .registered type supplier _ (.ok true) => (supplier.onClose.map (.handOver type)).toList
  | .listened participant (.ok ()) => [.listener participant]
  | .elsewhere => deed.left.closeActions.drop deed.found.closeActions.length
  | _ => []

/-- Whether a deed is the begin of a close that takes the close actions. -/
def begins (deed : Deed) : Bool :=
  match deed.doing with
  | .closed _ (.ok _) _ => true
  | _ => false

/-- The turn that a deed is. -/
def turn? (deed : Deed) : Option Turn :=
  match deed.doing with
  | .turned turn => some turn
  | _ => none

/-- The call that a deed is. -/
def call? (deed : Deed) : Option Call :=
  match deed.doing with
  | .turned turn => turn.call
  | .called call => some call
  | _ => none

/-- Whether deeds are not followed. -/
def isElsewhere (deed : Deed) : Bool :=
  match deed.doing with
  | .elsewhere => true
  | _ => false

/-- The sections of the store lead from what a deed finds to what it leaves. -/
inductive Proper (ref : StoreRef) : Deed → Prop where
  | registered {found left : BootstrapStore} {type : String} {supplier : InstanceSupplier}
      {ifAbsent accepted : Bool}
      (inserted : found.insert type supplier ifAbsent = .ok (accepted, left)) :
      Proper ref ⟨found, .registered type supplier ifAbsent (.ok accepted), left⟩
  | notRegistered {found : BootstrapStore} {type : String} {supplier : InstanceSupplier}
      {ifAbsent : Bool} {fault : BootstrapFault}
      (refused : found.insert type supplier ifAbsent = .error fault) :
      Proper ref ⟨found, .registered type supplier ifAbsent (.error { fault }), found⟩
  | listened {found left : BootstrapStore} {participant : Participant}
      (added : found.addCloseListener participant = .ok left) :
      Proper ref ⟨found, .listened participant (.ok ()), left⟩
  | notListened {found : BootstrapStore} {participant : Participant} {fault : BootstrapFault}
      (refused : found.addCloseListener participant = .error fault) :
      Proper ref ⟨found, .listened participant (.error { fault }), found⟩
  | got {found left : BootstrapStore} {type : String} {origin : Origin}
      {answer : Except BootstrapError BootstrapInstance}
      (step : Step found (.got type origin answer) left) :
      Proper ref ⟨found, .got type origin answer, left⟩
  | closed {found left : BootstrapStore} {container : ContainerRef} {actions : List CloseAction}
      {ending : Option (Except BootstrapError Unit)}
      (begun : found.beginClose = .ok (actions, left)) :
      Proper ref ⟨found, .closed container (.ok actions) ending, left⟩
  | notClosed {found : BootstrapStore} {container : ContainerRef} {fault : BootstrapFault}
      (refused : found.beginClose = .error fault) :
      Proper ref ⟨found, .closed container (.error fault) (some (.error { fault })), found⟩
  | turned {found : BootstrapStore} {turn : Turn}
      (call : turn.call = turn.action.callOn found ref turn.container)
      (passed : turn.call = none → turn.ending = some (.ok ())) :
      Proper ref ⟨found, .turned turn, found⟩
  | called {found : BootstrapStore} {call : Call} : Proper ref ⟨found, .called call, found⟩
  | elsewhere {found left : BootstrapStore} (endures : found.Endures left) :
      Proper ref ⟨found, .elsewhere, left⟩

end Deed

/-- Every deed finds what the one before it left. -/
def Linked (before : BootstrapStore) : List Deed → BootstrapStore → Prop
  | [], after => after = before
  | deed :: rest, after => deed.found = before ∧ Linked deed.left rest after

/-- Deeds are followed throughout. -/
def Unbroken (deeds : List Deed) : Prop := ∀ deed ∈ deeds, deed.isElsewhere = false

/-- Proper deeds, each of which finds what the one before it left. -/
structure Proceeds (ref : StoreRef) (before : BootstrapStore) (deeds : List Deed)
    (after : BootstrapStore) : Prop where
  linked : Linked before deeds after
  proper : ∀ deed ∈ deeds, deed.Proper ref

/-- The turns of the close actions, one after the other, up to the first that fails, and how the
close ends. A turn that does not come to its end leaves the close unfinished. -/
inductive Course (container : ContainerRef) :
    List CloseAction → List Turn → Option (Except BootstrapError Unit) → Prop where
  | finished : Course container [] [] (some (.ok ()))
  | succeeded {turn : Turn} {actions : List CloseAction} {turns : List Turn}
      {ending : Option (Except BootstrapError Unit)} (given : turn.container = container)
      (ended : turn.ending = some (.ok ())) (rest : Course container actions turns ending) :
      Course container (turn.action :: actions) (turn :: turns) ending
  | failed {turn : Turn} {actions : List CloseAction} {failure : Failure}
      (given : turn.container = container) (ended : turn.ending = some (.error failure)) :
      Course container (turn.action :: actions) [turn]
        (some (.error (BootstrapFault.closeListener.dueTo failure)))
  | unfinished {turn : Turn} {actions : List CloseAction} (given : turn.container = container)
      (endless : turn.ending = none) : Course container (turn.action :: actions) [turn] none

/-- No close begins, and no close action has its turn. -/
def Idle (deeds : List Deed) : Prop := ∀ deed ∈ deeds, deed.begins = false ∧ deed.turn? = none

/-- At most one close begins, and the turns are those of the close actions that it took. -/
inductive Regular : List Deed → Prop where
  | idle {deeds : List Deed} (idle : Idle deeds) : Regular deeds
  | closing {earlier later : List Deed} {found left : BootstrapStore} {container : ContainerRef}
      {actions : List CloseAction} {ending : Option (Except BootstrapError Unit)}
      (before : Idle earlier)
      (course : Course container actions (later.filterMap Deed.turn?) ending)
      (once : ∀ deed ∈ later, deed.begins = false) :
      Regular (earlier ++ ⟨found, .closed container (.ok actions) ending, left⟩ :: later)

/-- A deed of a closed store: whatever would change the registrations or close the store again is
refused, while gets are as they were. -/
def Deed.IsBarred (deed : Deed) : Prop :=
  match deed.doing with
  | .registered _ _ _ answer => answer = .error { fault := .closed }
  | .listened _ answer => answer = .error { fault := .closed }
  | .closed _ begun ending => begun = .error .closed ∧ ending = some (.error { fault := .closed })
  | .elsewhere => deed.found.Sealed deed.left
  | _ => True

/-- The laws of what is done to a store. -/
structure Orderly (ref : StoreRef) (before : BootstrapStore) (deeds : List Deed)
    (after : BootstrapStore) : Prop where
  linked : Linked before deeds after
  /-- A type is registered at most once, and not at all if it was registered before. -/
  once : ∀ type, deeds.countP (Deed.accepts type) + (before.isRegistered type).toNat ≤ 1
  /-- The first registration of a type is never replaced. -/
  first : ∀ earlier found type supplier ifAbsent left later,
    deeds = earlier ++ ⟨found, .registered type supplier ifAbsent (.ok true), left⟩ :: later →
    (∀ deed ∈ later, deed.found.provision? type = some (supplier.supply, supplier.scope)) ∧
      after.provision? type = some (supplier.supply, supplier.scope)
  known : ∀ type given, before.provision? type = some given →
    (∀ deed ∈ deeds, deed.found.provision? type = some given) ∧ after.provision? type = some given
  /-- A registration that is rejected changes nothing. -/
  rejected : ∀ deed ∈ deeds, deed.isRejected = true → deed.left = deed.found
  /-- A store that is closed accepts nothing, and no close action has its turn. -/
  barred : before.closed = true → (∀ deed ∈ deeds, deed.IsBarred) ∧ Idle deeds
  /-- From the moment in which a close begins, nothing is accepted. -/
  closing : ∀ earlier found container actions ending left later,
    deeds = earlier ++ ⟨found, .closed container (.ok actions) ending, left⟩ :: later →
    (∀ deed ∈ later, deed.IsBarred) ∧ after.closed = true
  /-- Open or closed, a get of a registered type fails only if a supplier does. -/
  reads : ∀ found type origin answer left, ⟨found, .got type origin answer, left⟩ ∈ deeds →
    found.isRegistered type = true → (∃ held, answer = .ok held) ∨
      origin = .supplier ∧ ∃ failure, answer = .error ((BootstrapFault.supplier type).dueTo failure)
  /-- A close takes the close actions that were added before, in the order of registration. -/
  actions : ∀ earlier found container actions ending left later,
    deeds = earlier ++ ⟨found, .closed container (.ok actions) ending, left⟩ :: later →
    actions = before.closeActions ++ earlier.flatMap Deed.added
  /-- No other close begins, and the close actions that have a turn are those that it took, up to
  the first that fails. -/
  regular : Regular deeds
  /-- What a close action does when it has its turn. -/
  turns : ∀ found turn left, ⟨found, .turned turn, left⟩ ∈ deeds →
    turn.call = turn.action.callOn found ref turn.container ∧
      (turn.call = none → turn.ending = some (.ok ()))

section

variable {before between after : BootstrapStore} {deeds earlier later : List Deed} {deed : Deed}
  {ref : StoreRef} {type : String}

/-! ## What lasts from one deed to the next -/

theorem Sealed.refl (closed : before.closed = true) : before.Sealed before where
  closed := closed
  closeActions := rfl
  types _ := rfl

theorem Sealed.trans (start : before.Sealed between) (rest : between.Sealed after) :
    before.Sealed after where
  closed := rest.closed
  closeActions := rest.closeActions.trans start.closeActions
  types type := (rest.types type).trans (start.types type)

/-- What a registration that is accepted finds and leaves. -/
theorem provision?_of_insert {supplier : InstanceSupplier} {ifAbsent : Bool}
    (inserted : before.insert type supplier ifAbsent = .ok (true, after)) :
    before.isRegistered type = false ∧
      after.provision? type = some (supplier.supply, supplier.scope) ∧
      after.closeActions =
        before.closeActions ++ (supplier.onClose.map (CloseAction.handOver type)).toList := by
  unfold insert at inserted
  split at inserted
  · cases inserted
  · split at inserted
    · split at inserted <;> cases inserted
    · rename_i unregistered
      cases inserted
      have absent : before.find? type = none := by
        simpa [BootstrapStore.isRegistered] using unregistered
      refine ⟨by simpa using unregistered, ?_, rfl⟩
      rw [find?] at absent
      rw [provision?, find?, List.find?_append, absent]
      simp

/-- A type whose supply is known is registered. -/
theorem isRegistered_of_provision? {given : Supply × Scope}
    (known : before.provision? type = some given) : before.isRegistered type = true := by
  obtain ⟨entry, found, -⟩ := Option.map_eq_some_iff.1 known
  rw [isRegistered, found]
  rfl

/-- The scope of a type that has a supply is the one registered with it. -/
theorem scope?_of_provision? {given : Supply × Scope}
    (known : before.provision? type = some given) : before.scope? type = some given.2 := by
  obtain ⟨entry, found, rfl⟩ := Option.map_eq_some_iff.1 known
  rw [scope?, found]
  rfl

/-- A registration that answers without accepting finds the type registered. -/
theorem eq_of_insert_false {supplier : InstanceSupplier} {ifAbsent : Bool}
    (inserted : before.insert type supplier ifAbsent = .ok (false, after)) : after = before := by
  unfold insert at inserted
  split at inserted
  · cases inserted
  · split at inserted
    · split at inserted <;> cases inserted
      rfl
    · cases inserted

/-- A new store has no close actions to match. -/
theorem matched_empty : ({} : BootstrapStore).Matched := fun _ => Nat.zero_le _

/-- A section other than the end of a get keeps the close actions matched with the registrations. -/
theorem Advances.matched (advances : before.Advances after) (matched : before.Matched) :
    after.Matched := by
  intro type
  have bounded := matched type
  cases advances with
  | @insert other supplier _ accepted inserted =>
    have grows : before.Grows after := .of_settles (.of_insert inserted)
    cases accepted with
    | false =>
      rw [eq_of_insert_false inserted]
      exact bounded
    | true =>
      obtain ⟨unregistered, known, actions⟩ := provision?_of_insert inserted
      rw [actions, List.countP_append]
      by_cases here : other = type
      · subst here
        have unmatched : before.closeActions.countP (CloseAction.handsOver other) = 0 :=
          Nat.le_zero.1 (by rwa [unregistered] at bounded)
        rw [unmatched, Nat.zero_add, isRegistered_of_provision? known]
        exact Nat.le_trans List.countP_le_length (by cases supplier.onClose <;> simp)
      · have others : (supplier.onClose.map (CloseAction.handOver other)).toList.countP
            (CloseAction.handsOver type) = 0 := by
          cases supplier.onClose <;> simp [CloseAction.handsOver, here]
        rw [others, Nat.add_zero]
        refine Nat.le_trans bounded ?_
        cases registered : before.isRegistered type with
        | false => exact Nat.zero_le _
        | true => exact Nat.le_of_eq (congrArg Bool.toNat (grows.registered registered).symm)
  | addCloseListener added =>
    unfold BootstrapStore.addCloseListener at added
    split at added
    · cases added
    · cases added
      rw [List.countP_append]
      exact bounded
  | beginClose begun =>
    unfold BootstrapStore.beginClose at begun
    split at begun
    · cases begun
    · cases begun
      exact Nat.zero_le _

namespace Endures

theorem refl (store : BootstrapStore) : store.Endures store where
  grows := .refl store
  matched := id
  sealed := .refl
  closeActions _ := List.prefix_rfl

theorem trans (start : before.Endures between) (rest : between.Endures after) :
    before.Endures after where
  grows := start.grows.trans rest.grows
  matched := rest.matched ∘ start.matched
  sealed closed := (start.sealed closed).trans (rest.sealed (start.sealed closed).closed)
  closeActions isOpen := by
    have openBetween : between.closed = false := Bool.eq_false_iff.2 fun closed => by
      rw [(rest.sealed closed).closed] at isOpen
      cases isOpen
    exact (start.closeActions openBetween).trans (rest.closeActions isOpen)

/-- What lasts of a store lasts through a section other than the end of a get. -/
theorem of_advances (advances : before.Advances after) : before.Endures after where
  grows := .of_settles advances.settles
  matched := advances.matched
  sealed closed := by
    cases advances with
    | insert inserted =>
      rw [insert_of_closed closed] at inserted
      cases inserted
    | addCloseListener added =>
      rw [addCloseListener, if_pos closed] at added
      cases added
    | beginClose begun =>
      rw [BootstrapStore.beginClose, if_pos closed] at begun
      cases begun
  closeActions isOpen := by
    cases advances with
    | insert inserted =>
      unfold BootstrapStore.insert at inserted
      split at inserted
      · cases inserted
      · split at inserted
        · split at inserted
          · cases inserted
            exact List.prefix_rfl
          · cases inserted
        · cases inserted
          exact List.prefix_append ..
    | addCloseListener added =>
      unfold BootstrapStore.addCloseListener at added
      split at added
      · cases added
      · cases added
        exact List.prefix_append ..
    | beginClose begun =>
      rw [(closed_of_beginClose begun).2.1] at isOpen
      cases isOpen

/-- A get changes nothing but what is kept. -/
theorem of_got {origin : Origin} {answer : Except BootstrapError BootstrapInstance}
    (step : Step before (.got type origin answer) after) : before.Endures after where
  grows := step.grows
  matched matched := by
    cases step with
    | shared => exact fun other => isRegistered_keep before _ other _ ▸ matched other
    | _ => exact matched
  sealed closed := by
    cases step with
    | shared => exact ⟨closed, rfl, fun other => isRegistered_keep before _ other _⟩
    | _ => exact .refl closed
  closeActions _ := by
    cases step <;> exact List.prefix_rfl

/-- A type that has a supply keeps it, and its scope. -/
theorem provision? (endures : before.Endures after) {given : Supply × Scope}
    (known : before.provision? type = some given) : after.provision? type = some given := by
  obtain ⟨entry, found, rfl⟩ := Option.map_eq_some_iff.1 known
  obtain ⟨later, found, becomes⟩ := endures.grows.entries type entry found
  exact Option.map_eq_some_iff.2 ⟨later, found, by rw [becomes.supply, becomes.scope]⟩

end Endures

namespace Deed.Proper

/-- What lasts of a store lasts through a deed. -/
theorem endures (proper : deed.Proper ref) : deed.found.Endures deed.left := by
  cases proper with
  | registered inserted => exact .of_advances (.insert inserted)
  | listened added => exact .of_advances (.addCloseListener added)
  | got step => exact .of_got step
  | closed begun => exact .of_advances (.beginClose begun)
  | elsewhere endures => exact endures
  | notRegistered | notListened | notClosed | turned | called => exact .refl _

/-- An accepted registration is that of a type that was not registered. -/
theorem accepts_le (proper : deed.Proper ref) (type : String) :
    (deed.accepts type).toNat + (deed.found.isRegistered type).toNat ≤
      (deed.left.isRegistered type).toNat := by
  cases accepted : deed.accepts type with
  | false =>
    cases known : deed.found.isRegistered type with
    | false => simp
    | true => rw [proper.endures.grows.registered known]; simp
  | true =>
    cases proper with
    | @registered found left other supplier ifAbsent answer inserted =>
      cases answer with
      | false => cases accepted
      | true =>
        obtain rfl : other = type := by simpa [accepts] using accepted
        obtain ⟨unregistered, registered, -⟩ := provision?_of_insert inserted
        simp [unregistered, isRegistered_of_provision? registered]
    | _ => cases accepted

/-- A registration that is rejected leaves the store as it is. -/
theorem left_of_rejected (proper : deed.Proper ref) (rejected : deed.isRejected = true) :
    deed.left = deed.found := by
  cases proper with
  | @registered _ _ _ _ _ accepted inserted =>
    cases accepted with
    | false => exact eq_of_insert_false inserted
    | true => cases rejected
  | listened | got | closed | elsewhere => cases rejected
  | _ => rfl

/-- A closed store accepts nothing. -/
theorem barred (proper : deed.Proper ref) (closed : deed.found.closed = true) : deed.IsBarred := by
  cases proper with
  | registered inserted =>
    rw [insert_of_closed closed] at inserted
    cases inserted
  | notRegistered refused =>
    rw [insert_of_closed closed] at refused
    cases refused
    rfl
  | listened added =>
    rw [addCloseListener, if_pos closed] at added
    cases added
  | notListened refused =>
    rw [addCloseListener, if_pos closed] at refused
    cases refused
    rfl
  | closed begun =>
    rw [beginClose, if_pos closed] at begun
    cases begun
  | notClosed refused =>
    rw [beginClose, if_pos closed] at refused
    cases refused
    exact ⟨rfl, rfl⟩
  | elsewhere endures => exact endures.sealed closed
  | _ => trivial

/-- An open store that stays open gets the close actions that a deed adds. -/
theorem closeActions_left (proper : deed.Proper ref) (isOpen : deed.left.closed = false) :
    deed.left.closeActions = deed.found.closeActions ++ deed.added := by
  cases proper with
  | @registered _ _ _ _ _ accepted inserted =>
    cases accepted with
    | false => rw [eq_of_insert_false inserted]; exact (List.append_nil _).symm
    | true => exact (provision?_of_insert inserted).2.2
  | listened added =>
    unfold addCloseListener at added
    split at added
    · cases added
    · cases added
      rfl
  | got step => cases step <;> exact (List.append_nil _).symm
  | closed begun =>
    rw [(closed_of_beginClose begun).2.1] at isOpen
    cases isOpen
  | elsewhere endures => exact (List.prefix_iff_eq_append.1 (endures.closeActions isOpen)).symm
  | _ => exact (List.append_nil _).symm

end Deed.Proper

/-! ## From one deed to all of them -/

namespace Linked

/-- Two linked accounts, the second of which begins where the first ended. -/
theorem append (start : Linked before earlier between) (rest : Linked between later after) :
    Linked before (earlier ++ later) after := by
  induction earlier generalizing before with
  | nil =>
    obtain rfl : between = before := start
    exact rest
  | cons deed earlier ih => exact ⟨start.1, ih start.2⟩

/-- What a deed among others finds and leaves. -/
theorem at_deed (linked : Linked before (earlier ++ deed :: later) after) :
    Linked before earlier deed.found ∧ Linked deed.left later after := by
  induction earlier generalizing before with
  | nil => exact ⟨linked.1, linked.2⟩
  | cons first earlier ih =>
    obtain ⟨start, rest⟩ := ih linked.2
    exact ⟨⟨linked.1, start⟩, rest⟩

end Linked

namespace Proceeds

theorem nil (ref : StoreRef) (store : BootstrapStore) : Proceeds ref store [] store where
  linked := rfl
  proper _ among := absurd among List.not_mem_nil

/-- One proper deed, from what it found to what it left. -/
theorem of_deed (proper : deed.Proper ref) : Proceeds ref deed.found [deed] deed.left :=
  ⟨⟨rfl, rfl⟩, by simpa using proper⟩

/-- Two accounts, the second of which begins where the first ended. -/
theorem append (start : Proceeds ref before earlier between)
    (rest : Proceeds ref between later after) : Proceeds ref before (earlier ++ later) after where
  linked := start.linked.append rest.linked
  proper deed among := (List.mem_append.1 among).elim (start.proper deed) (rest.proper deed)

/-- The first deed, and those after it. -/
theorem uncons (proceeds : Proceeds ref before (deed :: deeds) after) :
    deed.found = before ∧ deed.Proper ref ∧ Proceeds ref deed.left deeds after :=
  ⟨proceeds.linked.1, proceeds.proper deed List.mem_cons_self, proceeds.linked.2,
    fun other among => proceeds.proper other (List.mem_cons_of_mem _ among)⟩

/-- The deeds before and after one among them. -/
theorem at_deed (proceeds : Proceeds ref before (earlier ++ deed :: later) after) :
    Proceeds ref before earlier deed.found ∧ deed.Proper ref ∧
      Proceeds ref deed.left later after := by
  obtain ⟨start, rest⟩ := proceeds.linked.at_deed
  refine ⟨⟨start, fun other among => proceeds.proper other (List.mem_append_left _ among)⟩,
    proceeds.proper deed (by simp), ⟨rest, fun other among => proceeds.proper other ?_⟩⟩
  exact List.mem_append_right _ (List.mem_cons_of_mem _ among)

/-- What lasts of a store lasts through all of its deeds. -/
theorem endures (proceeds : Proceeds ref before deeds after) : before.Endures after := by
  induction deeds generalizing before with
  | nil =>
    obtain rfl : after = before := proceeds.linked
    exact .refl _
  | cons deed rest ih =>
    obtain ⟨rfl, proper, onward⟩ := proceeds.uncons
    exact proper.endures.trans (ih onward)

/-- What lasts until one of the deeds. -/
theorem endures_until (proceeds : Proceeds ref before deeds after) (among : deed ∈ deeds) :
    before.Endures deed.found := by
  obtain ⟨earlier, later, rfl⟩ := List.append_of_mem among
  exact proceeds.at_deed.1.endures

/-- What lasts from one of the deeds on. -/
theorem endures_from (proceeds : Proceeds ref before deeds after) (among : deed ∈ deeds) :
    deed.found.Endures after := by
  obtain ⟨earlier, later, rfl⟩ := List.append_of_mem among
  obtain ⟨-, proper, onward⟩ := proceeds.at_deed
  exact proper.endures.trans onward.endures

/-- The accepted registrations of a type account for its entry. -/
theorem countP_accepts_le (proceeds : Proceeds ref before deeds after) (type : String) :
    deeds.countP (Deed.accepts type) + (before.isRegistered type).toNat ≤
      (after.isRegistered type).toNat := by
  induction deeds generalizing before with
  | nil =>
    obtain rfl : after = before := proceeds.linked
    simp
  | cons deed rest ih =>
    obtain ⟨rfl, proper, onward⟩ := proceeds.uncons
    have first := proper.accepts_le type
    have rest := ih onward
    have here : (if deed.accepts type then 1 else 0) = (deed.accepts type).toNat := by
      cases deed.accepts type <;> rfl
    rw [List.countP_cons, here]
    omega

/-- The close actions of a store that stays open are those that were added. -/
theorem closeActions_after (proceeds : Proceeds ref before deeds after)
    (isOpen : after.closed = false) :
    after.closeActions = before.closeActions ++ deeds.flatMap Deed.added := by
  induction deeds generalizing before with
  | nil =>
    obtain rfl : after = before := proceeds.linked
    simp
  | cons deed rest ih =>
    obtain ⟨rfl, proper, onward⟩ := proceeds.uncons
    have openBetween : deed.left.closed = false := Bool.eq_false_iff.2 fun closed => by
      rw [(onward.endures.sealed closed).closed] at isOpen
      cases isOpen
    rw [ih onward, proper.closeActions_left openBetween, List.flatMap_cons, List.append_assoc]

/-- After a store was closed, every deed finds it closed. -/
theorem barred (proceeds : Proceeds ref before deeds after) (closed : before.closed = true)
    (among : deed ∈ deeds) : deed.IsBarred :=
  (proceeds.proper deed among).barred ((proceeds.endures_until among).sealed closed).closed

/-- Proper deeds are orderly if the turns are. -/
theorem keeps_laws (proceeds : Proceeds ref before deeds after) (regular : Regular deeds)
    (idle : before.closed = true → Idle deeds) : Orderly ref before deeds after where
  linked := proceeds.linked
  once type := by
    have counted := proceeds.countP_accepts_le type
    have := (after.isRegistered type).toNat_le
    omega
  first earlier found type supplier ifAbsent left later split := by
    subst split
    obtain ⟨-, proper, rest⟩ := proceeds.at_deed
    have known : left.provision? type = some (supplier.supply, supplier.scope) := by
      cases proper with
      | registered inserted => exact (provision?_of_insert inserted).2.1
    exact ⟨fun deed among => (rest.endures_until among).provision? known,
      rest.endures.provision? known⟩
  known type given known :=
    ⟨fun deed among => (proceeds.endures_until among).provision? known,
      proceeds.endures.provision? known⟩
  rejected deed among := (proceeds.proper deed among).left_of_rejected
  barred closed := ⟨fun deed among => proceeds.barred closed among, idle closed⟩
  closing earlier found container actions ending left later split := by
    subst split
    obtain ⟨-, proper, rest⟩ := proceeds.at_deed
    cases proper with
    | closed begun =>
      have closed := (closed_of_beginClose begun).2.1
      exact ⟨fun deed among => rest.barred closed among, (rest.endures.sealed closed).closed⟩
  reads found type origin answer left among registered := by
    have proper := proceeds.proper _ among
    cases proper with
    | got step => exact step.answer_of_registered registered
  actions earlier found container actions ending left later split := by
    subst split
    obtain ⟨start, proper, -⟩ := proceeds.at_deed
    cases proper with
    | closed begun =>
      obtain ⟨isOpen, -, rfl⟩ := closed_of_beginClose begun
      exact start.closeActions_after isOpen
  regular := regular
  turns found turn left among := by
    have proper := proceeds.proper _ among
    cases proper with
    | turned call passed => exact ⟨call, passed⟩

end Proceeds

/-! ## Closing at most once -/

theorem Idle.nil : Idle [] := fun _ among => absurd among List.not_mem_nil

/-- A deed that neither begins a close nor takes a turn in one is idle. -/
theorem Idle.of_deed (begins : deed.begins = false) (turn : deed.turn? = none) :
    Idle [deed] := by
  intro other among
  rw [List.mem_singleton.1 among]
  exact ⟨begins, turn⟩

theorem Idle.append (start : Idle earlier) (rest : Idle later) : Idle (earlier ++ later) :=
  fun deed among => (List.mem_append.1 among).elim (start deed) (rest deed)

/-- Idle deeds take no turns. -/
theorem Idle.turns (idle : Idle deeds) : deeds.filterMap Deed.turn? = [] :=
  List.filterMap_eq_nil_iff.2 fun deed among => (idle deed among).2

/-- Idle deeds before a regular account keep it regular. -/
theorem Regular.of_idle (rest : Regular later) (idle : Idle earlier) :
    Regular (earlier ++ later) := by
  cases rest with
  | idle further => exact .idle (idle.append further)
  | closing first course once =>
    rw [← List.append_assoc]
    exact .closing (idle.append first) course once

/-- Deeds that go on with deeds which are idle if the store was closed. -/
theorem Regular.append (start : Regular earlier) (proceeds : Proceeds ref before earlier between)
    (rest : Regular later) (idle : between.closed = true → Idle later) :
    Regular (earlier ++ later) := by
  cases start with
  | idle idle => exact rest.of_idle idle
  | @closing earlier after found left container actions ending first course once =>
    obtain ⟨-, proper, onward⟩ := proceeds.at_deed
    have closed : between.closed = true := by
      cases proper with
      | closed begun => exact (onward.endures.sealed (closed_of_beginClose begun).2.1).closed
    rw [List.append_assoc, List.cons_append]
    refine .closing first ?_ fun deed among => (List.mem_append.1 among).elim (once deed)
      fun among => (idle closed deed among).1
    rw [List.filterMap_append, (idle closed).turns, List.append_nil]
    exact course

end

end BootstrapStore

end Launchpad
