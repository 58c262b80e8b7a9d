import Launchpad.Bootstrap.Basic

/-!
# Gets of a store, one after the other and inside each other

Getting an instance is not one section: the entry is looked up, its supplier is called, and the
instance is kept, and between these anything may happen to the store, gets of the same type
included. `Step` says what each event of a get finds and leaves, in terms of the sections of the
store; `Passes` is a course of such events, however the gets are nested. What an entry keeps once is
kept for good, which every law about gets comes down to.
-/

namespace Launchpad

/-- An entry keeps its supplier, its scope, and the instance that it has. -/
structure BootstrapEntry.Becomes (before after : BootstrapEntry) : Prop where
  supply : after.supply = before.supply
  scope : after.scope = before.scope
  kept : ∀ held, before.kept = some held → after.kept = some held

namespace BootstrapStore

/-- The scope of a registered type. -/
def scope? (store : BootstrapStore) (type : String) : Option Scope :=
  (store.find? type).map (·.scope)

/-- An entry that is not shared keeps nothing. -/
def Sound (store : BootstrapStore) : Prop :=
  ∀ type entry, store.find? type = some entry → entry.scope = .prototype → entry.kept = none

/-- Entries stay, and what they keep stays with them. -/
structure Grows (before after : BootstrapStore) : Prop where
  entries : ∀ type entry, before.find? type = some entry →
    ∃ later, after.find? type = some later ∧ entry.Becomes later
  sound : before.Sound → after.Sound

/-- Entries stay as they are, and new ones keep nothing. -/
structure Settles (before after : BootstrapStore) : Prop where
  entries : ∀ type entry, before.find? type = some entry → after.find? type = some entry
  fresh : ∀ type entry, before.find? type = none → after.find? type = some entry → entry.kept = none

/-- A new store is sound: it keeps nothing. -/
theorem sound_empty : ({} : BootstrapStore).Sound := nofun

/-- What a store finds for a type depends on its entries only. -/
theorem find?_of_entries {before after : BootstrapStore} (same : after.entries = before.entries)
    (type : String) : after.find? type = before.find? type := by rw [find?, find?, same]

namespace Settles

variable {before after : BootstrapStore}

theorem refl (store : BootstrapStore) : store.Settles store where
  entries _ _ found := found
  fresh _ _ absent found := by
    rw [absent] at found
    cases found

theorem trans {first second third : BootstrapStore} (start : first.Settles second)
    (rest : second.Settles third) : first.Settles third where
  entries type entry found := rest.entries type entry (start.entries type entry found)
  fresh type entry absent found := by
    cases between : second.find? type with
    | none => exact rest.fresh type entry between found
    | some known =>
      have same := rest.entries type known between
      rw [found, Option.some.injEq] at same
      subst same
      exact start.fresh type entry absent between

/-- A change that concerns no entry settles the store. -/
theorem of_entries (same : after.entries = before.entries) : before.Settles after where
  entries type _ found := (find?_of_entries same type).trans found
  fresh type entry absent found := by
    rw [find?_of_entries same, absent] at found
    cases found

/-- A registration adds an entry that keeps nothing. -/
theorem of_insert {type : String} {supplier : InstanceSupplier} {ifAbsent registered : Bool}
    (inserted : before.insert type supplier ifAbsent = .ok (registered, after)) :
    before.Settles after := by
  unfold insert at inserted
  split at inserted
  · cases inserted
  · split at inserted
    · split at inserted
      · cases inserted
        exact .refl _
      · cases inserted
    · rename_i unregistered
      cases inserted
      constructor
      · intro other entry found
        simp only [find?] at found ⊢
        rw [List.find?_append, found, Option.some_or]
      · intro other entry absent found
        simp only [find?] at absent found
        rw [List.find?_append, absent, Option.none_or] at found
        rw [List.mem_singleton.1 (List.mem_of_find?_eq_some found)]

/-- A close listener is no concern of the entries. -/
theorem of_addCloseListener {participant : Participant}
    (added : before.addCloseListener participant = .ok after) : before.Settles after := by
  unfold addCloseListener at added
  split at added
  · cases added
  · cases added
    exact of_entries rfl

/-- Beginning a close is no concern of the entries. -/
theorem of_beginClose {actions : List CloseAction}
    (begun : before.beginClose = .ok (actions, after)) : before.Settles after := by
  unfold beginClose at begun
  split at begun
  · cases begun
  · cases begun
    exact of_entries rfl

/-- A store that settles keeps the same instances. -/
theorem kept? (settles : before.Settles after) (type : String) :
    after.kept? type = before.kept? type := by
  unfold BootstrapStore.kept?
  cases found : before.find? type with
  | some entry => rw [settles.entries type entry found]
  | none =>
    cases later : after.find? type with
    | none => rfl
    | some entry => exact settles.fresh type entry found later

end Settles

/-- A section of a store other than the end of a get: a registration, or the begin of a close. -/
inductive Advances : BootstrapStore → BootstrapStore → Prop where
  | insert {before after : BootstrapStore} {type : String} {supplier : InstanceSupplier}
      {ifAbsent registered : Bool}
      (inserted : before.insert type supplier ifAbsent = .ok (registered, after)) :
      Advances before after
  | addCloseListener {before after : BootstrapStore} {participant : Participant}
      (added : before.addCloseListener participant = .ok after) : Advances before after
  | beginClose {before after : BootstrapStore} {actions : List CloseAction}
      (begun : before.beginClose = .ok (actions, after)) : Advances before after

/-- A section other than the end of a get only settles the store. -/
theorem Advances.settles {before after : BootstrapStore} (advances : before.Advances after) :
    before.Settles after := by
  cases advances with
  | insert inserted => exact .of_insert inserted
  | addCloseListener added => exact .of_addCloseListener added
  | beginClose begun => exact .of_beginClose begun

namespace Grows

variable {before after first second third : BootstrapStore} {type : String}

theorem refl (store : BootstrapStore) : store.Grows store where
  entries _ entry found := ⟨entry, found, rfl, rfl, fun _ kept => kept⟩
  sound sound := sound

theorem trans (start : first.Grows second) (rest : second.Grows third) : first.Grows third where
  entries type entry found := by
    obtain ⟨known, between, becomes⟩ := start.entries type entry found
    obtain ⟨later, found, onward⟩ := rest.entries type known between
    exact ⟨later, found, onward.supply.trans becomes.supply, onward.scope.trans becomes.scope,
      fun held kept => onward.kept held (becomes.kept held kept)⟩
  sound sound := rest.sound (start.sound sound)

/-- A store that settles grows. -/
theorem of_settles (settles : before.Settles after) : before.Grows after where
  entries type entry found :=
    ⟨entry, settles.entries type entry found, rfl, rfl, fun _ kept => kept⟩
  sound sound type entry found prototype := by
    cases known : before.find? type with
    | none => exact settles.fresh type entry known found
    | some earlier =>
      have same := settles.entries type earlier known
      rw [found, Option.some.injEq] at same
      subst same
      exact sound type entry known prototype

/-- What is kept is kept for good. -/
theorem kept? (grows : before.Grows after) {held : BootstrapInstance}
    (kept : before.kept? type = some held) : after.kept? type = some held := by
  obtain ⟨entry, found, kept⟩ := Option.bind_eq_some_iff.1 kept
  obtain ⟨later, found, becomes⟩ := grows.entries type entry found
  exact Option.bind_eq_some_iff.2 ⟨later, found, becomes.kept held kept⟩

/-- A type keeps its scope. -/
theorem scope? (grows : before.Grows after) {scope : Scope}
    (known : before.scope? type = some scope) : after.scope? type = some scope := by
  obtain ⟨entry, found, rfl⟩ := Option.map_eq_some_iff.1 known
  obtain ⟨later, found, becomes⟩ := grows.entries type entry found
  exact Option.map_eq_some_iff.2 ⟨later, found, becomes.scope⟩

/-- What is registered stays registered. -/
theorem registered (grows : before.Grows after) (registered : before.isRegistered type = true) :
    after.isRegistered type = true := by
  obtain ⟨entry, found⟩ := Option.isSome_iff_exists.1 registered
  obtain ⟨later, found, -⟩ := grows.entries type entry found
  rw [isRegistered, found]
  rfl

/-- A type that is not registered in the end was not registered before. -/
theorem unregistered (grows : before.Grows after) (unregistered : after.isRegistered type = false) :
    before.isRegistered type = false :=
  Bool.eq_false_iff.2 fun registered => by
    rw [grows.registered registered] at unregistered
    cases unregistered

end Grows

/-- Keeping an instance concerns the entry of its type. -/
theorem find?_keep (store : BootstrapStore) (type other : String) (made : BootstrapInstance) :
    (store.keep type made).find? other = (store.find? other).map (keepIn type made) := by
  have same : (fun held => decide (held.type = other)) ∘ keepIn type made =
      fun held => decide (held.type = other) := funext fun held => by simp
  simp only [find?, keep, List.find?_map, same]

/-- Keeping an instance registers nothing. -/
theorem isRegistered_keep (store : BootstrapStore) (type other : String)
    (made : BootstrapInstance) :
    (store.keep type made).isRegistered other = store.isRegistered other := by
  rw [isRegistered, isRegistered, find?_keep, Option.isSome_map]

/-- Other types keep what they keep. -/
theorem kept?_keep_of_ne {type other : String} (different : type ≠ other) (store : BootstrapStore)
    (made : BootstrapInstance) : (store.keep type made).kept? other = store.kept? other := by
  rw [BootstrapStore.kept?, BootstrapStore.kept?, find?_keep]
  cases found : store.find? other with
  | none => rfl
  | some entry =>
    have named : entry.type = other := by simpa using List.find?_some found
    rw [Option.map_some, keepIn, if_neg fun same => different (same.symm.trans named)]

/-- A shared type keeps its first instance. -/
theorem grows_keep {store : BootstrapStore} {type : String} (made : BootstrapInstance)
    (shared : store.scope? type = some .singleton) : store.Grows (store.keep type made) where
  entries other entry found := by
    refine ⟨keepIn type made entry, by rw [find?_keep, found]; rfl, ?_⟩
    unfold keepIn
    split
    · exact ⟨rfl, rfl, fun held kept => by simp [kept]⟩
    · exact ⟨rfl, rfl, fun _ kept => kept⟩
  sound sound other entry found prototype := by
    rw [find?_keep] at found
    obtain ⟨known, before, rfl⟩ := Option.map_eq_some_iff.1 found
    unfold keepIn at prototype ⊢
    split
    · rename_i named
      rw [if_pos named] at prototype
      have here : known.type = other := by simpa using List.find?_some before
      rw [named] at here
      subst here
      rw [scope?, before, Option.map_some, Option.some.injEq] at shared
      rw [shared] at prototype
      cases prototype
    · rename_i other
      rw [if_neg other] at prototype
      exact sound _ known before prototype

/-- Where the answer of a get comes from. -/
inductive Origin where
  /-- The type is not registered. -/
  | nowhere
  /-- The instance was kept. -/
  | store
  /-- The supplier was called. -/
  | supplier
  deriving DecidableEq, Repr

/-- An event in a course of gets. -/
inductive Event where
  /-- A get calls the supplier of a type. -/
  | called (type : String) (supply : Supply)
  /-- A get ends. -/
  | got (type : String) (origin : Origin) (answer : Except BootstrapError BootstrapInstance)
  /-- Participants do something else, during which gets are not followed. -/
  | elsewhere

/-- What an event finds in the store and leaves there. Between the events of a get, others may
occur: what it left is then no longer what it finds. -/
inductive Step : BootstrapStore → Event → BootstrapStore → Prop where
  | unregistered {store : BootstrapStore} {type : String} (absent : store.find? type = none) :
      Step store (.got type .nowhere (.error { fault := .notRegistered type })) store
  | kept {store : BootstrapStore} {type : String} {held : BootstrapInstance}
      (kept : store.kept? type = some held) : Step store (.got type .store (.ok held)) store
  | called {store : BootstrapStore} {type : String} {entry : BootstrapEntry}
      (known : store.find? type = some entry) (unkept : entry.kept = none) :
      Step store (.called type entry.supply) store
  | failed {store : BootstrapStore} {type : String} {failure : Failure}
      (known : store.isRegistered type = true) :
      Step store (.got type .supplier (.error ((BootstrapFault.supplier type).dueTo failure))) store
  | made {store : BootstrapStore} {type : String} {made : BootstrapInstance}
      (prototype : store.scope? type = some .prototype) :
      Step store (.got type .supplier (.ok made)) store
  | shared {store : BootstrapStore} {type : String} {made held : BootstrapInstance}
      (singleton : store.scope? type = some .singleton)
      (kept : (store.keep type made).kept? type = some held) :
      Step store (.got type .supplier (.ok held)) (store.keep type made)
  | elsewhere {store later : BootstrapStore} (grows : store.Grows later) :
      Step store .elsewhere later

/-- A course of events. Between two of them, suppliers and close actions may be registered and the
store may be closed. -/
inductive Passes : BootstrapStore → List Event → BootstrapStore → Prop where
  | nil {before after : BootstrapStore} (settles : before.Settles after) : Passes before [] after
  | cons {before found left after : BootstrapStore} {event : Event} {events : List Event}
      (settles : before.Settles found) (step : Step found event left)
      (rest : Passes left events after) : Passes before (event :: events) after

section

variable {before between after : BootstrapStore} {event : Event} {events later : List Event}
  {type : String}

/-- No event of a get takes a registration or an instance away. -/
theorem Step.grows (step : Step before event after) : before.Grows after := by
  cases step with
  | shared singleton => exact grows_keep _ singleton
  | elsewhere grows => exact grows
  | _ => exact .refl _

namespace Passes

/-- A course may begin before the store has settled. -/
theorem settled (settles : before.Settles between) (passes : Passes between events after) :
    Passes before events after := by
  cases passes with
  | nil further => exact .nil (settles.trans further)
  | cons further step rest => exact .cons (settles.trans further) step rest

/-- A course of one event. -/
theorem of_step (step : Step before event after) : Passes before [event] after :=
  .cons (.refl before) step (.nil (.refl after))

/-- Two courses, the second of which begins where the first ended. -/
theorem trans (start : Passes before events between) (rest : Passes between later after) :
    Passes before (events ++ later) after := by
  induction start with
  | nil settles => exact rest.settled settles
  | cons settles step _ ih => exact .cons settles step (ih rest)

/-- A course falls into what comes first and what comes then. -/
theorem split (passes : Passes before (events ++ later) after) :
    ∃ between, Passes before events between ∧ Passes between later after := by
  induction events generalizing before with
  | nil => exact ⟨before, .nil (.refl before), passes⟩
  | cons event events ih =>
    cases passes with
    | cons settles step rest =>
      obtain ⟨between, first, rest⟩ := ih rest
      exact ⟨between, .cons settles step first, rest⟩

/-- What an event found and left. -/
theorem at_event (passes : Passes before (events ++ event :: later) after) :
    ∃ found left, Passes before events found ∧ Step found event left ∧
      Passes left later after := by
  obtain ⟨between, first, rest⟩ := passes.split
  cases rest with
  | cons settles step rest =>
    exact ⟨_, _, by simpa using first.trans (.nil settles), step, rest⟩

/-- No course takes a registration or an instance away. -/
theorem grows (passes : Passes before events after) : before.Grows after := by
  induction passes with
  | nil settles => exact .of_settles settles
  | cons settles step _ ih => exact (Grows.of_settles settles).trans (step.grows.trans ih)

end Passes

/-! ## What an event tells of the store -/

/-- An instance that a get of a shared type answers is kept from then on. -/
theorem Step.kept?_of_got {final : BootstrapStore} {origin : Origin} {held : BootstrapInstance}
    (step : Step before (.got type origin (.ok held)) after) (grows : after.Grows final)
    (shared : final.scope? type = some .singleton) : after.kept? type = some held := by
  cases step with
  | kept kept => exact kept
  | made prototype =>
    rw [grows.scope? prototype] at shared
    cases shared
  | shared _ kept => exact kept

/-- Nobody calls the supplier of a type that keeps an instance. -/
theorem Step.unkept_of_called {supply : Supply} (step : Step before (.called type supply) after) :
    before.kept? type = none := by
  cases step with
  | called known unkept => rw [BootstrapStore.kept?, known, Option.bind_some, unkept]

/-- An entry gets its instance from a get whose supplier was called, if not from elsewhere. -/
theorem Step.kept?_of_kept? {held : BootstrapInstance} (step : Step before event after)
    (kept : after.kept? type = some held) :
    before.kept? type = some held ∨ event = .got type .supplier (.ok held) ∨
      event = .elsewhere := by
  cases step with
  | elsewhere => exact .inr (.inr rfl)
  | @shared other made first singleton now =>
    by_cases here : other = type
    · subst here
      rw [now, Option.some.injEq] at kept
      exact .inr (.inl (by rw [kept]))
    · exact .inl (kept?_keep_of_ne here before made ▸ kept)
  | _ => exact .inl kept

/-- An instance that is kept in the end was kept before, or a supplier delivered it, or something
happened that is not followed. -/
theorem Passes.kept?_of_kept? {held : BootstrapInstance} (passes : Passes before events after)
    (kept : after.kept? type = some held) :
    before.kept? type = some held ∨ .got type .supplier (.ok held) ∈ events ∨
      .elsewhere ∈ events := by
  induction passes with
  | nil settles => exact .inl (settles.kept? type ▸ kept)
  | cons settles step _ ih =>
    obtain earlier | got | elsewhere := ih kept
    · obtain first | rfl | rfl := step.kept?_of_kept? earlier
      · exact .inl (settles.kept? type ▸ first)
      · exact .inr (.inl List.mem_cons_self)
      · exact .inr (.inr List.mem_cons_self)
    · exact .inr (.inl (List.mem_cons_of_mem _ got))
    · exact .inr (.inr (List.mem_cons_of_mem _ elsewhere))

/-- A get of a registered type only ends without a supplier call if an instance is kept. -/
theorem Step.origin_of_registered {origin : Origin}
    {answer : Except BootstrapError BootstrapInstance}
    (step : Step before (.got type origin answer) after)
    (registered : before.isRegistered type = true) :
    origin = .supplier ∨ origin = .store ∧ ∃ held, before.kept? type = some held := by
  cases step with
  | unregistered absent =>
    rw [isRegistered, absent] at registered
    cases registered
  | kept kept => exact .inr ⟨rfl, _, kept⟩
  | failed | made | shared => exact .inl rfl

/-- A get of a registered type answers an instance, unless its supplier failed. -/
theorem Step.answer_of_registered {origin : Origin}
    {answer : Except BootstrapError BootstrapInstance}
    (step : Step before (.got type origin answer) after)
    (registered : before.isRegistered type = true) :
    (∃ held, answer = .ok held) ∨ origin = .supplier ∧
      ∃ failure, answer = .error ((BootstrapFault.supplier type).dueTo failure) := by
  cases step with
  | unregistered absent =>
    rw [isRegistered, absent] at registered
    cases registered
  | failed => exact .inr ⟨rfl, _, rfl⟩
  | kept | made | shared => exact .inl ⟨_, rfl⟩

/-- A get has a supplier called only if the type is registered. -/
theorem Step.registered_of_supplied {answer : Except BootstrapError BootstrapInstance}
    (step : Step before (.got type .supplier answer) after) : before.isRegistered type = true := by
  cases step with
  | failed known => exact known
  | made known | shared known =>
    rw [scope?] at known
    rw [isRegistered, ← Option.isSome_map, known]
    rfl

/-- A supplier is called for a registered type only. -/
theorem Step.registered_of_called {supply : Supply}
    (step : Step before (.called type supply) after) : before.isRegistered type = true := by
  cases step with
  | called known =>
    rw [isRegistered, known]
    rfl

/-- A get of a type that is not registered says so. -/
theorem Step.answer_of_unregistered {origin : Origin}
    {answer : Except BootstrapError BootstrapInstance}
    (step : Step before (.got type origin answer) after)
    (unregistered : before.isRegistered type = false) :
    origin = .nowhere ∧ answer = .error { fault := .notRegistered type } := by
  rw [isRegistered, Option.isSome_eq_false_iff, Option.isNone_iff_eq_none] at unregistered
  cases step with
  | unregistered => exact ⟨rfl, rfl⟩
  | kept kept =>
    rw [BootstrapStore.kept?, unregistered] at kept
    cases kept
  | failed known =>
    rw [isRegistered, unregistered] at known
    cases known
  | made known | shared known =>
    rw [scope?, unregistered] at known
    cases known

end

end BootstrapStore

end Launchpad
