import Launchpad.Proofs.Bootstrap.Recording

/-!
# One instance for a shared type

However the gets from a store are nested, whichever suppliers fail, and whether the store is open or
closed: all gets of a shared type that answer an instance answer the same one, and its supplier is
not called any more once one of them has ended. A supplier call that fails leaves nothing behind, so
the supplier is called again. A type that is not shared is supplied for every get, and a type that
is not registered is never supplied.
-/

namespace Launchpad

namespace BootstrapStore

/-- The laws of the gets from a store, in the order in which they begin and end. -/
structure Lawful (before : BootstrapStore) (events : List Event) (after : BootstrapStore) :
    Prop where
  /-- The gets of a shared type answer one instance, which the store keeps. -/
  shared : ∀ type origin held, after.scope? type = some .singleton →
    .got type origin (.ok held) ∈ events → after.kept? type = some held
  /-- What is kept from the beginning is what every get answers. -/
  kept : ∀ type held, before.kept? type = some held →
    after.kept? type = some held ∧ ∀ supply, .called type supply ∉ events
  /-- Once a get of a shared type has answered an instance, its supplier is called no more. -/
  once : ∀ type origin held earlier later, after.scope? type = some .singleton →
    events = earlier ++ .got type origin (.ok held) :: later → ∀ supply, .called type supply ∉ later
  /-- After a failed get, the supplier is called again, unless a get succeeded meanwhile. -/
  again : ∀ type failure origin answer earlier between later, before.kept? type = none →
    events = earlier ++ .got type .supplier (.error failure) :: between ++
      .got type origin answer :: later →
    (∀ held, .got type .supplier (.ok held) ∉
      earlier ++ .got type .supplier (.error failure) :: between) →
    .elsewhere ∉ earlier ++ .got type .supplier (.error failure) :: between → origin = .supplier
  /-- Failed gets leave nothing behind. -/
  failed : ∀ type, before.kept? type = none → (∀ held, .got type .supplier (.ok held) ∉ events) →
    .elsewhere ∉ events → after.kept? type = none
  /-- Nothing is kept of a type that is not shared, and no get of it does without its supplier. -/
  prototype : ∀ type, after.scope? type = some .prototype →
    after.kept? type = none ∧ ∀ answer, .got type .store answer ∉ events
  /-- A get of a type that is not registered says so, and calls nobody. -/
  unregistered : ∀ type, after.isRegistered type = false →
    (∀ origin answer, .got type origin answer ∈ events →
      answer = .error { fault := .notRegistered type }) ∧
    ∀ supply, .called type supply ∉ events

section

variable {before after : BootstrapStore} {events : List Event} {type : String}

/-- The course of gets around one of its events. -/
theorem Passes.around {event : Event} (passes : Passes before events after)
    (among : event ∈ events) :
    ∃ found left, before.Grows found ∧ Step found event left ∧ left.Grows after := by
  obtain ⟨earlier, later, rfl⟩ := List.append_of_mem among
  obtain ⟨found, left, first, step, rest⟩ := passes.at_event
  exact ⟨found, left, first.grows, step, rest.grows⟩

/-- Nobody calls the supplier of a type of which an instance is kept. -/
theorem Passes.not_called_of_kept (passes : Passes before events after) {held : BootstrapInstance}
    (kept : before.kept? type = some held) (supply : Supply) : .called type supply ∉ events := by
  intro among
  obtain ⟨found, left, grows, step, -⟩ := passes.around among
  have unkept := step.unkept_of_called
  rw [grows.kept? kept] at unkept
  cases unkept

/-- A sound store keeps nothing of a type that is not shared. -/
theorem Sound.unkept (sound : after.Sound) (prototype : after.scope? type = some .prototype) :
    after.kept? type = none := by
  obtain ⟨entry, found, scope⟩ := Option.map_eq_some_iff.1 prototype
  rw [kept?, found, Option.bind_some]
  exact sound type entry found scope

/-- Every course of gets is lawful. -/
theorem Passes.keeps_laws (passes : Passes before events after) (sound : before.Sound) :
    Lawful before events after where
  shared type origin held singleton among := by
    obtain ⟨found, left, -, step, grows⟩ := passes.around among
    exact grows.kept? (step.kept?_of_got grows singleton)
  kept type held kept := ⟨passes.grows.kept? kept, passes.not_called_of_kept kept⟩
  once type origin held earlier later singleton split supply := by
    subst split
    obtain ⟨found, left, -, step, rest⟩ := passes.at_event
    exact rest.not_called_of_kept (step.kept?_of_got rest.grows singleton) supply
  again type failure origin answer earlier between later unkept split unsupplied followed := by
    subst split
    obtain ⟨found, left, first, step, -⟩ := passes.at_event
    have registered : found.isRegistered type = true := by
      obtain ⟨_, _, -, failed, grows⟩ :=
        first.around (List.mem_append_right _ List.mem_cons_self)
      exact grows.registered (failed.grows.registered failed.registered_of_supplied)
    -- An answer from the store would need an instance, and nothing on the way has delivered one.
    obtain same | ⟨-, held, kept⟩ := step.origin_of_registered registered
    · exact same
    · obtain kept | supplied | elsewhere := first.kept?_of_kept? kept
      · rw [unkept] at kept
        cases kept
      · exact absurd supplied (unsupplied held)
      · exact absurd elsewhere followed
  failed type unkept unsupplied followed := by
    cases kept : after.kept? type with
    | none => rfl
    | some held =>
      obtain kept | supplied | elsewhere := passes.kept?_of_kept? kept
      · rw [unkept] at kept
        cases kept
      · exact absurd supplied (unsupplied held)
      · exact absurd elsewhere followed
  prototype type prototype := by
    have unkept := (passes.grows.sound sound).unkept prototype
    refine ⟨unkept, fun answer among => ?_⟩
    obtain ⟨found, left, -, step, grows⟩ := passes.around among
    cases step with
    | kept kept =>
      rw [grows.kept? kept] at unkept
      cases unkept
  unregistered type unregistered := by
    constructor
    · intro origin answer among
      obtain ⟨found, left, -, step, grows⟩ := passes.around among
      exact (step.answer_of_unregistered ((step.grows.trans grows).unregistered unregistered)).2
    · intro supply among
      obtain ⟨found, left, -, step, grows⟩ := passes.around among
      have registered := (step.grows.trans grows).registered step.registered_of_called
      rw [unregistered] at registered
      cases registered

end

end BootstrapStore

open BootstrapStore (Event Lawful)

/-- Whatever a participant does with a store, and whatever the suppliers and close listeners do that
it leads to, the gets are lawful. If it comes to its end, every get for which a supplier was called
has called it once. If all participants use nothing but stores, nothing happens elsewhere, and the
supplier calls are those in the record of calls. -/
theorem Program.gets_lawful {α : Type} (behaviour : Behaviour) (limit depth : Nat)
    (program : Program α) (ref : StoreRef) (world : World) (sound : (world.store ref).Sound) :
    let invoke := behaviour.invoker limit depth
    let events := program.history invoke (behaviour.scribe ref limit depth) ref world
    let result := (program.carryOut invoke).run.run world
    Lawful (world.store ref) events (result.2.store ref) ∧
    (∀ answer, result.1 = .ok answer → Event.Balanced events) ∧
    (program.Followed → (∀ call, (behaviour call).Followed) →
      .elsewhere ∉ events ∧ ∀ answer, result.1 = .ok answer →
        result.2.suppliers ref = world.suppliers ref ++ events.filterMap Event.supplier?) := by
  have tracks := Program.tracks (behaviour.tracks ref limit depth) program world
  refine ⟨tracks.passes.keeps_laws sound, tracks.balanced, fun programmed followed => ?_⟩
  have nowhereElse : .elsewhere ∉ program.history (behaviour.invoker limit depth)
      (behaviour.scribe ref limit depth) ref world :=
    Program.not_elsewhere (Behaviour.not_elsewhere followed ref limit depth) programmed world
  exact ⟨nowhereElse, fun answer ended => tracks.suppliers answer ended nowhereElse⟩

/-- A supplier that gets its own type when it is called first. -/
def getsItself : Behaviour
  | .supply _ store =>
    .perform (.memory "called") fun called =>
      if called = .nothing then
        .perform (.remember "called" (.flag true)) fun _ =>
          .perform (.read store "Config") fun _ => .done (.ok (.text "outer"))
      else .done (.ok (.text "inner"))
  | _ => .panic "unexpected call"

/-- Registers a shared type and gets it twice. -/
def getsTwice : Program Unit :=
  .perform (.register ⟨0⟩ "Config" { supply := .custom { name := "supplier" } } false) fun _ =>
    .perform (.read ⟨0⟩ "Config") fun _ => .perform (.read ⟨0⟩ "Config") fun _ => .done ()

/-- A supplier that gets its own type while it is called: every get answers with the instance that
the inner call made. -/
theorem gets_lawful_nested :
    ∃ events last, (getsTwice.carryOut (getsItself.invoker 3 0)).run.run { stores := [{}] } =
        (.ok (), last) ∧
      Lawful {} events (last.store ⟨0⟩) ∧
      last.suppliers ⟨0⟩ = events.filterMap Event.supplier? ∧
      events = [.called "Config" (.custom { name := "supplier" }),
        .called "Config" (.custom { name := "supplier" }),
        .got "Config" .supplier (.ok ⟨0, .text "inner"⟩),
        .got "Config" .supplier (.ok ⟨0, .text "inner"⟩),
        .got "Config" .store (.ok ⟨0, .text "inner"⟩)] := by
  obtain ⟨lawful, -, followed⟩ := getsTwice.gets_lawful getsItself 3 0 ⟨0⟩ { stores := [{}] }
    BootstrapStore.sound_empty
  have answers : ((getsTwice.carryOut (getsItself.invoker 3 0)).run.run { stores := [{}] }).1 =
      .ok () := rfl
  have all : ∀ call, (getsItself call).Followed := by
    intro call
    cases call with
    | supply participant store =>
      refine ⟨rfl, fun called => ?_⟩
      dsimp only
      split
      · exact ⟨rfl, fun _ => ⟨rfl, fun _ => trivial⟩⟩
      · trivial
    | _ => trivial
  obtain ⟨-, suppliers⟩ := followed ⟨rfl, fun _ => ⟨rfl, fun _ => ⟨rfl, fun _ => trivial⟩⟩⟩ all
  exact ⟨_, _, Prod.ext answers rfl, lawful, suppliers () answers, rfl⟩

end Launchpad
