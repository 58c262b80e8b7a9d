import Launchpad.Proofs.Bootstrap.Chronicle

/-!
# Deeds that account for a store

Deeds recount what an operation does if they are proper, lead from the store that it finds to the
store that it leaves, and name the calls that it makes; they account for it if, moreover, at most
one close begins among them. Both go from one operation to the next, and what is none of the store's
adds nothing.
-/

namespace Launchpad

open BootstrapStore (Deed Proceeds Regular Idle Unbroken)

variable {α β : Type}

/-- Whether a store was made. -/
def World.HasStore (world : World) (ref : StoreRef) : Prop := ref.index < world.stores.length

/-- The call that a line in the record of calls is about. -/
def JournalEntry.call? : JournalEntry → Option Call
  | called _ call => some call
  | answered .. => none

/-- The calls to participants so far. -/
def World.calls (world : World) : List Call := world.journal.toList.filterMap JournalEntry.call?

/-- One entry of the journal adds at most one call. -/
theorem World.calls_note (world : World) (entry : JournalEntry) :
    (world.note entry).calls = world.calls ++ entry.call?.toList := by
  unfold calls note
  cases here : entry.call? <;> simp [List.filterMap_append, here]

/-- A store that was made is as it was, and nobody is called. -/
structure Undisturbed (ref : StoreRef) (before after : World) : Prop where
  made : before.HasStore ref → after.HasStore ref
  store : after.store ref = before.store ref
  calls : after.calls = before.calls

/-- Records and new stores disturb nothing. -/
theorem Undisturbed.framing (ref : StoreRef) : StoreFraming (Undisturbed ref) where
  refl world := ⟨id, rfl, rfl⟩
  trans start rest := ⟨rest.made ∘ start.made, rest.store.trans start.store,
    rest.calls.trans start.calls⟩
  aside {before after} stores journal := by
    refine ⟨fun made => ?_, ?_, ?_⟩
    · rwa [World.HasStore, stores]
    · rw [World.store, World.store, stores]
    · rw [World.calls, World.calls, journal]
  make world := by
    refine ⟨fun made => ?_, World.store_of_added world ref, rfl⟩
    rw [World.HasStore, List.length_append]
    exact Nat.lt_add_right _ made

/-- What lasts of a store that was made does. -/
def Lasts (ref : StoreRef) (before after : World) : Prop :=
  before.HasStore ref → after.HasStore ref ∧ (before.store ref).Endures (after.store ref)

/-- A change of one store makes or drops none. -/
theorem hasStore_modifyStore {world : World} {ref : StoreRef} (made : world.HasStore ref)
    (other : StoreRef) (change : BootstrapStore → BootstrapStore) :
    (world.modifyStore other change).HasStore ref := by
  rwa [World.HasStore, World.modifyStore, List.length_modify]

/-- Records, new stores and sections other than the end of a get leave what lasts. -/
theorem Lasts.framing (ref : StoreRef) : RegistryFraming (Lasts ref) where
  refl world made := ⟨made, .refl _⟩
  trans start rest made :=
    ⟨(rest (start made).1).1, (start made).2.trans (rest (start made).1).2⟩
  aside {before after} stores _ made := by
    rw [World.HasStore, World.store, World.store, stores]
    exact ⟨made, .refl _⟩
  make world made := by
    rw [World.store_of_added]
    exact ⟨((Undisturbed.framing ref).make world).made made, .refl _⟩
  advance world other after advances made := by
    refine ⟨hasStore_modifyStore made _ _, ?_⟩
    rw [World.store_modifyStore]
    split
    · rename_i here
      rw [here.1]
      exact .of_advances advances
    · exact .refl _

/-- Deeds account for what an operation does to a store and for the calls that it makes. -/
structure Recounts (ref : StoreRef) (before : World) (deeds : List Deed)
    (result : Except Abort α × World) : Prop where
  made : result.2.HasStore ref
  proceeds : Proceeds ref (before.store ref) deeds (result.2.store ref)
  calls : ∀ answer, result.1 = .ok answer → Unbroken deeds →
    result.2.calls = before.calls ++ deeds.filterMap Deed.call?

/-- They also account for its close. -/
structure Accounts (ref : StoreRef) (before : World) (deeds : List Deed)
    (result : Except Abort α × World) : Prop extends Recounts ref before deeds result where
  regular : Regular deeds
  idle : (before.store ref).closed = true → Idle deeds

variable {ref : StoreRef} {world : World} {deeds : List Deed} {invoke : Invoker}
  {chronicler : Recorder Deed} {depth : Nat}

namespace Recounts

/-- What leaves a store alone is recounted by no deed. -/
theorem of_undisturbed {result : Except Abort α × World} (made : world.HasStore ref)
    (undisturbed : Undisturbed ref world result.2) : Recounts ref world [] result where
  made := undisturbed.made made
  proceeds := undisturbed.store ▸ .nil ref _
  calls _ _ _ := by rw [undisturbed.calls, List.filterMap_nil, List.append_nil]

/-- A deed of an operation that calls nobody. -/
theorem of_deed {deed : Deed} {result : Except Abort α × World} (proper : deed.Proper ref)
    (found : deed.found = world.store ref) (left : deed.left = result.2.store ref)
    (made : result.2.HasStore ref)
    (quiet : deed.isElsewhere = false → deed.call? = none ∧ result.2.calls = world.calls) :
    Recounts ref world [deed] result where
  made := made
  proceeds := by
    rw [← found, ← left]
    exact .of_deed proper
  calls _ _ followed := by
    obtain ⟨callless, calls⟩ := quiet (followed deed List.mem_cons_self)
    rw [calls, List.filterMap_cons_none callless, List.filterMap_nil, List.append_nil]

/-- A deed that makes a call, in front of what the called participant does. -/
theorem of_call {deed : Deed} {call : Call} {result : Except Abort α × World}
    (proper : deed.Proper ref) (found : deed.found = world.store ref)
    (left : deed.left = world.store ref) (calls : deed.call? = some call)
    (nested : Recounts ref (world.note (.called depth call)) deeds result) :
    Recounts ref world (deed :: deeds) result where
  made := nested.made
  proceeds := by
    have start := Proceeds.of_deed proper
    rw [found, left] at start
    exact start.append nested.proceeds
  calls answer ended followed := by
    rw [nested.calls answer ended fun other among => followed other (List.mem_cons_of_mem _ among),
      World.calls_note, List.filterMap_cons_some calls, List.append_assoc]
    rfl

/-- Two recounts, the second of which begins where the first ended. -/
theorem append {answer : α} {between : World} {further : List Deed}
    {result : Except Abort β × World} (first : Recounts ref world deeds (.ok answer, between))
    (second : Recounts ref between further result) :
    Recounts ref world (deeds ++ further) result where
  made := second.made
  proceeds := first.proceeds.append second.proceeds
  calls last ended followed := by
    rw [second.calls last ended fun deed among => followed deed (List.mem_append_right _ among),
      first.calls answer rfl fun deed among => followed deed (List.mem_append_left _ among),
      List.append_assoc, List.filterMap_append]

/-- What is said of one operation, and of the other in the world that the first has left, is said of
both. -/
theorem bind {act : Act α} {next : α → Act β} {rest : α → World → List Deed}
    (first : Recounts ref world deeds (act.result world))
    (second : ∀ answer later, act.result world = (.ok answer, later) → later.HasStore ref →
      Recounts ref later (rest answer later) ((next answer).result later)) :
    Recounts ref world (deeds ++ act.onward world rest) ((act >>= next).result world) := by
  rw [Act.result_bind, Act.onward]
  cases reached : act.result world with
  | mk answer between =>
    rw [reached] at first
    cases answer with
    | error abort =>
      rw [List.append_nil]
      exact ⟨first.made, first.proceeds, fun _ ended => by cases ended⟩
    | ok value => exact first.append (second value between reached first.made)

/-- One operation after the other, of which the second is none of the store's. -/
theorem bind_undisturbed {act : Act α} {next : α → Act β}
    (first : Recounts ref world deeds (act.result world))
    (undisturbed : ∀ answer, Act.Respects (Undisturbed ref) (next answer)) :
    Recounts ref world deeds ((act >>= next).result world) := by
  have both := first.bind fun answer later _ made =>
    of_undisturbed made (undisturbed answer later)
  rwa [Act.onward_nil, List.append_nil] at both

end Recounts

namespace Accounts

/-- What leaves a store alone is accounted for by no deed. -/
theorem of_undisturbed {result : Except Abort α × World} (made : world.HasStore ref)
    (undisturbed : Undisturbed ref world result.2) : Accounts ref world [] result where
  toRecounts := .of_undisturbed made undisturbed
  regular := .idle .nil
  idle _ := .nil

theorem refl (made : world.HasStore ref) (answer : α) :
    Accounts ref world [] (.ok answer, world) :=
  of_undisturbed made ((Undisturbed.framing ref).refl world)

/-- A deed that is no part of a close. -/
theorem of_deed {deed : Deed} {result : Except Abort α × World}
    (recounts : Recounts ref world [deed] result) (begins : deed.begins = false)
    (turn : deed.turn? = none) : Accounts ref world [deed] result where
  toRecounts := recounts
  regular := .idle (.of_deed begins turn)
  idle _ := .of_deed begins turn

/-- A call that is no part of the close, in front of what the called participant does. -/
theorem of_call {call : Call} {result : Except Abort α × World}
    (nested : Accounts ref (world.note (.called depth call)) deeds result) :
    Accounts ref world (world.aside ref (.called call) :: deeds) result where
  toRecounts := nested.toRecounts.of_call .called rfl rfl rfl
  regular := nested.regular.of_idle (.of_deed rfl rfl)
  idle closed := (Idle.of_deed rfl rfl).append (nested.idle closed)

/-- What is said of one operation, and of the other in the world that the first has left, is said of
both. -/
theorem bind {act : Act α} {next : α → Act β} {rest : α → World → List Deed}
    (first : Accounts ref world deeds (act.result world))
    (second : ∀ answer later, act.result world = (.ok answer, later) → later.HasStore ref →
      Accounts ref later (rest answer later) ((next answer).result later)) :
    Accounts ref world (deeds ++ act.onward world rest) ((act >>= next).result world) := by
  have recounts := first.toRecounts.bind fun answer later reached made =>
    (second answer later reached made).toRecounts
  rw [Act.onward] at recounts ⊢
  cases reached : act.result world with
  | mk answer between =>
    rw [reached] at first recounts
    cases answer with
    | error abort =>
      rw [List.append_nil] at recounts ⊢
      exact ⟨recounts, first.regular, first.idle⟩
    | ok value =>
      have second := second value between reached first.made
      refine ⟨recounts, first.regular.append first.proceeds second.regular second.idle,
        fun closed => (first.idle closed).append ?_⟩
      exact second.idle (first.proceeds.endures.sealed closed).closed

/-- One operation after the other, of which the second is none of the store's. -/
theorem bind_undisturbed {act : Act α} {next : α → Act β}
    (first : Accounts ref world deeds (act.result world))
    (undisturbed : ∀ answer, Act.Respects (Undisturbed ref) (next answer)) :
    Accounts ref world deeds ((act >>= next).result world) := by
  have both := first.bind fun answer later _ made =>
    of_undisturbed made (undisturbed answer later)
  rwa [Act.onward_nil, List.append_nil] at both

end Accounts

/-- A change of another store leaves this one alone. -/
theorem undisturbed_modifyStore {other : StoreRef} (different : other ≠ ref) (world : World)
    (change : BootstrapStore → BootstrapStore) :
    Undisturbed ref world (world.modifyStore other change) where
  made made := hasStore_modifyStore made other change
  store := by rw [World.store_modifyStore, if_neg fun both => different both.1.symm]
  calls := rfl

end Launchpad
