import Launchpad.Proofs.Launch.Itinerary

/-!
# Plans that follow an order

A plan follows a family of orders if every path of it is a walk along one of them: a path that
brings no error completes the order that belongs to its answer, and any other path ends on the way.
Binding two plans joins their orders, so that the order of a run is put together from those of its
steps.
-/

namespace Launchpad

namespace Plan

variable {α β : Type}

/-- The error of the run that a failed result brings. -/
def failureOf {ε : Type} (toError : ε → LaunchError) : Except ε α → Option LaunchError
  | .ok _ => none
  | .error failure => some (toError failure)

/-- Every path of the plan walks along one of the orders. `error?` tells which answers are errors,
and `along` which order belongs to which other answer. -/
structure Follows (plan : Plan α) (error? : α → Option LaunchError)
    (along : List Stop → α → Prop) : Prop where
  possible : ∃ order answer, along order answer
  completes {replies : List Reply} {answer : α} (path : plan.Path replies (some answer))
    (fine : error? answer = none) :
    ∃ order, along order answer ∧ Walk order (visitsOf replies) .completed
  fails {replies : List Reply} {answer : α} {error : LaunchError}
    (path : plan.Path replies (some answer)) (wrong : error? answer = some error) :
    ∃ order other, along order other ∧ Walk order (visitsOf replies) (.failed error)
  stops {replies : List Reply} (path : plan.Path replies none) :
    ∃ order other, along order other ∧ Walk order (visitsOf replies) .stopped

/-- No path of the plan visits a station, and the milestones and the answer of a path that comes to
its end satisfy a condition. -/
structure Quiet (plan : Plan α) (holds : List Milestone → α → Prop) : Prop where
  silent {replies : List Reply} {result : Option α} (path : plan.Path replies result) :
    visitsOf replies = []
  leaves {replies : List Reply} {answer : α} (path : plan.Path replies (some answer)) :
    holds (milestonesOf replies) answer

namespace Quiet

/-- A plan without errands is quiet. -/
theorem ofPure {holds : List Milestone → α → Prop} {answer : α} (meets : holds [] answer) :
    (pure answer : Plan α).Quiet holds where
  silent path := by
    obtain ⟨rfl, -⟩ := path_pure_iff.1 path
    rfl
  leaves path := by
    obtain ⟨rfl, same⟩ := path_pure_iff.1 path
    cases same
    exact meets

/-- An errand that is no station is quiet, and shows its milestone if it is one. -/
theorem ofAsk {errand : Errand} (bookkeeping : errand.station? = none) :
    (ask errand).Quiet fun milestones _ => milestones = errand.milestone?.toList where
  silent path := by
    obtain ⟨answer, rfl, -⟩ | ⟨abort, rfl, -⟩ := path_ask_iff.1 path <;>
      simp [visitsOf, Reply.visit?, bookkeeping]
  leaves path := by
    obtain rfl := path_ask_some_iff.1 path
    exact milestonesOf_singleton _

/-- A quiet plan meets everything that follows from what it meets. -/
theorem mono {plan : Plan α} {holds weaker : List Milestone → α → Prop} (quiet : plan.Quiet holds)
    (implies : ∀ milestones answer, holds milestones answer → weaker milestones answer) :
    plan.Quiet weaker where
  silent := quiet.silent
  leaves path := implies _ _ (quiet.leaves path)

/-- The milestones of two quiet plans stand one after the other. -/
theorem bind {plan : Plan α} {next : α → Plan β} {between : List Milestone → α → Prop}
    {holds : List Milestone → β → Prop} (first : plan.Quiet between)
    (second : ∀ milestones answer, between milestones answer →
      (next answer).Quiet fun rest last => holds (milestones ++ rest) last) :
    (plan >>= next).Quiet holds where
  silent path := by
    obtain ⟨answer, before, after, start, rest, rfl⟩ | ⟨start, -⟩ := path_bind_iff.1 path
    · have onward := second _ _ (first.leaves start)
      simp [first.silent start, onward.silent rest]
    · exact first.silent start
  leaves path := by
    obtain ⟨answer, before, after, start, rest, rfl⟩ := path_bind_some_iff.1 path
    have onward := second _ _ (first.leaves start)
    simpa using onward.leaves rest

end Quiet

namespace Follows

variable {error? : α → Option LaunchError} {along : List Stop → α → Prop}

/-- A quiet plan follows the empty order. -/
theorem ofQuiet {plan : Plan α} {holds : α → Prop} (quiet : plan.Quiet fun _ => holds)
    (fine : ∀ answer, holds answer → error? answer = none) (possible : ∃ answer, holds answer) :
    plan.Follows error? fun order answer => order = [] ∧ holds answer where
  possible := ⟨[], possible.imp fun _ meets => ⟨rfl, meets⟩⟩
  completes path _ := by
    rw [quiet.silent path]
    exact ⟨[], ⟨rfl, quiet.leaves path⟩, .completed⟩
  fails path wrong := by
    rw [fine _ (quiet.leaves path)] at wrong
    cases wrong
  stops path := by
    obtain ⟨answer, meets⟩ := possible
    rw [quiet.silent path]
    exact ⟨[], answer, ⟨rfl, meets⟩, .stopped⟩

/-- A plan without errands follows the empty order. -/
theorem ofPure {answer : α} (fine : error? answer = none) :
    (pure answer : Plan α).Follows error? fun order given => order = [] ∧ given = answer :=
  ofQuiet (.ofPure rfl) (fun _ same => same ▸ fine) ⟨answer, rfl⟩

/-- A plan that follows an order follows it however it is described. -/
theorem mono {plan : Plan α} {other : List Stop → α → Prop} (follows : plan.Follows error? along)
    (implies : ∀ order answer, along order answer → other order answer) :
    plan.Follows error? other where
  possible := by
    obtain ⟨order, answer, meets⟩ := follows.possible
    exact ⟨order, answer, implies _ _ meets⟩
  completes path fine := by
    obtain ⟨order, meets, walk⟩ := follows.completes path fine
    exact ⟨order, implies _ _ meets, walk⟩
  fails path wrong := by
    obtain ⟨order, answer, meets, walk⟩ := follows.fails path wrong
    exact ⟨order, answer, implies _ _ meets, walk⟩
  stops path := by
    obtain ⟨order, answer, meets, walk⟩ := follows.stops path
    exact ⟨order, answer, implies _ _ meets, walk⟩

/-- A plan that goes on after every answer but the errors, which it hands on without visiting
anything else, follows the joined orders. -/
theorem bind {plan : Plan α} {next : α → Plan β} {error?' : β → Option LaunchError}
    {whole : List Stop → β → Prop} (first : plan.Follows error? along)
    (goesOn : ∀ order answer, along order answer →
      (next answer).Follows error?' fun rest last => whole (order ++ rest) last)
    (givesUp : ∀ answer error, error? answer = some error →
      (next answer).Quiet fun _ last => error?' last = some error) :
    (plan >>= next).Follows error?' whole where
  possible := by
    obtain ⟨order, answer, meets⟩ := first.possible
    obtain ⟨rest, last, joined⟩ := (goesOn order answer meets).possible
    exact ⟨order ++ rest, last, joined⟩
  completes path fine := by
    obtain ⟨answer, before, after, start, rest, rfl⟩ := path_bind_some_iff.1 path
    cases verdict : error? answer with
    | none =>
      obtain ⟨order, meets, walk⟩ := first.completes start verdict
      obtain ⟨remaining, joined, onward⟩ := (goesOn order answer meets).completes rest fine
      exact ⟨order ++ remaining, joined, by simpa using walk.append onward⟩
    | some error =>
      rw [(givesUp answer error verdict).leaves rest] at fine
      cases fine
  fails path wrong := by
    obtain ⟨answer, before, after, start, rest, rfl⟩ := path_bind_some_iff.1 path
    cases verdict : error? answer with
    | none =>
      obtain ⟨order, meets, walk⟩ := first.completes start verdict
      obtain ⟨remaining, last, joined, onward⟩ := (goesOn order answer meets).fails rest wrong
      exact ⟨order ++ remaining, last, joined, by simpa using walk.append onward⟩
    | some error =>
      have quiet := givesUp answer error verdict
      have silent := quiet.silent rest
      obtain rfl : _ = error := by simpa [wrong] using quiet.leaves rest
      obtain ⟨order, between, meets, walk⟩ := first.fails start verdict
      obtain ⟨remaining, last, joined⟩ := (goesOn order between meets).possible
      exact ⟨order ++ remaining, last, joined, by simpa [silent] using walk.extend nofun⟩
  stops path := by
    obtain ⟨answer, before, after, start, rest, rfl⟩ | ⟨start, _⟩ := path_bind_iff.1 path
    · cases verdict : error? answer with
      | none =>
        obtain ⟨order, meets, walk⟩ := first.completes start verdict
        obtain ⟨remaining, last, joined, onward⟩ := (goesOn order answer meets).stops rest
        exact ⟨order ++ remaining, last, joined, by simpa using walk.append onward⟩
      | some error =>
        have silent := (givesUp answer error verdict).silent rest
        obtain ⟨order, between, meets, walk⟩ := first.fails start verdict
        obtain ⟨remaining, last, joined⟩ := (goesOn order between meets).possible
        exact ⟨order ++ remaining, last, joined, by simpa [silent] using (walk.extend nofun).stop⟩
    · obtain ⟨order, between, meets, walk⟩ := first.stops start
      obtain ⟨remaining, last, joined⟩ := (goesOn order between meets).possible
      exact ⟨order ++ remaining, last, joined, walk.extend nofun⟩

/-- An errand that has a station is a call of the order. -/
theorem ofStation {errand : Errand} {station : Station} (known : errand.station? = some station)
    (possible : ∃ answer finding, errand.outcome answer = .ok finding) :
    (ask errand).Follows errand.error? fun order answer =>
      ∃ finding, errand.outcome answer = .ok finding ∧ order = [{ station, finding }] where
  possible := by
    obtain ⟨answer, finding, found⟩ := possible
    exact ⟨_, answer, finding, found, rfl⟩
  completes path fine := by
    obtain rfl := path_ask_some_iff.1 path
    obtain ⟨finding, found⟩ := Errand.error?_eq_none_iff.1 fine
    refine ⟨_, ⟨finding, found, rfl⟩, ?_⟩
    rw [visitsOf_singleton, Reply.visit?_passed known found]
    exact .passed .completed
  fails path wrong := by
    obtain rfl := path_ask_some_iff.1 path
    obtain ⟨other, finding, found⟩ := possible
    refine ⟨_, other, ⟨finding, found, rfl⟩, ?_⟩
    rw [visitsOf_singleton, Reply.visit?_failed known (Errand.error?_eq_some_iff.1 wrong)]
    exact .failed
  stops path := by
    obtain ⟨abort, rfl⟩ := path_ask_none_iff.1 path
    obtain ⟨other, finding, found⟩ := possible
    refine ⟨_, other, ⟨finding, found, rfl⟩, ?_⟩
    rw [visitsOf_singleton, Reply.visit?_broken known]
    exact .broken

/-- A call of the order whose answer is read as a result. -/
theorem ofCall {ε : Type} {toError : ε → LaunchError} {station : Station} {finding : α → Finding}
    (errand : Errand) (view : errand.Answer → Except ε α)
    (known : errand.station? = some station)
    (agrees : ∀ answer, errand.outcome answer = ((view answer).mapError toError).map finding)
    (possible : ∃ answer value, view answer = .ok value) :
    (view <$> ask errand).Follows (failureOf toError) fun order answer =>
      ∃ value, answer = .ok value ∧ order = [{ station, finding := finding value }] := by
  have answers : ∃ answer finding, errand.outcome answer = .ok finding := by
    obtain ⟨answer, value, same⟩ := possible
    exact ⟨answer, finding value, by rw [agrees, same]; rfl⟩
  have sameError : ∀ answer, errand.error? answer = failureOf toError (view answer) := by
    intro answer
    rw [Errand.error?, agrees]
    cases view answer <;> rfl
  rw [map_eq_pure_bind]
  refine bind (ofStation known answers) ?_ ?_
  · rintro _ answer ⟨found, reached, rfl⟩
    rw [agrees] at reached
    cases same : view answer with
    | ok value =>
      rw [same] at reached
      cases reached
      refine (ofPure rfl).mono ?_
      rintro _ _ ⟨rfl, rfl⟩
      exact ⟨value, rfl, rfl⟩
    | error failure => simp [same, Except.mapError, Except.map] at reached
  · intro answer error wrong
    exact .ofPure (sameError answer ▸ wrong)

/-- Calling every item up to the first failure joins the orders of the items. -/
theorem untilFailure {ε : Type} {toError : ε → LaunchError} {call : α → Plan (Except ε Unit)}
    {stops : α → List Stop} (items : List α)
    (follows : ∀ item ∈ items, (call item).Follows (failureOf toError) fun order answer =>
      answer = .ok () ∧ order = stops item) :
    (Launchpad.untilFailure call items).Follows (failureOf toError) fun order answer =>
      answer = .ok () ∧ order = items.flatMap stops := by
  induction items with
  | nil => exact (ofPure rfl).mono fun _ _ ⟨empty, same⟩ => ⟨same, empty⟩
  | cons item rest ih =>
    refine bind (follows item (List.mem_cons_self ..)) ?_ ?_
    · rintro _ _ ⟨rfl, rfl⟩
      refine (ih fun other among => follows other (List.mem_cons_of_mem _ among)).mono ?_
      rintro _ _ ⟨rfl, rfl⟩
      exact ⟨rfl, rfl⟩
    · rintro (failure | _) error wrong
      · exact .ofPure wrong
      · cases wrong

end Follows

end Plan

namespace StepM

variable {σ α β ε : Type}

/-- The error with which a step ended, if it ended with one. -/
def error? (ended : Except LaunchError α × σ) : Option LaunchError :=
  match ended.1 with
  | .ok _ => none
  | .error error => some error

/-- Every path of a step from a state walks along one of the orders. An order belongs to what the
step answers and to the state that it leaves. -/
def Follows (step : StepM σ α) (start : σ) (along : List Stop → α → σ → Prop) : Prop :=
  Plan.Follows (step.run.run start) error? fun order ended =>
    ∃ answer last, ended = (.ok answer, last) ∧ along order answer last

/-- A step that carries out a plan, taken apart. -/
theorem run_act (plan : Plan α) (start : σ) :
    (act plan : StepM σ α).run.run start = plan >>= fun answer => pure (.ok answer, start) := by
  change (plan >>= fun answer => pure (answer, start)) >>= _ = _
  rw [bind_assoc]
  rfl

/-- Two steps one after the other, taken apart: the second one begins where the first one succeeded.
-/
theorem run_bind (step : StepM σ α) (next : α → StepM σ β) (start : σ) :
    (step >>= next).run.run start = step.run.run start >>= fun
      | (.ok answer, between) => (next answer).run.run between
      | (.error error, between) => pure (.error error, between) := by
  change step.run.run start >>= _ = _
  congr
  funext ended
  rcases ended with ⟨answer | error, between⟩ <;> rfl

/-- A step that checks a plan, taken apart. -/
theorem run_check (toError : ε → LaunchError) (plan : Plan (Except ε α)) (start : σ) :
    (check toError plan : StepM σ α).run.run start =
      plan >>= fun answer => pure (answer.mapError toError, start) := by
  rw [check, run_bind, run_act, bind_assoc]
  congr
  funext answer
  cases answer <;> rfl
namespace Follows

variable {start : σ}

/-- A step that follows an order follows it however it is described. -/
theorem mono {step : StepM σ α} {along other : List Stop → α → σ → Prop}
    (follows : Follows step start along)
    (implies : ∀ order answer last, along order answer last → other order answer last) :
    Follows step start other :=
  Plan.Follows.mono follows fun _ _ ⟨answer, last, same, meets⟩ =>
    ⟨answer, last, same, implies _ _ _ meets⟩

/-- A step that answers at once follows the empty order. -/
theorem ofDone {step : StepM σ α} {answer : α} {last : σ}
    (done : step.run.run start = pure (.ok answer, last)) :
    Follows step start fun order given left => order = [] ∧ given = answer ∧ left = last := by
  unfold Follows
  rw [done]
  refine Plan.Follows.mono (.ofPure rfl) ?_
  rintro order _ ⟨rfl, rfl⟩
  exact ⟨answer, last, rfl, rfl, rfl, rfl⟩

/-- A step that takes nothing follows the empty order. -/
theorem ofPure (answer : α) :
    Follows (pure answer : StepM σ α) start fun order given last =>
      order = [] ∧ given = answer ∧ last = start :=
  ofDone rfl

/-- Looking at the state follows the empty order. -/
theorem ofGet : Follows (get : StepM σ σ) start fun order given last =>
    order = [] ∧ given = start ∧ last = start :=
  ofDone rfl

/-- Changing the state follows the empty order. -/
theorem ofModify (change : σ → σ) :
    Follows (modify change : StepM σ PUnit) start fun order _ last =>
      order = [] ∧ last = change start :=
  mono (ofDone rfl) fun _ _ _ ⟨empty, _, changed⟩ => ⟨empty, changed⟩

/-- Steps one after the other follow the joined orders. -/
theorem bind {step : StepM σ α} {next : α → StepM σ β} {along : List Stop → α → σ → Prop}
    {whole : List Stop → β → σ → Prop} (first : Follows step start along)
    (rest : ∀ order answer between, along order answer between →
      Follows (next answer) between fun remaining last left =>
        whole (order ++ remaining) last left) :
    Follows (step >>= next) start whole := by
  refine Plan.Follows.bind first ?_ ?_
  · rintro order _ ⟨answer, between, rfl, meets⟩
    exact rest order answer between meets
  · rintro ⟨_ | error, between⟩ _ wrong
    · cases wrong
      exact .ofPure rfl
    · cases wrong

/-- A step that ends the run if its plan failed. -/
theorem ofCheck {plan : Plan (Except ε α)} {toError : ε → LaunchError}
    {along : List Stop → α → Prop}
    (follows : plan.Follows (Plan.failureOf toError) fun order answer =>
      ∃ value, answer = .ok value ∧ along order value) :
    Follows (check toError plan) start fun order value last =>
      last = start ∧ along order value := by
  unfold Follows
  rw [run_check]
  refine Plan.Follows.bind follows ?_ ?_
  · rintro order _ ⟨value, rfl, meets⟩
    refine Plan.Follows.mono (.ofPure rfl) ?_
    rintro _ _ ⟨rfl, rfl⟩
    exact ⟨value, start, rfl, rfl, by simpa using meets⟩
  · rintro (failure | value) error wrong
    · exact .ofPure wrong
    · cases wrong

/-- A step that follows a plan without errors. -/
theorem ofAct {plan : Plan α} {along : List Stop → α → Prop}
    (follows : plan.Follows (fun _ => none) along) :
    Follows (act plan) start fun order value last => last = start ∧ along order value := by
  unfold Follows
  rw [run_act]
  refine Plan.Follows.bind follows ?_ nofun
  intro order value meets
  refine Plan.Follows.mono (.ofPure rfl) ?_
  rintro _ _ ⟨rfl, rfl⟩
  exact ⟨value, start, rfl, rfl, by simpa using meets⟩

/-- An errand that has no station follows the empty order. -/
theorem ofAsk {errand : Errand} [Nonempty errand.Answer] (bookkeeping : errand.station? = none) :
    Follows (ask errand : StepM σ errand.Answer) start fun order _ last =>
      last = start ∧ order = [] := by
  have quiet : (Plan.ask errand).Quiet fun _ _ => True :=
    (Plan.Quiet.ofAsk bookkeeping).mono fun _ _ _ => trivial
  refine mono (ofAct (.ofQuiet quiet (fun _ _ => rfl) ⟨Classical.arbitrary _, trivial⟩)) ?_
  rintro _ _ _ ⟨rfl, rfl, _⟩
  exact ⟨rfl, rfl⟩

/-- A call of the order that cannot fail. -/
theorem ofFind {errand : Errand} [Nonempty errand.Answer] {station : Station}
    {finding : errand.Answer → Finding} (known : errand.station? = some station)
    (always : ∀ answer, errand.outcome answer = .ok (finding answer)) :
    Follows (ask errand : StepM σ errand.Answer) start fun order answer last =>
      last = start ∧ order = [{ station, finding := finding answer }] := by
  have answers : ∃ answer found, errand.outcome answer = .ok found :=
    ⟨Classical.arbitrary _, _, always _⟩
  have fine : errand.error? = fun _ => none := by
    funext answer
    exact Errand.error?_eq_none_iff.2 ⟨_, always answer⟩
  have follows := Plan.Follows.ofStation known answers
  rw [fine] at follows
  refine mono (ofAct follows) ?_
  rintro _ answer _ ⟨rfl, found, reached, rfl⟩
  rw [always] at reached
  cases reached
  exact ⟨rfl, rfl⟩

/-- Taking a step for each item joins the orders of the items. -/
theorem each {step : α → StepM σ Unit} {stops : α → List Stop} (items : List α)
    (follows : ∀ item ∈ items, Follows (step item) start fun order _ last =>
      last = start ∧ order = stops item) :
    Follows (StepM.each step items) start fun order _ last =>
      last = start ∧ order = items.flatMap stops := by
  induction items with
  | nil => exact mono (ofPure ()) fun _ _ _ ⟨empty, _, same⟩ => ⟨same, empty⟩
  | cons item rest ih =>
    refine bind (follows item (List.mem_cons_self ..)) ?_
    rintro _ _ _ ⟨rfl, rfl⟩
    refine mono (ih fun other among => follows other (List.mem_cons_of_mem _ among)) ?_
    rintro _ _ _ ⟨rfl, rfl⟩
    exact ⟨rfl, by simp⟩

end Follows

end StepM

/-- A step that dispatches, taken apart: the bus is replaced by what it was dispatched to. -/
theorem LaunchM.run_dispatch {σ : Type} (plan : LifecycleBus → Plan (LifecycleBus.Dispatched σ))
    (launch : Launch) :
    (dispatch plan).run.run launch = plan launch.bus >>= fun dispatched =>
      pure (dispatched.result.map fun _ => dispatched.state,
        { launch with bus := dispatched.bus }) := by
  change (StepM.act (plan launch.bus) >>= _ : LaunchM σ).run.run launch = _
  rw [StepM.run_bind, StepM.run_act, bind_assoc]
  congr
  funext ⟨result, _, _⟩
  cases result <;> rfl

/-- What a bus dispatches, the run dispatches. -/
theorem LaunchM.path_dispatch {σ : Type} {plan : LifecycleBus → Plan (LifecycleBus.Dispatched σ)}
    {launch : Launch} {replies : List Reply} {dispatched : LifecycleBus.Dispatched σ}
    (path : (plan launch.bus).Path replies (some dispatched)) :
    ((dispatch plan).run.run launch).Path replies
      (some (dispatched.result.map fun _ => dispatched.state,
        { launch with bus := dispatched.bus })) := by
  rw [run_dispatch]
  exact Plan.path_bind_iff.2
    (.inl ⟨dispatched, replies, [], path, Plan.path_pure_iff.2 ⟨rfl, rfl⟩, by simp⟩)

end Launchpad
