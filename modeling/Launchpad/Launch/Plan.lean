import Launchpad.Launch.Errand

/-!
# Plans

A `Plan` is what a run intends: errands one after the other, each chosen after the answer to the one
before, and an answer at the end. Nothing happens before a plan is carried out.
-/

namespace Launchpad

/-- Errands, each chosen after the answer to the one before, and an answer of type `α` at the
end. -/
inductive Plan (α : Type) where
  | done (answer : α)
  | perform (errand : Errand) (next : errand.Answer → Plan α)

namespace Plan

/-- Goes on with another plan after the answer of the first. -/
def bind {α β : Type} (plan : Plan α) (next : α → Plan β) : Plan β :=
  match plan with
  | done answer => next answer
  | perform errand rest => perform errand fun answer => (rest answer).bind next

instance : Monad Plan where
  pure := done
  bind := bind

protected theorem bind_done {α : Type} (plan : Plan α) : plan.bind done = plan := by
  induction plan with
  | done answer => rfl
  | perform errand next ih => exact congrArg (perform errand) (funext ih)

protected theorem bind_assoc {α β γ : Type} (plan : Plan α) (first : α → Plan β)
    (second : β → Plan γ) :
    (plan.bind first).bind second = plan.bind fun answer => (first answer).bind second := by
  induction plan with
  | done answer => rfl
  | perform errand next ih => exact congrArg (perform errand) (funext ih)

instance : LawfulMonad Plan := .mk' Plan Plan.bind_done (fun _ _ => rfl) Plan.bind_assoc

/-- The plan of a single errand. -/
def ask (errand : Errand) : Plan errand.Answer := perform errand done

/-- Carries out a plan. -/
def carryOut {α : Type} (invoke : Invoker) : Plan α → Act α
  | done answer => return answer
  | perform errand next => do
    let answer ← errand.carryOut invoke
    (next answer).carryOut invoke

end Plan

end Launchpad
