/-!
# Precedence of participants

Ranked participants come before unranked ones, lower ranks before higher ones, and ties keep the
order in which the participants were given: `byPrecedence` is a stable sort.
-/

namespace Launchpad

/-- A rank; `none` is unranked. -/
abbrev Order := Option Int

/-- Whether a participant of rank `first` may stand before one of rank `second`. -/
def Order.precedes (first second : Order) : Bool :=
  match first, second with
  | some a, some b => a ≤ b
  | none, some _ => false
  | _, none => true

theorem Order.precedes_total (first second : Order) :
    first.precedes second || second.precedes first := by
  cases first <;> cases second <;> simp [Order.precedes]
  omega

theorem Order.precedes_trans {first second third : Order}
    (left : first.precedes second) (right : second.precedes third) : first.precedes third := by
  cases first <;> cases second <;> cases third <;> simp_all [Order.precedes]
  omega

/-- The items sorted by precedence; items of one rank keep their order. -/
def byPrecedence {α : Type} (order : α → Order) (items : List α) : List α :=
  items.mergeSort fun first second => (order first).precedes (order second)

theorem byPrecedence_perm {α : Type} (order : α → Order) (items : List α) :
    (byPrecedence order items).Perm items :=
  List.mergeSort_perm _ _

/-- The ranks of items by precedence never go down. -/
theorem byPrecedence_pairwise {α : Type} (order : α → Order) (items : List α) :
    (byPrecedence order items).Pairwise fun first second =>
      (order first).precedes (order second) := by
  unfold byPrecedence
  apply List.pairwise_mergeSort
  · exact fun _ _ _ => Order.precedes_trans
  · exact fun first second => Order.precedes_total (order first) (order second)

/-- Items that stand by precedence keep their order. -/
theorem byPrecedence_of_pairwise {α : Type} {order : α → Order} {items : List α}
    (sorted : items.Pairwise fun first second => (order first).precedes (order second)) :
    byPrecedence order items = items :=
  List.mergeSort_of_pairwise sorted

end Launchpad
