import Launchpad.Precedence
import Mathlib.Data.List.Basic
import Mathlib.Data.List.Induction

/-!
# Precedence and first occurrences

`Ranked` says what a stable sort by precedence is without saying how it is made: the same items, the
ranks going up with the unranked items last, and the items of each rank in the order in which they
were given. There is only one such list. So a sort may come before or after another one, and before
or after the removal of repeated items, which keeps the first occurrence of each.
-/

namespace Launchpad

/-! ## First occurrences -/

section

variable {α : Type} [DecidableEq α]

/-- One more item goes behind the distinct ones, unless it is among them. -/
theorem eraseDups_append_singleton (items : List α) (item : α) :
    (items ++ [item]).eraseDups =
      if item ∈ items then items.eraseDups else items.eraseDups ++ [item] := by
  rw [List.eraseDups_append]
  by_cases known : item ∈ items <;> simp [known, List.removeAll, List.eraseDups_cons]

/-- Nothing is added, and what is left keeps its order. -/
theorem eraseDups_sublist (items : List α) : items.eraseDups.Sublist items := by
  induction items using List.reverseRecOn with
  | nil => exact .slnil
  | append_singleton earlier item ih =>
    rw [eraseDups_append_singleton]
    split
    · exact ih.trans (List.sublist_append_left _ _)
    · exact ih.append_right [item]

/-- The first occurrences of some of the items. -/
theorem eraseDups_filter (keep : α → Bool) (items : List α) :
    (items.filter keep).eraseDups = items.eraseDups.filter keep := by
  induction items using List.reverseRecOn with
  | nil => rfl
  | append_singleton earlier item ih =>
    rw [List.filter_append, eraseDups_append_singleton]
    by_cases kept : keep item = true
    · rw [List.filter_cons_of_pos kept, List.filter_nil, eraseDups_append_singleton, ih]
      by_cases known : item ∈ earlier <;> simp [known, kept]
    · rw [List.filter_cons_of_neg kept, List.filter_nil, List.append_nil, ih]
      by_cases known : item ∈ earlier <;> simp [known, kept]

/-- What occurs first stands first. -/
theorem pairwise_idxOf_eraseDups (items : List α) :
    items.eraseDups.Pairwise fun first second => items.idxOf first < items.idxOf second := by
  induction items using List.reverseRecOn with
  | nil => exact .nil
  | append_singleton earlier item ih =>
    have among {other : α} (listed : other ∈ earlier.eraseDups) :
        (earlier ++ [item]).idxOf other = earlier.idxOf other :=
      List.idxOf_append_of_mem (List.mem_eraseDups.1 listed)
    have still : earlier.eraseDups.Pairwise fun first second =>
        (earlier ++ [item]).idxOf first < (earlier ++ [item]).idxOf second :=
      ih.imp_of_mem fun first second before => by rwa [among first, among second]
    rw [eraseDups_append_singleton]
    split
    · exact still
    · rename_i new
      refine List.pairwise_append.2 ⟨still, List.pairwise_singleton _ _, ?_⟩
      intro first listed last here
      obtain rfl := List.mem_singleton.1 here
      have bound := List.idxOf_lt_length_of_mem (List.mem_eraseDups.1 listed)
      rw [among listed, List.idxOf_append_of_notMem new]
      exact Nat.lt_of_lt_of_le bound (Nat.le_add_right _ _)

/-- What is left has no duplicates. -/
theorem nodup_eraseDups (items : List α) : items.eraseDups.Nodup := by
  refine (pairwise_idxOf_eraseDups items).imp ?_
  rintro first _ before rfl
  exact Nat.lt_irrefl _ before

end

/-! ## The order of ranks -/

/-- What may stand before a ranked item is ranked itself, and no higher. -/
theorem Order.precedes_iff (first second : Order) :
    first.precedes second = true ↔
      ∀ rank, second = some rank → ∃ lower ≤ rank, first = some lower := by
  cases first <;> cases second <;> simp [precedes]

/-- Every rank precedes itself. -/
theorem Order.precedes_refl (rank : Order) : rank.precedes rank = true := by
  cases rank <;> simp [precedes]

/-- Ranks that precede each other are the same. -/
theorem Order.precedes_antisymm {first second : Order} (forth : first.precedes second = true)
    (back : second.precedes first = true) : first = second := by
  cases first <;> cases second <;> simp_all [precedes]
  omega

/-! ## Sorted by precedence -/

variable {α : Type} {order : α → Order}

/-- Some items sorted by precedence. -/
structure Ranked (order : α → Order) (items sorted : List α) : Prop where
  /-- The same items, each as often. -/
  perm : sorted.Perm items
  /-- Ranked items come before unranked ones, and their ranks do not go down. -/
  ascends : sorted.Pairwise fun first second =>
    ∀ rank, order second = some rank → ∃ lower ≤ rank, order first = some lower
  /-- Items of the same rank keep their order. -/
  ties : ∀ rank, sorted.filter (order · = rank) = items.filter (order · = rank)

/-- Two lists whose ranks go up are the same if they have the same items of each rank in the same
order. -/
theorem eq_of_ranks {first second : List α}
    (ascends : first.Pairwise fun one other => (order one).precedes (order other) = true)
    (climbs : second.Pairwise fun one other => (order one).precedes (order other) = true)
    (same : ∀ rank, first.filter (order · = rank) = second.filter (order · = rank)) :
    first = second := by
  induction first generalizing second with
  | nil =>
    cases second with
    | nil => rfl
    | cons item rest => simpa using same (order item)
  | cons item rest ih =>
    cases second with
    | nil => simpa using same (order item)
    | cons other others =>
      have lowest {head : α} {tail : List α}
          (sorted : (head :: tail).Pairwise fun one other =>
            (order one).precedes (order other) = true) {one : α} (among : one ∈ head :: tail) :
          (order head).precedes (order one) = true := by
        obtain rfl | later := List.mem_cons.1 among
        · exact Order.precedes_refl _
        · exact (List.pairwise_cons.1 sorted).1 one later
      have there : item ∈ other :: others := by
        have among : item ∈ (item :: rest).filter (order · = order item) := by simp
        rw [same] at among
        exact (List.mem_filter.1 among).1
      have here : other ∈ item :: rest := by
        have among : other ∈ (other :: others).filter (order · = order other) := by simp
        rw [← same] at among
        exact (List.mem_filter.1 among).1
      -- Each head stands in the other list too, so neither is ranked below the other, and the lists
      -- of its rank begin with it.
      have ranks : order item = order other :=
        Order.precedes_antisymm (lowest ascends here) (lowest climbs there)
      have heads := same (order item)
      rw [List.filter_cons_of_pos (by simp), List.filter_cons_of_pos (by simp [ranks])] at heads
      obtain ⟨rfl, -⟩ := List.cons.inj heads
      refine congrArg _ (ih (List.pairwise_cons.1 ascends).2 (List.pairwise_cons.1 climbs).2
        fun rank => ?_)
      by_cases own : order item = rank <;> simpa [own] using same rank

/-- The items of one rank keep their order when they are sorted by precedence. -/
theorem filter_byPrecedence (items : List α) (rank : Order) :
    (byPrecedence order items).filter (order · = rank) = items.filter (order · = rank) := by
  have level : (items.filter (order · = rank)).Pairwise fun first second =>
      (order first).precedes (order second) = true := by
    rw [List.pairwise_filter]
    apply List.pairwise_of_forall
    intro first second one other
    rw [of_decide_eq_true one, of_decide_eq_true other]
    exact Order.precedes_refl rank
  have kept : (items.filter (order · = rank)).Sublist (byPrecedence order items) :=
    List.sublist_mergeSort
      (fun first second third => @Order.precedes_trans (order first) (order second) (order third))
      (fun first second => Order.precedes_total (order first) (order second)) level
      List.filter_sublist
  have within := kept.filter (order · = rank)
  rw [List.filter_filter, List.filter_congr fun item _ => Bool.and_self _] at within
  exact (within.eq_of_length ((byPrecedence_perm order items).filter _).length_eq.symm).symm

/-- The stable sort sorts. -/
theorem byPrecedence_ranked (order : α → Order) (items : List α) :
    Ranked order items (byPrecedence order items) where
  perm := byPrecedence_perm order items
  ascends := (byPrecedence_pairwise order items).imp fun before =>
    (Order.precedes_iff _ _).1 before
  ties := filter_byPrecedence items

/-- There is only one list that is sorted by precedence. -/
theorem Ranked.eq_byPrecedence {items sorted : List α} (ranked : Ranked order items sorted) :
    sorted = byPrecedence order items :=
  eq_of_ranks (ranked.ascends.imp fun before => (Order.precedes_iff _ _).2 before)
    (byPrecedence_pairwise order items) fun rank =>
      (ranked.ties rank).trans (filter_byPrecedence items rank).symm

/-- What a sort comes to: only the ranks that there are have to be looked at. -/
theorem byPrecedence_eq_of_ranks {items sorted : List α}
    (ascends : sorted.Pairwise fun first second => (order first).precedes (order second) = true)
    (ties : ∀ item ∈ items ++ sorted,
      sorted.filter (order · = order item) = items.filter (order · = order item)) :
    byPrecedence order items = sorted := by
  refine (eq_of_ranks ascends (byPrecedence_pairwise order items) fun rank => ?_).symm
  rw [filter_byPrecedence]
  by_cases there : ∃ item ∈ items ++ sorted, order item = rank
  · obtain ⟨item, among, rfl⟩ := there
    exact ties item among
  · have none {others : List α} (within : others ⊆ items ++ sorted) :
        others.filter (order · = rank) = [] :=
      List.filter_eq_nil_iff.2 fun item among same =>
        there ⟨item, within among, of_decide_eq_true same⟩
    rw [none (List.subset_append_right _ _), none (List.subset_append_left _ _)]

/-- It makes no difference whether what comes last was sorted before. -/
theorem byPrecedence_append_byPrecedence (order : α → Order) (first second : List α) :
    byPrecedence order (first ++ byPrecedence order second) =
      byPrecedence order (first ++ second) := by
  refine Ranked.eq_byPrecedence ⟨?_, (byPrecedence_ranked order _).ascends, fun rank => ?_⟩
  · exact (byPrecedence_perm order _).trans ((byPrecedence_perm order second).append_left first)
  · rw [filter_byPrecedence, List.filter_append, filter_byPrecedence, List.filter_append]

/-- It makes no difference whether repeated items are removed before or after the sort. -/
theorem eraseDups_byPrecedence [DecidableEq α] (order : α → Order) (items : List α) :
    (byPrecedence order items).eraseDups = byPrecedence order items.eraseDups := by
  refine eq_of_ranks ((byPrecedence_pairwise order items).sublist (eraseDups_sublist _))
    (byPrecedence_pairwise order _) fun rank => ?_
  rw [← eraseDups_filter, filter_byPrecedence, eraseDups_filter, filter_byPrecedence]

end Launchpad
