import Mathlib.Data.List.Basic
import Mathlib.Data.List.Perm.Basic

/-!
# StableSort · sorting that keeps the order of ties

Rows and groups are sorted by comparisons under which different items can be equal. Equal items keep
the order in which they came.

* **`SortedStably cmp items sorted`** says that `sorted` holds the items in this way.
* **`sortedStably_mergeSort`**: a merge sort by a total preorder gives such a list.
* **`SortedStably.pairwise`**: of two items in it, the first is less, or they are equal and came in
  this order. **`SortedStably.eq`**: there is only one such list.
* **`SortedStably.filter`**: selecting items does not disturb the order. So it does not matter
  whether items are selected before or after sorting (`filter_mergeSort`).
-/

namespace Dashboard

variable {α : Type}

/-- The items in the order of a comparison, where equal items keep their order. -/
structure SortedStably (cmp : α → α → Ordering) (items sorted : List α) : Prop where
  perm : sorted.Perm items
  ordered : sorted.Pairwise fun a b => (cmp a b).isLE
  ties : ∀ a, (sorted.filter fun b => cmp a b = .eq) = items.filter fun b => cmp a b = .eq

variable {cmp : α → α → Ordering} {items sorted : List α}

/-- Some of the items of a stable sort are sorted stably. -/
theorem SortedStably.filter (h : SortedStably cmp items sorted) (p : α → Bool) :
    SortedStably cmp (items.filter p) (sorted.filter p) where
  perm := h.perm.filter p
  ordered := h.ordered.filter p
  ties a := by rw [List.filter_comm, h.ties a, List.filter_comm]

/-- Items that are all equal stay as they are. -/
theorem SortedStably.eq_self (h : SortedStably cmp items sorted)
    (hall : ∀ a ∈ items, ∀ b ∈ items, cmp a b = .eq) : sorted = items := by
  cases items with
  | nil => exact h.perm.eq_nil
  | cons a rest =>
      have hequal : ∀ b ∈ a :: rest, decide (cmp a b = .eq) = true := fun b hb =>
        decide_eq_true (hall a List.mem_cons_self b hb)
      have hties := h.ties a
      rwa [List.filter_eq_self.2 hequal,
        List.filter_eq_self.2 fun b hb => hequal b (h.perm.mem_iff.1 hb)] at hties

/-- Among equal items sorting changes nothing. -/
theorem SortedStably.filter_eq {p : α → Bool} (h : SortedStably cmp items sorted)
    (hp : ∀ a b, p a = true → p b = true → cmp a b = .eq) : sorted.filter p = items.filter p :=
  (h.filter p).eq_self fun a ha b hb => hp a b (List.mem_filter.1 ha).2 (List.mem_filter.1 hb).2

/-- A list in which a property is never regained is the items with it and then those without. -/
theorem eq_filter_append_filter {p : α → Bool}
    (h : items.Pairwise fun a b => p b = true → p a = true) :
    items = items.filter p ++ items.filter fun a => !p a := by
  induction h with
  | nil => rfl
  | @cons a rest hfirst _ ih =>
      cases hp : p a with
      | true =>
          simp only [List.filter_cons, hp, if_true, Bool.not_true, Bool.false_eq_true, if_false,
            List.cons_append]
          rw [← ih]
      | false =>
          have hnone : rest.filter p = [] := by
            rw [List.filter_eq_nil_iff]
            intro b hb hpb
            rw [hfirst b hb hpb] at hp
            cases hp
          rw [hnone, List.nil_append] at ih
          simp only [List.filter_cons, hp, Bool.false_eq_true, if_false, Bool.not_false, if_true,
            hnone, List.nil_append]
          rw [← ih]

/-- Comparisons that agree on the items sort them alike. -/
theorem mergeSort_congr {other : α → α → Ordering}
    (h : ∀ a ∈ items, ∀ b ∈ items, cmp a b = other a b) :
    (items.mergeSort fun a b => (cmp a b).isLE) =
      items.mergeSort fun a b => (other a b).isLE := by
  have hmap : ((items.mergeSort fun a b => (cmp a b).isLE).map id) =
      (items.map id).mergeSort fun a b => (other a b).isLE :=
    List.map_mergeSort fun a ha b hb => congrArg Ordering.isLE (h a ha b hb)
  rwa [List.map_id, List.map_id] at hmap

section sorting

variable [Std.TransCmp cmp]

/-- Of two items one is in order in front of the other. -/
theorem isLE_total (a b : α) : ((cmp a b).isLE || (cmp b a).isLE) = true := by
  have hswap : cmp b a = (cmp a b).swap := Std.OrientedCmp.eq_swap
  rw [hswap]
  cases cmp a b <;> rfl

/-- Merge sort is stable. -/
theorem sortedStably_mergeSort (items : List α) :
    SortedStably cmp items (items.mergeSort fun a b => (cmp a b).isLE) where
  perm := List.mergeSort_perm items _
  ordered := List.pairwise_mergeSort (fun _ _ _ => Std.TransCmp.isLE_trans) isLE_total items
  ties a := by
    -- the items that are equal to `a` are in order as they come, so sorting keeps them as they are
    have hclass : (items.filter fun b => cmp a b = .eq).Pairwise fun b c => (cmp b c).isLE := by
      rw [List.pairwise_filter]
      apply List.pairwise_of_forall
      intro b c hb hc
      rw [← Std.TransCmp.congr_left (of_decide_eq_true hb), of_decide_eq_true hc]
      rfl
    have hkept := List.sublist_mergeSort (fun _ _ _ => Std.TransCmp.isLE_trans) isLE_total hclass
      List.filter_sublist
    have hsub := hkept.filter fun b => cmp a b = .eq
    rw [List.filter_filter] at hsub
    simp only [Bool.and_self] at hsub
    have hlength := ((List.mergeSort_perm items fun a b => (cmp a b).isLE).filter
      fun b => cmp a b = .eq).length_eq
    exact (hsub.eq_of_length hlength.symm).symm

/-- Of two items, the one that stands first is less, or they are equal and came in this order. -/
theorem SortedStably.pairwise (h : SortedStably cmp items sorted) :
    sorted.Pairwise fun a b => cmp a b = .lt ∨ cmp a b = .eq ∧ [a, b].Sublist items := by
  rw [List.pairwise_iff_forall_sublist]
  intro a b hab
  have hle : (cmp a b).isLE := List.pairwise_iff_forall_sublist.1 h.ordered hab
  rcases Ordering.isLE_iff_eq_lt_or_eq_eq.1 hle with hlt | heq
  · exact .inl hlt
  · refine .inr ⟨heq, ?_⟩
    have hties := hab.filter fun c => cmp a c = .eq
    have hself : cmp a a = .eq := Std.ReflCmp.compare_self
    rw [h.ties a] at hties
    simp only [List.filter_cons, hself, heq, decide_true, if_true, List.filter_nil] at hties
    exact hties.trans List.filter_sublist

/-- Lists in the order of a comparison that agree on every class of equal items are the same. -/
theorem eq_of_ordered_of_ties {as bs : List α} (hperm : as.Perm bs)
    (has : as.Pairwise fun a b => (cmp a b).isLE) (hbs : bs.Pairwise fun a b => (cmp a b).isLE)
    (hties : ∀ a, (as.filter fun b => cmp a b = .eq) = bs.filter fun b => cmp a b = .eq) :
    as = bs := by
  induction as generalizing bs with
  | nil => exact hperm.nil_eq
  | cons a as ih =>
      cases bs with
      | nil => exact absurd hperm.eq_nil (List.cons_ne_nil a as)
      | cons b bs =>
          have hself : ∀ c, cmp c c = .eq := fun c => Std.ReflCmp.compare_self
          have hle : ∀ {c d rest}, (c :: rest).Pairwise (fun x y => (cmp x y).isLE) →
              d ∈ c :: rest → (cmp c d).isLE := by
            intro c d rest hrest hd
            rcases List.mem_cons.1 hd with rfl | hd
            · rw [hself]
              rfl
            · exact List.rel_of_pairwise_cons hrest hd
          -- each head is at most the other one, so both stand first in the same class
          have hab : cmp a b = .eq := Std.OrientedCmp.isLE_antisymm
            (hle has (hperm.mem_iff.2 List.mem_cons_self))
            (hle hbs (hperm.mem_iff.1 List.mem_cons_self))
          have hheads := hties a
          simp only [List.filter_cons, hself, hab, decide_true, if_true] at hheads
          obtain rfl := (List.cons.inj hheads).1
          rw [ih hperm.cons_inv has.of_cons hbs.of_cons]
          intro c
          have hclass := hties c
          rw [List.filter_cons, List.filter_cons] at hclass
          split at hclass
          · exact (List.cons.inj hclass).2
          · exact hclass

/-- There is one stable sort of a list. -/
theorem SortedStably.eq {other : List α} (h : SortedStably cmp items sorted)
    (hother : SortedStably cmp items other) : sorted = other :=
  eq_of_ordered_of_ties (h.perm.trans hother.perm.symm) h.ordered hother.ordered fun a =>
    (h.ties a).trans (hother.ties a).symm

/-- Leaving items out before or after a sort comes to the same. -/
theorem filter_mergeSort (p : α → Bool) (items : List α) :
    (items.mergeSort fun a b => (cmp a b).isLE).filter p =
      (items.filter p).mergeSort fun a b => (cmp a b).isLE :=
  ((sortedStably_mergeSort items).filter p).eq (sortedStably_mergeSort _)

end sorting

end Dashboard
